import Autoscaler.Proofs.Console.Markup
import Autoscaler.Proofs.Console.Scalar
import Autoscaler.Proofs.Console.Screen
import Autoscaler.Summary

/-!
# Which settings can be shown

A summary is drawn unless one of the two integers has too many digits to be written
(`Summary.exists_text`, `Summary.text_of_long`). No text is an obstacle to that, whatever its brackets,
and none is taken for markup (`Summary.table_shows`). What is drawn is printed if the screen takes it
(`Summary.printed_eq_ok_iff`).
-/

namespace Autoscaler

open Json.Grammar

namespace Settings

/-- Whether both integers of settings have few enough digits to be written. -/
def isWritable (s : Settings) : Bool :=
  Numeral.isWritable s.pollPeriodSeconds && Numeral.isWritable s.maxSyncFailures

theorem isWritable_get {s : Settings} (writable : s.isWritable = true) (f : Field) :
    (s.get f).isWritable = true := by
  obtain ⟨poll, failures⟩ := Bool.and_eq_true_iff.mp writable
  cases f with
  | pollPeriodSeconds => exact poll
  | maxSyncFailures => exact failures
  | target | configmap | podNamespace | defaultParams | printVersion | nodeLabels => rfl

theorem exists_long_field {s : Settings} (long : s.isWritable = false) :
    ∃ f ∈ Summary.fields, (s.get f).isWritable = false := by
  rcases Bool.and_eq_false_iff.mp long with poll | failures
  · exact ⟨.pollPeriodSeconds, by decide, poll⟩
  · exact ⟨.maxSyncFailures, by decide, failures⟩

end Settings

namespace Summary

/-- The cell of a value that can be written has no surrogate if the value has none. -/
theorem exists_cell {v : Value} (writable : v.isWritable = true) :
    ∃ t, cell v = .ok t ∧ (NoSurrogate v.plain → NoSurrogate t) := by
  obtain ⟨ts, rendered, whole⟩ := Markup.render_escape v.plain
  refine ⟨ts.flatMap Markup.shown, by rw [cell, if_pos writable, rendered], fun scalar => ?_⟩
  have all : NoSurrogate ts.flatten := by
    rcases whole with whole | whole
    · rwa [whole]
    · rw [whole]
      exact noSurrogate_append.mpr ⟨scalar, by decide⟩
  refine noSurrogate_flatMap.mpr fun t member => Markup.noSurrogate_shown ?_
  exact all.of_subset fun c inside => List.mem_flatten_of_mem member inside

theorem cell_of_long {v : Value} (long : v.isWritable = false) :
    cell v = .error .tooManyDigits := by
  rw [cell, long]
  rfl

section

variable {s : Settings} {fs : List Field}

theorem exists_rows (writable : s.isWritable = true) (fs : List Field) :
    ∃ rs, rows s fs = .ok rs ∧ ((∀ f ∈ fs, NoSurrogate (s.get f).plain) →
      ∀ row ∈ rs, ∀ cell ∈ row, NoSurrogate cell) := by
  induction fs with
  | nil => exact ⟨[], rfl, fun _ _ member => nomatch member⟩
  | cons f fs ih =>
      obtain ⟨t, cell_eq, scalar⟩ := exists_cell (Settings.isWritable_get writable f)
      obtain ⟨rs, rows_eq, scalars⟩ := ih
      refine ⟨[("--" : Text) ++ f.flag, t] :: rs, by rw [rows, cell_eq, rows_eq]; rfl,
        fun plain => ?_⟩
      obtain ⟨first, others⟩ := List.forall_mem_cons.mp plain
      have flag : NoSurrogate (("--" : Text) ++ f.flag) := by
        cases f <;> decide +kernel
      refine List.forall_mem_cons.mpr ⟨?_, scalars others⟩
      exact List.forall_mem_cons.mpr ⟨flag, List.forall_mem_singleton.mpr (scalar first)⟩

theorem rows_of_long (long : ∃ f ∈ fs, (s.get f).isWritable = false) :
    rows s fs = .error .tooManyDigits := by
  induction fs with
  | nil => simp at long
  | cons f fs ih =>
      rw [rows]
      cases here : (s.get f).isWritable with
      | false => rw [cell_of_long here]
      | true =>
          obtain ⟨t, cell_eq, _⟩ := exists_cell here
          have later : ∃ f ∈ fs, (s.get f).isWritable = false := by simpa [here] using long
          rw [cell_eq, ih later]
          rfl

/-- Settings whose integers can be written have a summary, on a console of any width. It has no
surrogate if no value has one. -/
theorem exists_text (writable : s.isWritable = true) (consoleWidth : Nat) :
    ∃ t, text s consoleWidth = .ok t ∧
      ((∀ f ∈ fields, NoSurrogate (s.get f).plain) → NoSurrogate t) := by
  obtain ⟨rs, rows_eq, scalars⟩ := exists_rows writable fields
  have constant : NoSurrogate title ∧ ∀ cell ∈ (["Flag", "Value"] : List Text),
      NoSurrogate cell := by decide
  refine ⟨Console.Table.render ⟨title, ["Flag", "Value"], rs⟩ consoleWidth,
    by rw [text, table, rows_eq]; rfl, fun plain => ?_⟩
  exact Console.Table.noSurrogate_render ⟨constant.1, constant.2, scalars plain⟩ consoleWidth

theorem text_of_long (long : s.isWritable = false) (consoleWidth : Nat) :
    text s consoleWidth = .error .tooManyDigits := by
  rw [text, table, rows_of_long (Settings.exists_long_field long)]
  rfl

variable {screen : Screen} {t : Text}

/-- A summary that is drawn but has surrogates is not printed on a screen of UTF-8. -/
theorem exists_printed_of_not_takes (drawn : text s screen.width = .ok t)
    (refused : ¬ screen.Takes t) : ∃ stretch, Utf8.surrogateStretch? t = some stretch ∧
      printed s screen = .error (.encoding stretch) := by
  obtain ⟨stretch, found, put⟩ := Screen.exists_put_of_not_takes refused
  refine ⟨stretch, found, ?_⟩
  rw [printed, drawn, Except.bind, put]
  rfl

theorem printed_of_long (long : s.isWritable = false) (screen : Screen) :
    printed s screen = .error .tooManyDigits := by
  rw [printed, text_of_long long]
  rfl

/-- What is printed is the summary that is drawn, as a whole. -/
theorem printed_eq_ok_iff :
    printed s screen = .ok t ↔ text s screen.width = .ok t ∧ screen.Takes t := by
  constructor
  · intro done
    cases drawn : text s screen.width with
    | error e =>
        rw [printed, drawn] at done
        cases done
    | ok summary =>
        rw [printed, drawn, Except.bind] at done
        cases put : screen.put summary with
        | error stretch =>
            rw [put] at done
            cases done
        | ok taken =>
            rw [put] at done
            obtain ⟨rfl, takes⟩ := Screen.put_eq_ok_iff.mp put
            cases done
            exact ⟨rfl, takes⟩
  · rintro ⟨drawn, takes⟩
    rw [printed, drawn, Except.bind, Screen.put_of_takes takes]
    rfl

end

/-! ## Cells -/

/-- The text of a cell comes from escaped markup, in which there is no style. -/
theorem render_of_cell {v : Value} {t : Text} (shown : cell v = .ok t) :
    Markup.render (Markup.escape v.plain) = .ok ⟨t, []⟩ := by
  obtain ⟨ts, rendered, _⟩ := Markup.render_escape v.plain
  unfold cell at shown
  split at shown
  · rw [rendered] at shown
    cases shown
    exact rendered
  · cases shown

theorem cell_eq_plain {v : Value} (writable : v.isWritable = true)
    (unmarked : Markup.IsUnmarked v.plain) : cell v = .ok v.plain := by
  rw [cell, if_pos writable, Markup.render_escape_eq_self unmarked]

/-- Whether a row shows the value of a field: next to the flag stands what the escaped text of the
value is rendered to, which has no style. -/
def ShowsField (s : Settings) (f : Field) (row : List Text) : Prop :=
  ∃ t, row = [("--" : Text) ++ f.flag, t] ∧
    Markup.render (Markup.escape (s.get f).plain) = .ok ⟨t, []⟩ ∧
    (Markup.IsUnmarked (s.get f).plain → t = (s.get f).plain)

theorem showsField_of_cell {s : Settings} {f : Field} {t : Text}
    (shown : cell (s.get f) = .ok t) : ShowsField s f [("--" : Text) ++ f.flag, t] := by
  have rendered := render_of_cell shown
  refine ⟨t, rfl, rendered, ?_⟩
  intro unmarked
  rw [Markup.render_escape_eq_self unmarked] at rendered
  cases rendered
  rfl

theorem forall₂_rows {s : Settings} {fs : List Field} {rs : List (List Text)}
    (drawn : rows s fs = .ok rs) : List.Forall₂ (ShowsField s) fs rs := by
  induction fs generalizing rs with
  | nil =>
      cases drawn
      exact .nil
  | cons f fs ih =>
      rw [rows] at drawn
      split at drawn
      · cases drawn
      · next t shown =>
        obtain ⟨rest, others, rfl⟩ := exists_of_map_eq_ok drawn
        exact .cons (showsField_of_cell shown) (ih others)

/-- No value is taken for markup. However the brackets of a text stand, if it has no backslash, colon
or control code, the markup that it is escaped to is rendered to the text itself without a style, and
so is its cell. In the table of any settings that can be shown each row has a flag and what the
escaped text of its value is rendered to, which has no style, whatever the text, and is the text
itself under the same condition. -/
theorem table_shows :
    (∀ v : Text, Markup.IsUnmarked v →
      Markup.render (Markup.escape v) = .ok ⟨v, []⟩ ∧ cell (.text v) = .ok v) ∧
    ∀ s : Settings, s.isWritable = true →
      ∃ rs, table s = .ok ⟨title, ["Flag", "Value"], rs⟩ ∧
        List.Forall₂ (ShowsField s) fields rs := by
  constructor
  · intro v unmarked
    exact ⟨Markup.render_escape_eq_self unmarked, cell_eq_plain rfl unmarked⟩
  · intro s writable
    obtain ⟨rs, drawn, _⟩ := exists_rows writable fields
    refine ⟨rs, ?_, forall₂_rows drawn⟩
    rw [table, drawn]
    rfl

/-- Tags that open, close and link, inside of each other and left open. -/
theorem table_shows_brackets :
    let v : Text := "[[bold]x[/red][link=a] ][/] [@click][#fff"
    let s : Settings := { configmap := v }
    Markup.IsUnmarked v ∧ s.isWritable = true ∧
      Markup.render (Markup.escape v) = .ok ⟨v, []⟩ ∧
      ∃ rs, table s = .ok ⟨title, ["Flag", "Value"], rs⟩ ∧
        [("--configmap" : Text), v] ∈ rs := by
  intro v s
  have unmarked : Markup.IsUnmarked v := by decide +kernel
  have writable : s.isWritable = true := by decide +kernel
  obtain ⟨texts, tables⟩ := table_shows
  obtain ⟨rs, drawn, shown⟩ := tables s writable
  obtain ⟨row, member, t, rfl, -, same⟩ :=
    exists_of_forall₂ shown (x := .configmap) (List.mem_cons_of_mem _ (List.mem_cons_self ..))
  rw [same unmarked] at member
  exact ⟨unmarked, writable, (texts v unmarked).1, rs, drawn, member⟩

end Summary

end Autoscaler
