import Autoscaler.Params.Replacement
import Autoscaler.Proofs.Json.Printable
import Autoscaler.Proofs.Params.Decoding

/-!
# Parameter maps under replacement

Whether a replacement works, and what it puts into the map, depends on nothing that is in the map
(`Replacement.run_eq`). So after each step of a run the map holds what the most recent step that
worked makes on its own, in texts that encoding gives again (`Replacement.steps_settle`).
-/

namespace Autoscaler

open Json.Grammar

namespace ParamMap

theorem distinct_ofTexts {es : List (Text × Text)} (distinct : (es.map Prod.fst).Nodup) :
    Entries.Distinct Value.sameKey (ofTexts es) := by
  have names := List.pairwise_map.mp distinct
  refine List.pairwise_map.mpr (names.imp fun {d e} differ => ?_)
  rw [Value.sameKey]
  exact beq_eq_false_iff_ne.mpr differ

/-- Nothing that was in a map is left after it is cleared and distinct names are assigned. -/
theorem update_clear (m : ParamMap) {es : List (Text × Text)}
    (distinct : (es.map Prod.fst).Nodup) : m.clear.update es = ofTexts es :=
  Entries.ofAssignments_of_distinct (distinct_ofTexts distinct)

/-- What is left of a map when another is to take its place, with what is logged. -/
def replaced (m : ParamMap) :
    Except ParamsError ParamMap → Logged (ParamMap × Except ParamsError Unit)
  | .ok made => ⟨[made.setRecord], (made, .ok ())⟩
  | .error e => ⟨[], (m, .error e)⟩

theorem set_eq (m : ParamMap) (raw : Text) : m.set raw = m.replaced (ofRaw? raw) := by
  unfold set ofRaw?
  cases parsed : Params.parse raw with
  | error e => rfl
  | ok es =>
      simp only [update_clear m (Params.nodup_of_parse parsed)]
      rfl

theorem adopt_fromRaw (m : ParamMap) (raw : Text) :
    m.adopt (fromRaw raw) = m.replaced (ofRaw? raw) := by
  rw [fromRaw, set_eq]
  cases ofRaw? raw <;> rfl

theorem adopt_fromValue (m : ParamMap) (v : Value) :
    m.adopt (fromValue v) = m.replaced (ofValue? v) := by
  unfold fromValue ofValue?
  cases Json.ofValue? .asGiven v with
  | error e => cases e <;> rfl
  | ok j => exact m.adopt_fromRaw _

/-- Whether each entry has a name and a text under it that is read as JSON, and that what is read is
encoded as. -/
def IsSettled (m : ParamMap) : Prop :=
  ∀ e ∈ m, ∃ name s j, e = (.text name, .text s) ∧ Json.read s = .ok j ∧
    encodeParam j.toValue = .ok s

theorem isSettled_nil : IsSettled [] := fun _ member => nomatch member

theorem isSettled_of_ofRaw? {raw : Text} {m : ParamMap} (scalar : NoSurrogate raw)
    (made : ofRaw? raw = .ok m) : m.IsSettled := by
  obtain ⟨es, parsed, rfl⟩ := exists_of_map_eq_ok made
  intro e member
  obtain ⟨⟨name, s⟩, inside, rfl⟩ := List.mem_map.mp member
  obtain ⟨j, read, encoded⟩ := Params.settles_of_parse scalar parsed inside
  exact ⟨name, s, j, rfl, read, encoded⟩

/-- The text that a value is set as has no surrogate, whatever the value holds. -/
theorem isSettled_of_ofValue? {v : Value} {m : ParamMap} (made : ofValue? v = .ok m) :
    m.IsSettled := by
  unfold ofValue? at made
  split at made
  next => cases made
  next => cases made
  next j _ =>
    have plain : Text.IsPlain (j.write .spaced) := Json.isPlain_write (by decide) (by decide) j
    exact isSettled_of_ofRaw? (Json.noSurrogate_of_isPlain plain) made

end ParamMap

namespace Replacement

/-- The map that a replacement puts in place of another. -/
def made? : Replacement → Except ParamsError ParamMap
  | .set raw | .fromRaw raw => ParamMap.ofRaw? raw
  | .fromValue v => ParamMap.ofValue? v

/-- A replacement puts its map in place of the one at hand, or leaves that as it is. -/
theorem run_eq (m : ParamMap) (r : Replacement) : r.run m = m.replaced r.made? := by
  cases r with
  | set raw => exact m.set_eq raw
  | fromRaw raw => exact m.adopt_fromRaw raw
  | fromValue v => exact m.adopt_fromValue v

/-- Whether a replacement is not given a text with a surrogate. A value may hold any texts. -/
def IsScalar : Replacement → Prop
  | .set raw | .fromRaw raw => NoSurrogate raw
  | .fromValue _ => True

instance (r : Replacement) : Decidable r.IsScalar :=
  match r with
  | .set raw | .fromRaw raw => inferInstanceAs (Decidable (NoSurrogate raw))
  | .fromValue _ => .isTrue trivial

theorem isSettled_of_made? {r : Replacement} {m : ParamMap} (scalar : r.IsScalar)
    (made : r.made? = .ok m) : m.IsSettled := by
  cases r with
  | set | fromRaw => exact ParamMap.isSettled_of_ofRaw? scalar made
  | fromValue => exact ParamMap.isSettled_of_ofValue? made

/-! ## Runs -/

/-- A step of a run: a replacement, the map before and after it, and what came of it. -/
structure Step where
  replacement : Replacement
  before : ParamMap
  after : ParamMap
  records : List Record
  result : Except ParamsError Unit

/-- The step that a replacement takes. -/
def step (m : ParamMap) (r : Replacement) : Step where
  replacement := r
  before := m
  after := (r.run m).result.1
  records := (r.run m).records
  result := (r.run m).result.2

/-- The steps that replacements take one after another. -/
def steps (m : ParamMap) : List Replacement → List Step
  | [] => []
  | r :: rs => r.step m :: steps (r.step m).after rs

/-- Whether a step works. -/
def Step.works (s : Step) : Bool := s.result.isOk

/-- The most recent step that works, if any does. -/
def recent? (ss : List Step) : Option Step := ss.reverse.find? Step.works

section

variable {m : ParamMap} {r : Replacement} {rs : List Replacement} {earlier later : List Step}
  {s : Step}

@[simp] theorem before_step (m : ParamMap) (r : Replacement) : (r.step m).before = m := rfl

/-- What a step does: it works and leaves the map of its replacement, which it would leave of any
other map too, or it fails and leaves the map as it was. -/
theorem step_cases (m : ParamMap) (r : Replacement) :
    (∃ made, r.made? = .ok made ∧ (r.step m).works = true ∧ (r.step m).after = made ∧
        (r.step m).records = [made.setRecord] ∧ (r.run []).result = (made, .ok ())) ∨
      (r.step m).works = false ∧ (r.step m).after = m ∧ (r.step m).records = [] := by
  simp only [step, Step.works, run_eq]
  cases made : r.made? with
  | ok c => exact .inl ⟨c, rfl, rfl, rfl, rfl, rfl⟩
  | error e => exact .inr ⟨rfl, rfl, rfl⟩

/-- Every step starts with what the one before it left. -/
theorem eq_step_of_steps (run : steps m rs = earlier ++ s :: later) :
    s = s.replacement.step ((earlier.getLast?.map Step.after).getD m) := by
  induction rs generalizing m earlier with
  | nil => simp [steps] at run
  | cons r rs ih =>
      cases earlier with
      | nil =>
          cases run
          rfl
      | cons t earlier =>
          obtain ⟨rfl, rest⟩ := List.cons.inj run
          have from_here := ih rest
          cases earlier with
          | nil => exact from_here
          | cons u earlier => simpa [List.getLast?_cons] using from_here

theorem recent?_cons (t : Step) (ss : List Step) :
    recent? (t :: ss) = (recent? ss).or (if t.works then some t else none) := by
  simp only [recent?, List.reverse_cons, List.find?_append, List.find?_singleton]

/-- The map after a step is what the most recent step that works makes of nothing, or what it was at
first if no step has worked. -/
theorem after_of_steps (run : steps m rs = earlier ++ s :: later) :
    (∃ t, recent? (earlier ++ [s]) = some t ∧
        (t.replacement.run []).result = (s.after, .ok ())) ∨
      recent? (earlier ++ [s]) = none ∧ s.after = m := by
  induction rs generalizing m earlier with
  | nil => simp [steps] at run
  | cons r rs ih =>
      have here := step_cases m r
      cases earlier with
      | nil =>
          cases run
          rcases here with ⟨made, _, works, after, _, alone⟩ | ⟨fails, same, _⟩
          · exact .inl ⟨r.step m, by simp [recent?, works], after ▸ alone⟩
          · exact .inr ⟨by simp [recent?, fails], same⟩
      | cons t earlier =>
          obtain ⟨rfl, rest⟩ := List.cons.inj run
          rw [List.cons_append, recent?_cons]
          rcases ih rest with ⟨u, recent, alone⟩ | ⟨none, same⟩
          · exact .inl ⟨u, by rw [recent, Option.some_or], alone⟩
          · rw [none, Option.none_or, same]
            rcases here with ⟨made, _, works, after, _, alone⟩ | ⟨fails, first, _⟩
            · exact .inl ⟨r.step m, by rw [works, if_pos rfl], after ▸ alone⟩
            · exact .inr ⟨by rw [fails]; rfl, first⟩

theorem isSettled_step (settled : m.IsSettled) (scalar : r.IsScalar) :
    (r.step m).after.IsSettled := by
  rcases step_cases m r with ⟨made, from_r, _, after, _⟩ | ⟨_, same, _⟩
  · rw [after]
    exact isSettled_of_made? scalar from_r
  · rw [same]
    exact settled

theorem isSettled_of_steps (run : steps m rs = earlier ++ s :: later) (settled : m.IsSettled)
    (scalar : ∀ t ∈ earlier ++ [s], t.replacement.IsScalar) : s.after.IsSettled := by
  induction rs generalizing m earlier with
  | nil => simp [steps] at run
  | cons r rs ih =>
      cases earlier with
      | nil =>
          cases run
          exact isSettled_step settled (scalar (r.step m) (by simp))
      | cons t earlier =>
          obtain ⟨rfl, rest⟩ := List.cons.inj run
          have first := scalar (r.step m) (by simp)
          refine ih rest (isSettled_step settled first) fun u member => ?_
          exact scalar u (List.mem_cons_of_mem _ member)

/-- At any step of any run that starts with an empty map. After the step the map holds exactly the
entries, in their order, which the most recent step that works makes on its own of an empty map, and
none if there is no such step. A step that fails leaves the map as the step before it did, and logs
nothing. A step that works logs one record, with the number of entries. As long as no text that was
given has a surrogate, every text in the map is read as JSON, and encoding what is read gives it
again. -/
theorem steps_settle (run : steps [] rs = earlier ++ s :: later) :
    ((∃ t, recent? (earlier ++ [s]) = some t ∧
        (t.replacement.run []).result = (s.after, .ok ())) ∨
      recent? (earlier ++ [s]) = none ∧ s.after = []) ∧
    s.before = (earlier.getLast?.map Step.after).getD [] ∧
    (s.works = false → s.after = s.before ∧ s.records = []) ∧
    (s.works = true → s.records = [.debug (("Default params set: " : Text) ++
      Text.ofNat s.after.length ++ (" entries" : Text))]) ∧
    ((∀ t ∈ earlier ++ [s], t.replacement.IsScalar) → ∀ e ∈ s.after, ∃ name v j,
      e = (.text name, .text v) ∧ Json.read v = .ok j ∧ encodeParam j.toValue = .ok v) := by
  have shape := eq_step_of_steps run
  refine ⟨after_of_steps run, ?_, ?_, ?_, isSettled_of_steps run ParamMap.isSettled_nil⟩
  · rw [shape, before_step]
  · intro fails
    rw [shape] at fails ⊢
    rcases step_cases _ s.replacement with ⟨_, _, works, _⟩ | ⟨_, same, silent⟩
    · rw [works] at fails
      cases fails
    · exact ⟨same, silent⟩
  · intro works
    rw [shape] at works ⊢
    rcases step_cases _ s.replacement with ⟨made, _, _, after, logged, _⟩ | ⟨fails, _⟩
    · rw [logged, after]
      rfl
    · rw [fails] at works
      cases works

end

/-- A value takes the place of a text, and then a text fails whose second parameter is out of
range. -/
theorem steps_settle_out_of_range :
    let first : Replacement := .set "\x7b\"a\":1\x7d"
    let second : Replacement := .fromValue (.map
      [(.text "b", .map [(.text "y", .int 1), (.text "x", .text "é")]), (.int 1, .bool true)])
    let third : Replacement := .set "\x7b\"c\":2,\"d\":1e999\x7d"
    let s := third.step (second.step (first.step []).after).after
    steps [] [first, second, third] =
        [first.step [], second.step (first.step []).after] ++ s :: [] ∧
      s.works = false ∧ s.after = s.before ∧ s.records = [] ∧
      (second.run []).result = (s.after, .ok ()) ∧
      s.after.render = ("\x7b'b': '\x7b\"x\":\"\\\\u00e9\",\"y\":1\x7d', '1': 'true'\x7d" : Text) ∧
      ∀ e ∈ s.after, ∃ name v j,
        e = (.text name, .text v) ∧ Json.read v = .ok j ∧ encodeParam j.toValue = .ok v := by
  intro first second third s
  have run : steps [] [first, second, third] =
      [first.step [], second.step (first.step []).after] ++ s :: [] := by
    rw [steps, steps, steps, steps, List.cons_append, List.cons_append, List.nil_append]
  have fails : s.works = false := by decide +kernel
  have works : (second.step (first.step []).after).works = true := by decide +kernel
  have found : ∀ t u v : Step, u.works = true → v.works = false →
      recent? ([t, u] ++ [v]) = some u := by
    intro t u v works fails
    simp [recent?, works, fails]
  have recent := found (first.step []) _ s works fails
  have scalar : ∀ t ∈ [first.step [], second.step (first.step []).after] ++ [s],
      t.replacement.IsScalar := by
    decide +kernel
  obtain ⟨⟨t, recent', alone⟩ | ⟨none, _⟩, _, unchanged, _, settled⟩ := steps_settle run
  · rw [recent] at recent'
    obtain rfl := Option.some.inj recent'
    exact ⟨run, fails, (unchanged fails).1, (unchanged fails).2, alone, by decide +kernel,
      settled scalar⟩
  · rw [recent] at none
    cases none

end Replacement

end Autoscaler
