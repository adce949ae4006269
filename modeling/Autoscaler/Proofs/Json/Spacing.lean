import Autoscaler.Proofs.Json.Nesting
import Autoscaler.Proofs.Json.Writing

/-!
# White space in documents

What stands outside of the strings of a text is told by the scan that knows strings only
(`Scan.outside`). `Json.write` puts no white space there but for that in the separators of the
layout (`isBare_write`).
-/

namespace Autoscaler

namespace Json

open Grammar

namespace Scan

/-- The code points of a text that a scan is not inside of a string at. -/
def outside (q : Scan) : Text → Text
  | [] => []
  | c :: s => if q.mode = .outside then c :: outside (q.step c) s else outside (q.step c) s

section

variable {s t : Text} {c : CodePoint} {n : Nat}

theorem outside_cons (c : CodePoint) (s : Text) :
    outside ⟨.outside, n⟩ (c :: s) = c :: outside (step ⟨.outside, n⟩ c) s := by
  simp [outside]

theorem outside_append (q : Scan) (s t : Text) :
    q.outside (s ++ t) = q.outside s ++ (q.run s).outside t := by
  induction s generalizing q with
  | nil => rfl
  | cons c s ih =>
      rw [List.cons_append, outside, outside, ih, run_cons]
      split <;> rfl

theorem mem_of_mem_outside {q : Scan} (member : c ∈ q.outside s) : c ∈ s := by
  induction s generalizing q with
  | nil => exact member
  | cons d s ih =>
      rw [outside] at member
      split at member
      next =>
        rcases List.mem_cons.mp member with rfl | member
        · exact List.mem_cons_self ..
        · exact List.mem_cons_of_mem d (ih member)
      next => exact List.mem_cons_of_mem d (ih member)

theorem outside_inside (noQuote : c ≠ quote) (noBackslash : c ≠ backslash) (s : Text) :
    outside ⟨.inside, n⟩ (c :: s) = outside ⟨.inside, n⟩ s := by
  simp [outside, step_inside noQuote noBackslash]

theorem outside_escape (c : CodePoint) (s : Text) :
    outside ⟨.inside, n⟩ (backslash :: c :: s) = outside ⟨.inside, n⟩ s := by
  have differs : backslash ≠ quote := by decide
  simp [outside, step, differs]

theorem outside_hexDigit {v : Nat} (digit : c.hexValue? = some v) (s : Text) :
    outside ⟨.inside, n⟩ (c :: s) = outside ⟨.inside, n⟩ s := by
  simp [outside, step_hexDigit digit]

theorem outside_unit {w x y z : CodePoint} {u : Nat} (escape : hexUnit? w x y z = some u)
    (s : Text) :
    outside ⟨.inside, n⟩ (backslash :: escapeMark :: w :: x :: y :: z :: s) =
      outside ⟨.inside, n⟩ s := by
  unfold hexUnit? at escape
  split at escape
  next first second third fourth =>
    rw [outside_escape, outside_hexDigit first, outside_hexDigit second, outside_hexDigit third,
      outside_hexDigit fourth]
  next => cases escape

/-- Nothing between the quotes of a string is outside of it. -/
theorem outside_chars (chars : Chars s t) : outside ⟨.inside, n⟩ s = [] := by
  induction chars with
  | nil => rfl
  | plain noQuote noBackslash _ _ ih => rw [outside_inside noQuote noBackslash, ih]
  | short _ _ ih => rw [outside_escape, ih]
  | unit escape _ _ ih => rw [outside_unit escape, ih]
  | pair first second _ _ _ ih => rw [outside_unit first, outside_unit second, ih]

end

end Scan

open Scan

/-- Whether a text has no white space outside of its strings, and leaves a scan where it was. -/
def IsBare (s : Text) : Prop :=
  ∀ n, run ⟨.outside, n⟩ s = ⟨.outside, n⟩ ∧
    ∀ c ∈ outside ⟨.outside, n⟩ s, isSpace c = false

section

variable {s t : Text}

theorem isBare_nil : IsBare [] := fun _ => ⟨rfl, fun _ member => nomatch member⟩

theorem IsBare.append (bare : IsBare s) (bare' : IsBare t) : IsBare (s ++ t) := by
  intro n
  obtain ⟨stays, outside_ok⟩ := bare n
  obtain ⟨stays', outside_ok'⟩ := bare' n
  refine ⟨?_, ?_⟩
  · rw [run_append, stays, stays']
  · rw [outside_append, stays]
    exact List.forall_mem_append.mpr ⟨outside_ok, outside_ok'⟩

theorem isBare_of_calm (calm : ∀ c ∈ s, Calm c ∧ isSpace c = false) : IsBare s := by
  intro n
  refine ⟨run_calm fun c member => (calm c member).1, ?_⟩
  intro c member
  exact (calm c (mem_of_mem_outside member)).2

theorem isBare_word (calm : s.all (fun c => decide (Calm c ∧ isSpace c = false)) = true) :
    IsBare s :=
  isBare_of_calm fun c member => of_decide_eq_true (List.all_eq_true.mp calm c member)

theorem isBare_number {j : Json} (number : Number s j) : IsBare s := by
  apply isBare_of_calm
  refine number.forall_mem ?_ (by decide)
  intro c digit
  exact ⟨calm_of_isDigit digit, (opens_of_isDigit digit).1⟩

theorem isBare_text (x : Binary64) : IsBare x.text := by
  cases x with
  | nan => exact isBare_word (by decide +kernel)
  | infinite negative => cases negative <;> exact isBare_word (by decide +kernel)
  | finite negative m => exact isBare_number (number_text negative m)

theorem isBare_writeText (t : Text) : IsBare (writeText t) := by
  have chars := chars_flatMap t
  have shape : writeText t = quote :: (t.flatMap writeCodePoint ++ [quote]) := by
    simp [writeText, Text.ofString]
  intro n
  have opens : step ⟨.outside, n⟩ quote = ⟨.inside, n⟩ := by simp [step]
  rw [shape]
  refine ⟨run_quoted chars [], ?_⟩
  have quotes : outside ⟨.outside, n⟩ (quote :: (t.flatMap writeCodePoint ++ [quote])) =
      [quote] := by
    rw [outside_cons, opens, outside_append, run_chars chars, outside_chars chars]
    simp [outside]
  rw [quotes]
  exact List.forall_mem_singleton.mpr (by decide)

theorem isBare_join {separator : Text} (between : IsBare separator) {pieces : List Text}
    (all : ∀ s ∈ pieces, IsBare s) : IsBare (Text.join separator pieces) := by
  induction pieces with
  | nil => exact isBare_nil
  | cons s pieces ih =>
      obtain ⟨first, others⟩ := List.forall_mem_cons.mp all
      by_cases last : pieces = []
      · subst last
        exact first
      · rw [Text.join_cons separator s last]
        exact (first.append between).append (ih others)

/-- Brackets around a bare text keep it bare. -/
theorem isBare_container {b e : CodePoint} (start : b = arrayStart ∨ b = objectStart)
    (stop : e = arrayEnd ∨ e = objectEnd) (inside : IsBare s) : IsBare (b :: (s ++ [e])) := by
  intro n
  obtain ⟨stays, outside_ok⟩ := inside (n + 1)
  have brackets : isSpace b = false ∧ isSpace e = false := by
    rcases start with rfl | rfl <;> rcases stop with rfl | rfl <;> decide
  refine ⟨run_container start stop stays, ?_⟩
  rw [outside_cons, step_open start, outside_append, stays, outside_cons]
  refine List.forall_mem_cons.mpr ⟨brackets.1, List.forall_mem_append.mpr ⟨outside_ok, ?_⟩⟩
  exact List.forall_mem_singleton.mpr brackets.2

/-- What is written of a document has no white space outside of its strings if the separators have
none. -/
theorem isBare_write {layout : Layout} (item : IsBare layout.item) (name : IsBare layout.name)
    (j : Json) : IsBare (j.write layout) := by
  induction j with
  | null => exact isBare_word (by rfl)
  | bool b => cases b <;> exact isBare_word (by rfl)
  | int n => exact isBare_number (number_ofInt n)
  | float x => exact isBare_text x
  | text s => exact isBare_writeText s
  | array js ih =>
      rw [write, writeItems_eq_map]
      have inside := isBare_join item (List.forall_mem_map.mpr ih)
      exact isBare_container (.inl rfl) (.inl rfl) inside
  | object ms ih =>
      rw [write, writeMembers_eq_map]
      have members : ∀ m ∈ ms, IsBare (writeText m.1 ++ layout.name ++ write layout m.2) := by
        intro m member
        exact ((isBare_writeText m.1).append name).append (ih m member)
      have inside := isBare_join item (List.forall_mem_map.mpr members)
      exact isBare_container (.inr rfl) (.inr rfl) inside

theorem isBare_compact (j : Json) : IsBare (j.write .compact) := by
  apply isBare_write
  · exact isBare_word (by decide +kernel)
  · exact isBare_word (by decide +kernel)

end

end Json

end Autoscaler
