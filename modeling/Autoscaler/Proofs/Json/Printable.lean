import Autoscaler.Proofs.Json.Writing

/-!
# Printable documents

`Json.write` uses the printable characters of ASCII only, whatever the document holds, if the
separators of the layout are printable.
-/

namespace Autoscaler

namespace Json

open Text

namespace Grammar

theorem Number.isPlain {s : Text} {j : Json} (number : Number s j) : IsPlain s :=
  number.forall_mem (fun _ digit => CodePoint.isPlain_of_isDigit digit) (by decide)

end Grammar

open Grammar

theorem isPlain_unitEscape (n : Nat) : IsPlain (unitEscape n) :=
  isPlain_cons.mpr ⟨by decide, isPlain_cons.mpr ⟨by decide, isPlain_hex 4 n⟩⟩

theorem isPlain_writeCodePoint (c : CodePoint) : IsPlain (writeCodePoint c) := by
  unfold writeCodePoint
  split_ifs with marked plain
  · simp only [Bool.or_eq_true, decide_eq_true_eq] at marked
    rcases marked with rfl | rfl <;> decide
  · exact isPlain_cons.mpr ⟨plain, isPlain_nil⟩
  · decide
  · decide
  · decide
  · decide
  · decide
  · exact isPlain_unitEscape _
  · exact isPlain_append.mpr ⟨isPlain_unitEscape _, isPlain_unitEscape _⟩

theorem isPlain_writeText (s : Text) : IsPlain (writeText s) := by
  have inside : IsPlain (s.flatMap writeCodePoint) := fun c member => by
    obtain ⟨d, _, member⟩ := List.mem_flatMap.mp member
    exact isPlain_writeCodePoint d c member
  exact isPlain_append.mpr ⟨isPlain_append.mpr ⟨by decide, inside⟩, by decide⟩

theorem isPlain_text (x : Binary64) : IsPlain x.text := by
  cases x with
  | nan => decide
  | infinite negative => cases negative <;> decide
  | finite negative m => exact (number_text negative m).isPlain

/-- What is written of a document is printable if the separators are. -/
theorem isPlain_write {layout : Layout} (item : IsPlain layout.item) (name : IsPlain layout.name)
    (j : Json) : IsPlain (j.write layout) := by
  induction j with
  | null => exact isPlain_of_all rfl
  | bool b => cases b <;> exact isPlain_of_all rfl
  | int n => exact (number_ofInt n).isPlain
  | float x => exact isPlain_text x
  | text s => exact isPlain_writeText s
  | array js ih =>
      have inside : IsPlain (Text.join layout.item (js.map (write layout))) :=
        forall_mem_join item (List.forall_mem_map.mpr ih)
      rw [write, writeItems_eq_map]
      exact isPlain_append.mpr ⟨isPlain_append.mpr ⟨by decide, inside⟩, by decide⟩
  | object ms ih =>
      have member : ∀ m ∈ ms, IsPlain (writeText m.1 ++ layout.name ++ write layout m.2) :=
        fun m inside => isPlain_append.mpr
          ⟨isPlain_append.mpr ⟨isPlain_writeText m.1, name⟩, ih m inside⟩
      have inside := forall_mem_join item (List.forall_mem_map.mpr member)
      rw [write, writeMembers_eq_map]
      exact isPlain_append.mpr ⟨isPlain_append.mpr ⟨by decide, inside⟩, by decide⟩

theorem noSurrogate_of_isPlain {s : Text} (plain : IsPlain s) : NoSurrogate s := by
  intro c member
  have bounds := CodePoint.isPlain_iff.mp (plain c member)
  simp [CodePoint.isSurrogate]
  omega

end Json

end Autoscaler
