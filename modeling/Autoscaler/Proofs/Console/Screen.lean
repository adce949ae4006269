import Autoscaler.Console.Screen
import Autoscaler.Proofs.Console.Scalar
import Autoscaler.Proofs.Misc

/-!
# What screens take

A screen in memory takes every text, and one of UTF-8 those without surrogates
(`Screen.put_eq_ok_iff`). Any other text is refused for its first surrogate.
-/

namespace Autoscaler

open Json.Grammar

theorem Utf8.surrogateStretch?_eq_none_iff {s : Text} :
    surrogateStretch? s = none ↔ NoSurrogate s := by
  have rest : (Text.cut (fun c : CodePoint => !c.isSurrogate) s).2 = [] ↔ NoSurrogate s := by
    simp [Text.cut, List.dropWhile_eq_nil_iff, NoSurrogate]
  rw [← rest, surrogateStretch?, stretchFrom?]
  obtain ⟨before, stopped⟩ := Text.cut (fun c : CodePoint => !c.isSurrogate) s
  cases stopped with
  | nil => simp
  | cons c cs => simp

namespace Screen

variable {screen : Screen} {s t : Text}

/-- Whether a text can be put on a screen. -/
def Takes (screen : Screen) (s : Text) : Prop := screen.stream = .memory ∨ NoSurrogate s

theorem put_of_takes (takes : screen.Takes s) : screen.put s = .ok s := by
  unfold put
  rcases takes with memory | scalar
  · rw [memory]
  · rw [Utf8.surrogateStretch?_eq_none_iff.mpr scalar]
    split <;> rfl

theorem exists_put_of_not_takes (refused : ¬ screen.Takes s) :
    ∃ stretch, Utf8.surrogateStretch? s = some stretch ∧ screen.put s = .error stretch := by
  obtain ⟨outside, surrogates⟩ := not_or.mp refused
  have some : Utf8.surrogateStretch? s ≠ none :=
    fun none => surrogates (Utf8.surrogateStretch?_eq_none_iff.mp none)
  obtain ⟨stretch, found⟩ := Option.ne_none_iff_exists'.mp some
  refine ⟨stretch, found, ?_⟩
  unfold put
  cases stream : screen.stream with
  | memory => exact absurd stream outside
  | utf8 => simp only [found]

theorem put_eq_ok_iff : screen.put s = .ok t ↔ t = s ∧ screen.Takes s := by
  constructor
  · intro done
    by_cases takes : screen.Takes s
    · rw [put_of_takes takes] at done
      exact ⟨(Except.ok.inj done).symm, takes⟩
    · obtain ⟨stretch, _, refused⟩ := exists_put_of_not_takes takes
      rw [refused] at done
      cases done
  · rintro ⟨rfl, takes⟩
    exact put_of_takes takes

end Screen

end Autoscaler
