import Autoscaler.Proofs.Text.Portions
import Autoscaler.Proofs.Yaml.Filling

/-!
# Files of one line

A file that is one line, of a key and a document or a text in quotes, is a mapping with one entry,
if it is read at all: its text has no fault, its tokens make a tree, and the tree has the value of
the collapsed document (`eq_of_read_line`).
-/

namespace Autoscaler

namespace Yaml

open Lexer (lineKey LineScans Scans start)

/-! ## Sources -/

theorem text_extend {fault : Option Error} {text : Text} {portions : List Text}
    (noFault : (Source.extend fault text portions).fault = none) :
    fault = none ∧ (Source.extend fault text portions).text = text ++ portions.flatten ∧
      ∀ c ∈ portions.flatten, isAllowed c = true := by
  induction portions generalizing text with
  | nil => exact ⟨noFault, (List.append_nil text).symm, List.forall_mem_nil _⟩
  | cons p ps ih =>
      rw [Source.extend] at noFault ⊢
      split at noFault
      next allowed =>
        obtain ⟨inside, whole, others⟩ := ih noFault
        rw [if_pos allowed, List.flatten_cons, ← List.append_assoc]
        exact ⟨inside, whole,
          List.forall_mem_append.mpr ⟨List.all_eq_true.mp allowed, others⟩⟩
      next => cases noFault

/-- The text of a file without a fault is that of its portions, and has allowed code points only. -/
theorem text_ofFile {file : FileText} (noFault : (Source.ofFile file).fault = none) :
    file.fault = none ∧ (Source.ofFile file).text = file.portions.flatten ∧
      ∀ c ∈ file.portions.flatten, isAllowed c = true := by
  unfold Source.ofFile at noFault ⊢
  dsimp only at noFault ⊢
  split at noFault
  next _ p q ps shape =>
    obtain ⟨inside, whole, allowed⟩ := text_extend noFault
    have same : ((p ++ q) :: ps).flatten = file.portions.flatten := by
      simp [shape]
    rw [same] at whole allowed
    exact ⟨Option.map_eq_none_iff.mp inside, whole, allowed⟩
  next =>
    split at noFault
    next faulty =>
      rw [show file.fault.map Error.encoding = none from noFault] at faulty
      cases faulty
    next sound =>
      have inside : file.fault = none := by simpa using sound
      obtain ⟨_, whole⟩ := text_extend noFault
      rw [if_neg sound]
      exact ⟨inside, whole⟩

theorem isSurrogate_of_isAllowed {c : CodePoint} (allowed : isAllowed c = true) :
    c.isSurrogate = false := by
  simp only [isAllowed, Bool.or_eq_true, Bool.and_eq_true, decide_eq_true_eq] at allowed
  simp only [CodePoint.isSurrogate, Bool.and_eq_false_iff, decide_eq_false_iff_not]
  omega

/-! ## Lines -/

theorem unended_start (s : Text) : Lexer.Unended (start s) := List.forall_mem_nil _

/-- A file that is a line is a mapping with one entry, if it is read, and has no surrogates. -/
theorem eq_of_read_line {s : Text} {k : Json} {v : Value}
    (noReturn : ∀ c ∈ s, c ≠ CodePoint.ofChar '\r')
    (line : ∀ ts, Scans (start s) ts → LineScans k ts)
    (denotes : read (.ofFile (.ofBytes (Utf8.encode s))) = .ok v) :
    (∀ c ∈ s, c.isSurrogate = false) ∧ v = .map [(.text lineKey, k.collapsed.toValue)] := by
  generalize source_eq : Source.ofFile (.ofBytes (Utf8.encode s)) = source at denotes
  obtain ⟨o, tokens⟩ : ∃ o, Document.ofTokens (Token.scan source) = .ok o := by
    unfold read at denotes
    split at denotes
    next => cases denotes
    next tokens => exact ⟨_, tokens⟩
    next tokens => exact ⟨_, tokens⟩
  obtain ⟨scans, noFault⟩ :=
    Lexer.scans_of_run (unended_start source.text) (streamEnd_mem_of_ofTokens tokens)
  -- The whole text was read, so that it is the one that was encoded.
  have text : source.text = s ∧ ∀ c ∈ s, isAllowed c = true := by
    subst source_eq
    obtain ⟨inside, whole, allowed⟩ := text_ofFile noFault
    rw [FileText.flatten_portions_ofBytes noReturn inside] at whole allowed
    exact ⟨whole, allowed⟩
  have lineScans : LineScans k (Token.scan source).front := by
    refine line _ ?_
    rw [← text.1]
    exact scans
  obtain ⟨d, rfl, represents⟩ := represents_of_ofTokens lineScans tokens
  refine ⟨fun c member => isSurrogate_of_isAllowed (text.2 c member), ?_⟩
  unfold read at denotes
  rw [tokens] at denotes
  exact eq_of_value_tree represents denotes

end Yaml

end Autoscaler
