/-!
# Text as a sequence of code points

Flag values, file contents and JSON documents are sequences of Unicode code points. A JSON or YAML
escape may name a surrogate on its own, so a `Text` holds any code point, where a `String` holds
scalar values only. `Text.ofString` embeds strings; its values are the texts without surrogates.
-/

namespace Autoscaler

/-- A Unicode code point, surrogates included. -/
abbrev CodePoint := Fin 0x110000

/-- A sequence of code points. -/
abbrev Text := List CodePoint

namespace CodePoint

/-- The code point of a character. -/
def ofChar (c : Char) : CodePoint :=
  ⟨c.toNat, by
    have h := c.valid
    rcases h with h | h
    · exact Nat.lt_trans h (by decide)
    · exact h.2⟩

instance : Coe Char CodePoint := ⟨ofChar⟩

/-- The code point with a given number, or U+FFFD when there is none. -/
def ofNat (n : Nat) : CodePoint :=
  if h : n < 0x110000 then ⟨n, h⟩ else ⟨0xfffd, by decide⟩

/-- Whether a code point lies in one of the inclusive ranges. -/
def isIn (c : CodePoint) (ranges : List (Nat × Nat)) : Bool :=
  ranges.any fun r => r.1 ≤ c.val && c.val ≤ r.2

/-- A surrogate of either half. -/
def isSurrogate (c : CodePoint) : Bool := 0xd800 ≤ c.val && c.val < 0xe000

/-- The first half of a surrogate pair. -/
def isHighSurrogate (c : CodePoint) : Bool := 0xd800 ≤ c.val && c.val < 0xdc00

/-- The second half of a surrogate pair. -/
def isLowSurrogate (c : CodePoint) : Bool := 0xdc00 ≤ c.val && c.val < 0xe000

/-- The character of a code point, unless it is a surrogate. -/
def toChar? (c : CodePoint) : Option Char :=
  if h : c.val.isValidChar then some (Char.ofNatAux c.val h) else none

/-- An ASCII decimal digit. -/
def isDigit (c : CodePoint) : Bool := 0x30 ≤ c.val && c.val ≤ 0x39

/-- The value of an ASCII decimal digit; meaningful on digits only. -/
def digitValue (c : CodePoint) : Nat := c.val - 0x30

/-- An ASCII letter. -/
def isLetter (c : CodePoint) : Bool :=
  (0x41 ≤ c.val && c.val ≤ 0x5a) || (0x61 ≤ c.val && c.val ≤ 0x7a)

/-- A small letter for a capital of the ASCII range, and any other code point itself. -/
def lowerLetter (c : CodePoint) : CodePoint :=
  if 0x41 ≤ c.val && c.val ≤ 0x5a then ofNat (c.val + 0x20) else c

/-- The value of a hexadecimal digit, in either case. -/
def hexValue? (c : CodePoint) : Option Nat :=
  if 0x30 ≤ c.val && c.val ≤ 0x39 then some (c.val - 0x30)
  else if 0x61 ≤ c.val && c.val ≤ 0x66 then some (c.val - 0x61 + 10)
  else if 0x41 ≤ c.val && c.val ≤ 0x46 then some (c.val - 0x41 + 10)
  else none

/-- The lower-case hexadecimal digit of a value below sixteen. -/
def ofHexValue (n : Nat) : CodePoint :=
  if n < 10 then ofNat (0x30 + n) else ofNat (0x61 + (n - 10))

/-- A surrogate pair as the one code point that it stands for. -/
def ofSurrogates (high low : CodePoint) : CodePoint :=
  ofNat (0x10000 + (high.val - 0xd800) * 0x400 + (low.val - 0xdc00))

end CodePoint

namespace Text

/-- The code points of a string. -/
def ofString (s : String) : Text := s.toList.map CodePoint.ofChar

instance : Coe String Text := ⟨ofString⟩

/-- The string of a text, unless it holds a surrogate. -/
def toString? (s : Text) : Option String :=
  (s.mapM CodePoint.toChar?).map String.ofList

/-- The pieces between the code points that pass a test, at least one. -/
def splitWhere (p : CodePoint → Bool) : Text → List Text
  | [] => [[]]
  | c :: s =>
      if p c then [] :: splitWhere p s
      else match splitWhere p s with
        | [] => [[c]]
        | piece :: pieces => (c :: piece) :: pieces

/-- The pieces between the occurrences of a separator, at least one. -/
def splitOn (separator : CodePoint) (s : Text) : List Text := s.splitWhere (· = separator)

theorem splitWhere_ne_nil (p : CodePoint → Bool) (s : Text) : splitWhere p s ≠ [] := by
  cases s with
  | nil => simp [splitWhere]
  | cons c s =>
      simp only [splitWhere]
      split
      · simp
      · split <;> simp

/-- The pieces one after another with a separator between neighbours. -/
def join (separator : Text) : List Text → Text
  | [] => []
  | [s] => s
  | s :: t :: rest => s ++ separator ++ join separator (t :: rest)

theorem join_cons (separator s : Text) {rest : List Text} (h : rest ≠ []) :
    join separator (s :: rest) = s ++ separator ++ join separator rest := by
  cases rest with
  | nil => exact absurd rfl h
  | cons t rest => rfl

/-- What holds in the separator and in all pieces holds in the text that they make. -/
theorem forall_mem_join {p : CodePoint → Prop} {separator : Text} (between : ∀ c ∈ separator, p c)
    {pieces : List Text} (all : ∀ s ∈ pieces, ∀ c ∈ s, p c) : ∀ c ∈ join separator pieces, p c := by
  induction pieces with
  | nil => exact fun _ member => nomatch member
  | cons s pieces ih =>
      obtain ⟨first, others⟩ := List.forall_mem_cons.mp all
      cases pieces with
      | nil => exact first
      | cons t rest =>
          rw [join]
          exact List.forall_mem_append.mpr ⟨List.forall_mem_append.mpr ⟨first, between⟩, ih others⟩

/-- The pieces of a text make it up again. -/
theorem join_splitOn (separator : CodePoint) (s : Text) :
    join [separator] (splitOn separator s) = s := by
  unfold splitOn
  induction s with
  | nil => rfl
  | cons c s ih =>
      simp only [splitWhere]
      split
      next h => simp [join_cons _ _ (splitWhere_ne_nil _ s), ih, of_decide_eq_true h]
      next h =>
        split
        next hs => exact absurd hs (splitWhere_ne_nil _ s)
        next piece pieces hs =>
          rw [hs] at ih
          cases pieces with
          | nil => simpa [join] using ih
          | cons t rest => simpa [join] using ih

/-- Every occurrence of a code point, removed. -/
def remove (c : CodePoint) (s : Text) : Text := s.filter (· ≠ c)

/-- The code points up to the first that fails a test, and the rest. -/
def cut (p : CodePoint → Bool) (s : Text) : Text × Text := (s.takeWhile p, s.dropWhile p)

theorem cut_append (p : CodePoint → Bool) (s : Text) : (cut p s).1 ++ (cut p s).2 = s :=
  List.takeWhile_append_dropWhile

theorem cut_append_of_pos {p : CodePoint → Bool} {s rest : Text} (all : ∀ c ∈ s, p c = true)
    (stops : ∀ c ∈ rest.head?, p c = false) : cut p (s ++ rest) = (s, rest) := by
  have taken : rest.takeWhile p = [] ∧ rest.dropWhile p = rest := by
    cases rest with
    | nil => exact ⟨rfl, rfl⟩
    | cons c s => simp [stops c rfl]
  simp only [cut, List.takeWhile_append_of_pos all, List.dropWhile_append_of_pos all, taken,
    List.append_nil]

/-- A text without its first and last stretches of code points that pass a test. -/
def trim (p : CodePoint → Bool) (s : Text) : Text :=
  ((s.dropWhile p).reverse.dropWhile p).reverse

/-- A natural number in decimal. -/
def ofNat (n : Nat) : Text := (Nat.toDigits 10 n).map CodePoint.ofChar

/-- An integer in decimal, with a minus sign before a negative one. -/
def ofInt : Int → Text
  | .ofNat n => ofNat n
  | .negSucc n => '-' :: ofNat (n + 1)

/-- A number in lower-case hexadecimal with a fixed count of digits. -/
def hex : (digits : Nat) → Nat → Text
  | 0, _ => []
  | digits + 1, n => hex digits (n / 16) ++ [CodePoint.ofHexValue (n % 16)]

/-- The number that a list of decimal digits writes. -/
def digitsValue (s : Text) : Nat := s.foldl (fun n c => 10 * n + c.digitValue) 0

/-- A number in decimal, with zeros in front up to a given width. -/
def padded (width n : Nat) : Text :=
  let digits := ofNat n
  List.replicate (width - digits.length) (CodePoint.ofChar '0') ++ digits

/-- The white space of the Unicode standard. -/
def isWhiteSpace (c : CodePoint) : Bool :=
  (0x09 ≤ c.val && c.val ≤ 0x0d) || c.val = 0x20 || c.val = 0x85 || c.val = 0xa0 ||
  c.val = 0x1680 || (0x2000 ≤ c.val && c.val ≤ 0x200a) || c.val = 0x2028 || c.val = 0x2029 ||
  c.val = 0x202f || c.val = 0x205f || c.val = 0x3000

/-- White space, or one of the four information separators. -/
def isBlank (c : CodePoint) : Bool :=
  isWhiteSpace c || (0x1c ≤ c.val && c.val ≤ 0x1f)

end Text

end Autoscaler
