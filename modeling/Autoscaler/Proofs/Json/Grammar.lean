import Autoscaler.Json.Read
import Autoscaler.Proofs.Text.Decimal

/-!
# The grammar of JSON

`Grammar.Document s j` says that a text is a document by the grammar of RFC 8259, and which one it
denotes. There `j` has the members of every object as they stand in the text, with repeated names.
`Json.collapsed` is what is left of it where the last member of a name counts.
-/

namespace Autoscaler

namespace Json

/-- An induction over documents, with the claim for all items of an array and for all members of an
object. -/
@[elab_as_elim, induction_eliminator]
theorem induct {motive : Json → Prop} (null : motive .null) (bool : ∀ b, motive (.bool b))
    (int : ∀ n, motive (.int n)) (float : ∀ x, motive (.float x)) (text : ∀ s, motive (.text s))
    (array : ∀ items, (∀ j ∈ items, motive j) → motive (.array items))
    (object : ∀ members, (∀ m ∈ members, motive m.2) → motive (.object members)) (j : Json) :
    motive j :=
  match j with
  | .null => null
  | .bool b => bool b
  | .int n => int n
  | .float x => float x
  | .text s => text s
  | .array items => array items fun j _ => induct null bool int float text array object j
  | .object members => object members fun m _ => induct null bool int float text array object m.2
termination_by sizeOf j
decreasing_by
  · have := List.sizeOf_lt_of_mem ‹_›
    simp only [Json.array.sizeOf_spec]
    omega
  · have := List.sizeOf_lt_of_mem ‹_›
    have : sizeOf m = 1 + sizeOf m.1 + sizeOf m.2 := rfl
    simp only [Json.object.sizeOf_spec]
    omega

mutual
/-- A document in which the last member of a name counts, at the place of the first. -/
def collapsed : Json → Json
  | .array items => .array (collapsedItems items)
  | .object members => .object (collapse (collapsedMembers members))
  | j => j

/-- Items with each collapsed. -/
def collapsedItems : List Json → List Json
  | [] => []
  | j :: js => collapsed j :: collapsedItems js

/-- Members with the value of each collapsed. -/
def collapsedMembers : List (Text × Json) → List (Text × Json)
  | [] => []
  | (name, j) :: ms => (name, collapsed j) :: collapsedMembers ms
end

theorem collapsedItems_eq_map (items : List Json) : collapsedItems items = items.map collapsed := by
  induction items with
  | nil => rfl
  | cons j js ih => rw [collapsedItems, ih, List.map_cons]

theorem collapsedMembers_eq_map (members : List (Text × Json)) :
    collapsedMembers members = members.map fun m => (m.1, m.2.collapsed) := by
  induction members with
  | nil => rfl
  | cons m ms ih => rw [collapsedMembers, ih, List.map_cons]

theorem map_fst_collapsedMembers (members : List (Text × Json)) :
    (collapsedMembers members).map Prod.fst = members.map Prod.fst := by
  rw [collapsedMembers_eq_map, List.map_map]
  rfl

/-- Whether containers are at most `depth` deep inside each other, and integers are not too long. -/
def Readable : (depth : Nat) → Json → Prop
  | _, .int n => Numeral.isWritable n = true
  | 0, .array _ | 0, .object _ => False
  | depth + 1, .array items => ∀ j ∈ items, Readable depth j
  | depth + 1, .object members => ∀ m ∈ members, Readable depth m.2
  | _, _ => True

namespace Grammar

/-! ## The code points of the structure -/

abbrev quote : CodePoint := '"'

abbrev backslash : CodePoint := '\\'

abbrev colon : CodePoint := ':'

abbrev comma : CodePoint := ','

abbrev arrayStart : CodePoint := '['

abbrev arrayEnd : CodePoint := ']'

abbrev objectStart : CodePoint := '\x7b'

abbrev objectEnd : CodePoint := '\x7d'

abbrev escapeMark : CodePoint := 'u'

abbrev minusSign : CodePoint := '-'

abbrev point : CodePoint := '.'

/-- White space, perhaps none. -/
def Blank (s : Text) : Prop := ∀ c ∈ s, isSpace c = true

theorem blank_nil : Blank [] := List.forall_mem_nil _

/-! ## Strings -/

/-- Whether a text starts with the escape of a low surrogate. -/
def LowEscape (s : Text) : Prop :=
  ∃ w x y z n rest, s = backslash :: escapeMark :: w :: x :: y :: z :: rest ∧
    hexUnit? w x y z = some n ∧ (CodePoint.ofNat n).isLowSurrogate = true

/-- What stands between the quotes of a string, and the text that it denotes. The escape of a high
surrogate and that of a low one right after it denote one code point. -/
inductive Chars : Text → Text → Prop where
  | nil : Chars [] []
  | plain {c : CodePoint} {s t : Text} (noQuote : c ≠ quote) (noBackslash : c ≠ backslash)
      (noControl : 0x20 ≤ c.val) (rest : Chars s t) : Chars (c :: s) (c :: t)
  | short {e d : CodePoint} {s t : Text} (escape : shortEscape? e = some d) (rest : Chars s t) :
      Chars (backslash :: e :: s) (d :: t)
  | unit {w x y z : CodePoint} {n : Nat} {s t : Text} (escape : hexUnit? w x y z = some n)
      (alone : (CodePoint.ofNat n).isHighSurrogate = true → ¬ LowEscape s) (rest : Chars s t) :
      Chars (backslash :: escapeMark :: w :: x :: y :: z :: s) (CodePoint.ofNat n :: t)
  | pair {w x y z w' x' y' z' : CodePoint} {m n : Nat} {s t : Text}
      (first : hexUnit? w x y z = some m) (second : hexUnit? w' x' y' z' = some n)
      (high : (CodePoint.ofNat m).isHighSurrogate = true)
      (low : (CodePoint.ofNat n).isLowSurrogate = true) (rest : Chars s t) :
      Chars (backslash :: escapeMark :: w :: x :: y :: z ::
          backslash :: escapeMark :: w' :: x' :: y' :: z' :: s)
        (CodePoint.ofSurrogates (CodePoint.ofNat m) (CodePoint.ofNat n) :: t)

/-! ## Numbers -/

/-- A minus sign, or nothing, and whether it is the former. -/
inductive Sign : Text → Bool → Prop where
  | none : Sign [] false
  | minus : Sign [minusSign] true

/-- The digits before the point: a zero alone, or digits that do not start with zero. -/
inductive Whole : Text → Prop where
  | zero : Whole ['0']
  | digits {c : CodePoint} {s : Text} (digit : c.isDigit = true) (nonzero : c ≠ '0')
      (more : Text.IsDigits s) : Whole (c :: s)

/-- A point and the digits after it, or nothing, and those digits. -/
inductive Fraction : Text → Text → Prop where
  | none : Fraction [] []
  | digits {c : CodePoint} {s : Text} (digits : Text.IsDigits (c :: s)) :
      Fraction (point :: c :: s) (c :: s)

/-- The sign of an exponent, or nothing, and whether it is a minus. -/
inductive ExponentSign : Text → Bool → Prop where
  | none : ExponentSign [] false
  | plus : ExponentSign ['+'] false
  | minus : ExponentSign [minusSign] true

/-- An exponent with its mark, or nothing, and its value. -/
inductive Exponent : Text → Option Int → Prop where
  | none : Exponent [] none
  | digits {e c : CodePoint} {sign s : Text} {negative : Bool} (mark : e = 'e' ∨ e = 'E')
      (signed : ExponentSign sign negative) (digits : Text.IsDigits (c :: s)) :
      Exponent (e :: (sign ++ c :: s))
        (some (if negative then -(Text.digitsValue (c :: s) : Int) else Text.digitsValue (c :: s)))

/-- What the parts of a number denote: without fraction and exponent an integer. -/
def numberOf (negative : Bool) (whole fraction : Text) (exponent : Option Int) : Json :=
  match fraction, exponent with
  | [], none => .int (if negative then -(Text.digitsValue whole : Int) else Text.digitsValue whole)
  | fraction, exponent =>
      .float (.ofDecimal negative (Text.digitsValue (whole ++ fraction))
        (exponent.getD 0 - fraction.length))

/-- A number. -/
inductive Number : Text → Json → Prop where
  | mk {sign whole fraction digits power : Text} {negative : Bool} {exponent : Option Int}
      (signed : Sign sign negative) (whole_ok : Whole whole)
      (fraction_ok : Fraction fraction digits) (exponent_ok : Exponent power exponent) :
      Number (sign ++ (whole ++ (fraction ++ power))) (numberOf negative whole digits exponent)

theorem Number.cases {s : Text} {j : Json} (number : Number s j) :
    (∃ n, j = .int n) ∨ ∃ x, j = .float x := by
  cases number with
  | @mk _ _ _ digits _ _ exponent =>
      cases digits <;> cases exponent <;> simp [numberOf]

/-! ## Values -/

mutual
/-- A value without white space around it. -/
inductive Element : Text → Json → Prop where
  | null : Element ("null" : Text) .null
  | true : Element ("true" : Text) (.bool true)
  | false : Element ("false" : Text) (.bool false)
  | number {s : Text} {j : Json} (number : Number s j) : Element s j
  | text {s t : Text} (chars : Chars s t) : Element (quote :: (s ++ [quote])) (.text t)
  | emptyArray {b : Text} (blank : Blank b) : Element (arrayStart :: (b ++ [arrayEnd])) (.array [])
  | array {s : Text} {js : List Json} (items : Items s js) :
      Element (arrayStart :: (s ++ [arrayEnd])) (.array js)
  | emptyObject {b : Text} (blank : Blank b) :
      Element (objectStart :: (b ++ [objectEnd])) (.object [])
  | object {s : Text} {ms : List (Text × Json)} (members : Members s ms) :
      Element (objectStart :: (s ++ [objectEnd])) (.object ms)

/-- The items of an array, with commas between them. -/
inductive Items : Text → List Json → Prop where
  | last {a s b : Text} {j : Json} (before : Blank a) (item : Element s j) (after : Blank b) :
      Items (a ++ (s ++ b)) [j]
  | more {a s b rest : Text} {j : Json} {js : List Json} (before : Blank a) (item : Element s j)
      (after : Blank b) (items : Items rest js) : Items (a ++ (s ++ (b ++ comma :: rest))) (j :: js)

/-- The members of an object, with commas between them. -/
inductive Members : Text → List (Text × Json) → Prop where
  | last {a n b c s d name : Text} {j : Json} (before : Blank a) (chars : Chars n name)
      (beforeColon : Blank b) (afterColon : Blank c) (item : Element s j) (after : Blank d) :
      Members (a ++ quote :: (n ++ quote :: (b ++ colon :: (c ++ (s ++ d))))) [(name, j)]
  | more {a n b c s d rest name : Text} {j : Json} {ms : List (Text × Json)} (before : Blank a)
      (chars : Chars n name) (beforeColon : Blank b) (afterColon : Blank c) (item : Element s j)
      (after : Blank d) (members : Members rest ms) :
      Members (a ++ quote :: (n ++ quote :: (b ++ colon :: (c ++ (s ++ (d ++ comma :: rest))))))
        ((name, j) :: ms)
end

/-- A whole text, with white space around the value. -/
inductive Document : Text → Json → Prop where
  | mk {a s b : Text} {j : Json} (before : Blank a) (element : Element s j) (after : Blank b) :
      Document (a ++ (s ++ b)) j

end Grammar

end Json

end Autoscaler
