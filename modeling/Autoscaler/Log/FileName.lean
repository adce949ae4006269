import Autoscaler.Text.Numeral
import Autoscaler.Text.Quoted

/-!
# Names of log files

The name of a log file is a pattern: a field in braces, `time`, stands for the time when the file is
made, and a brace that is written twice for itself. The format of a field may have marks for parts
of the time; one that has none stands for itself. `FileName.expand` looks through the whole pattern
for faults in its form first, and then at one field after another.
-/

namespace Autoscaler

namespace FileName

/-- Why a pattern gives no name. -/
inductive Error where
  | loneClosing
  | loneOpening
  | unclosedField
  | openingInField
  | missingConversion
  | afterConversion
  | unclosedFormat
  /-- A field without a name, or with a number for it. -/
  | positional
  | tooManyDigits
  | unknownField (name : Text)
  | emptyPart
  | unclosedPart
  | afterPart
  /-- A part of the time that it does not have. -/
  | unknownPart (name : Text)
  | indexed
  | unknownConversion (c : CodePoint)
  /-- A format that asks for more than six places of the seconds. -/
  | tooPrecise
  /-- Fields inside of the formats of fields, more than once. -/
  | nested
  deriving DecidableEq

namespace Error

/-- The wording of an error. -/
def message : Error → Text
  | .loneClosing => "Single '\x7d' encountered in format string"
  | .loneOpening => "Single '\x7b' encountered in format string"
  | .unclosedField => "expected '\x7d' before end of string"
  | .openingInField => "unexpected '\x7b' in field name"
  | .missingConversion => "end of string while looking for conversion specifier"
  | .afterConversion => "expected ':' after conversion specifier"
  | .unclosedFormat => "unmatched '\x7b' in format spec"
  | .positional => "Format string contains positional fields"
  | .tooManyDigits => "Too many decimal digits in format string"
  | .unknownField name => name.quoted
  | .emptyPart => "Empty attribute in format string"
  | .unclosedPart => "Missing ']' in format string"
  | .afterPart => "Only '.' or '[' may follow ']' in format field specifier"
  | .unknownPart name =>
      ("'FileDateFormatter' object has no attribute '" : Text) ++ name ++ ("'" : Text)
  | .indexed => "'FileDateFormatter' object is not subscriptable"
  | .unknownConversion c =>
      ("Unknown conversion specifier " : Text) ++
        (if 0x20 < c.val && c.val < 0x7f then [c]
          else ("\\x" : Text) ++ (Nat.toDigits 16 c.val).map CodePoint.ofChar)
  | .tooPrecise =>
      ("Invalid time format: the provided format string contains more than six successive 'S' " :
        Text) ++
      ("characters. This may be due to an attempt to use nanosecond precision, which is not " :
        Text) ++ ("supported." : Text)
  | .nested => "Max string recursion exceeded"

end Error

/-- A field of a pattern. -/
structure Field where
  name : Text
  /-- The letter of a conversion, if there is one. -/
  conversion : Option CodePoint
  format : Text
  deriving DecidableEq

/-- A part of a pattern: a text, and the field after it. -/
structure Part where
  before : Text
  field? : Option Field
  deriving DecidableEq

/-- Whether a code point is a brace. -/
def isBrace (c : CodePoint) : Bool := c = '{' || c = '}'

/-- The name of a field and what ends it, where brackets hold anything. -/
def takeName (inBrackets : Bool) : Text → Except Error (Text × CodePoint × Text)
  | [] => .error .unclosedField
  | c :: s =>
      if inBrackets then (takeName (c ≠ ']') s).map fun r => (c :: r.1, r.2)
      else if c = '{' then .error .openingInField
      else if c = '}' || c = ':' || c = '!' then .ok ([], c, s)
      else (takeName (c = '[') s).map fun r => (c :: r.1, r.2)

/-- The format of a field and the rest after its closing brace; `depth` more braces are open. -/
def takeFormat (depth : Nat) : Text → Except Error (Text × Text)
  | [] => .error .unclosedFormat
  | c :: s =>
      if c = '}' then
        match depth with
        | 0 => .ok ([], s)
        | depth + 1 => (takeFormat depth s).map fun r => (c :: r.1, r.2)
      else
        (takeFormat (if c = '{' then depth + 1 else depth) s).map fun r => (c :: r.1, r.2)

/-- The field behind an opening brace, and the rest. -/
def takeField (s : Text) : Except Error (Field × Text) :=
  match takeName false s with
  | .error e => .error e
  | .ok (name, stop, s) =>
      if stop = '}' then .ok (⟨name, none, []⟩, s)
      else if stop = ':' then (takeFormat 0 s).map fun r => (⟨name, none, r.1⟩, r.2)
      else match s with
        | [] => .error .missingConversion
        | [_] => .error .unclosedFormat
        | c :: d :: s =>
            if d = '}' then .ok (⟨name, some c, []⟩, s)
            else if d = ':' then (takeFormat 0 s).map fun r => (⟨name, some c, r.1⟩, r.2)
            else .error .afterConversion

/-- The first part of a pattern that is not empty, and the rest. -/
def takePart (s : Text) : Except Error (Part × Text) :=
  match Text.cut (fun c => !isBrace c) s with
  | (before, []) => .ok (⟨before, none⟩, [])
  | (before, c :: s) =>
      if s.head? = some c then .ok (⟨before ++ [c], none⟩, s.drop 1)
      else if c = '}' then .error .loneClosing
      else if s = [] then .error .loneOpening
      else (takeField s).map fun r => (⟨before, some r.1⟩, r.2)

/-- Looks for faults in the form of a pattern; `fuel` bounds the count of parts. -/
def check : (fuel : Nat) → Text → Except Error Unit
  | 0, _ => .ok ()
  | _, [] => .ok ()
  | fuel + 1, s => (takePart s).bind fun r => check fuel r.2

/-- How large a number may be. -/
def maxNumber : Nat := Nat.pow 2 63 - 1

/-- Whether a name is a number. The digits in front of it must not be too many in any case. -/
def isNumber (s : Text) : Except Error Bool :=
  let (digits, rest) := Text.cut (fun c => (Numeral.decimalValue? c).isSome) s
  let n := (digits.filterMap Numeral.decimalValue?).foldl (fun n d => 10 * n + d) 0
  if maxNumber < n then .error .tooManyDigits else .ok (digits ≠ [] && rest = [])

/-- The name of the part that the time has. -/
def momentName : Text := "datetime"

/-- Whether the time has a part of a given name. -/
def hasPart (name : Text) : Bool := name = momentName || ("__" : Text).isPrefixOf name

/-- Looks at the first of the parts of the time that stand behind its name. -/
def checkParts : Text → Except Error Unit
  | [] => .ok ()
  | c :: s =>
      if c = '.' then
        let name := s.takeWhile fun c : CodePoint => c ≠ '.' && c ≠ '['
        if name = [] then .error .emptyPart
        else if hasPart name then .ok () else .error (.unknownPart name)
      else if c = '[' then
        let (name, rest) := Text.cut (· ≠ ']') s
        if rest = [] then .error .unclosedPart
        else (isNumber name).bind fun _ =>
          if name = [] then .error .emptyPart else .error .indexed
      else .error .afterPart

/-- The name of the field that there is. -/
def timeName : Text := "time"

/-- The letters of conversions. -/
def conversions : List CodePoint := ['r', 's', 'a']

/-- Looks at a field, apart from its format. -/
def checkField (f : Field) : Except Error Unit :=
  let (first, rest) := Text.cut (fun c => c ≠ '.' && c ≠ '[') f.name
  (isNumber first).bind fun number =>
    if first = [] || number then .error .positional
    else if first ≠ timeName then .error (.unknownField first)
    else (checkParts rest).bind fun _ =>
      match f.conversion with
      | some c => if conversions.contains c then .ok () else .error (.unknownConversion c)
      | none => .ok ()

/-- The marks for parts of the date, with blanks between them. -/
def dateMarks : Text := "YY YYYY Q M MM MMM MMMM D DD DDD DDDD d ddd dddd E"

/-- The marks for parts of the time of day and of its zone, with blanks between them. -/
def clockMarks : Text := "H HH h hh A m mm s ss S SS SSS SSSS SSSSS SSSSSS X x Z ZZ zz"

/-- The marks for parts of the time. -/
def marks : List Text := dateMarks.splitOn ' ' ++ clockMarks.splitOn ' '

/-- What asks for the time of another zone at the end of a format. -/
def zoneMark : Text := "!UTC"

/-- What a bracketed text of a format stands for: a mark in brackets is itself. -/
def bracketed? (s : Text) : Option (Text × Text) :=
  match Text.cut (· ≠ ']') s with
  | (_, []) => none
  | (inside, _ :: rest) =>
      if inside = [] || inside = zoneMark || marks.contains inside then some (inside, rest)
      else none

/-- What a format without marks stands for; `fuel` bounds the count of its steps. -/
def plainFormat? : (fuel : Nat) → Text → Option Text
  | 0, _ => none
  | _, [] => some []
  | fuel + 1, c :: s =>
      if marks.any fun mark => mark.isPrefixOf (c :: s) then none
      else match (if c = '[' then bracketed? s else none) with
        | some (inside, rest) => (plainFormat? fuel rest).map (inside ++ ·)
        | none => (plainFormat? fuel s).map (c :: ·)

/-- What a format with percent signs stands for, if all of them are written twice. -/
def doubledPercents? : Text → Option Text
  | [] => some []
  | '%' :: '%' :: s => (doubledPercents? s).map ('%' :: ·)
  | c :: s => if c = '%' then none else (doubledPercents? s).map (c :: ·)

/-- Whether a text has seven of the letters for places of the seconds in a row. -/
def isTooPrecise : Text → Bool
  | [] => false
  | c :: s => ("SSSSSSS" : Text).isPrefixOf (c :: s) || isTooPrecise s

/-- What a field stands for, given its format. -/
def shown (time format : Text) : Except Error Text :=
  let format :=
    if zoneMark.isSuffixOf format then format.take (format.length - zoneMark.length) else format
  if format = [] then .ok time
  else if format.contains (CodePoint.ofChar '%') then .ok ((doubledPercents? format).getD time)
  else if isTooPrecise format then .error .tooPrecise
  else .ok ((plainFormat? (format.length + 1) format).getD time)

/-- A pattern with the time in place of its fields, where `inner` is what becomes of formats that
have fields themselves; `fuel` bounds the count of parts. -/
def expandWith (time : Text) (inner : Text → Except Error Text) :
    (fuel : Nat) → Text → Except Error Text
  | 0, _ => .ok []
  | _, [] => .ok []
  | fuel + 1, s =>
      (takePart s).bind fun (part, s) =>
        match part.field? with
        | none => (expandWith time inner fuel s).map (part.before ++ ·)
        | some f =>
            (checkField f).bind fun _ =>
              (if f.format.any isBrace then inner f.format else .ok f.format).bind fun format =>
                (if f.conversion.isSome then .ok time else shown time format).bind fun text =>
                  (expandWith time inner fuel s).map (part.before ++ text ++ ·)

/-- A pattern with the time in place of its fields, inside of which formats with fields may stand
`depth` deep. -/
def expandTo (time : Text) : (depth : Nat) → Text → Except Error Text
  | 0, _ => .error .nested
  | depth + 1, s => expandWith time (expandTo time depth) s.length s

/-- The name that a pattern gives at a time. -/
def expand (time pattern : Text) : Except Error Text :=
  (check pattern.length pattern).bind fun _ => expandTo time 2 pattern

end FileName

end Autoscaler
