import Autoscaler.Binary64.Decimal
import Autoscaler.Json.Basic

/-!
# Reading JSON

`Json.read` accepts the grammar of RFC 8259 with limits on nesting and on the digits of integers.
Each reader takes a text and answers what it read and the rest of the text; an error records how
much of the text was left where it arose.
-/

namespace Autoscaler

namespace Json

/-- What is wrong at a place of a text. -/
inductive Fault where
  | value
  | name
  | colon
  | comma
  | unterminated
  | controlCharacter
  | escape
  | unicodeEscape
  | extraData
  | byteOrderMark
  deriving DecidableEq

/-- Why a text was not read. -/
inductive ReadError where
  /-- A fault where `remaining` code points were left. -/
  | malformed (fault : Fault) (remaining : Nat)
  /-- A name of a number that JSON does not have. -/
  | constant (name : Text)
  | tooManyDigits (digits : Nat)
  | tooDeep
  deriving DecidableEq

/-- What a reader answers. -/
abbrev Reading (α : Type) : Type := Except ReadError (α × Text)

/-- White space between the parts of a document. -/
def isSpace (c : CodePoint) : Bool :=
  c.val = 0x20 || c.val = 0x09 || c.val = 0x0a || c.val = 0x0d

/-- A text from its first code point that is not white space. -/
def skipSpace (s : Text) : Text := s.dropWhile isSpace

/-- The value of four hexadecimal digits. -/
def hexUnit? (a b c d : CodePoint) : Option Nat :=
  match a.hexValue?, b.hexValue?, c.hexValue?, d.hexValue? with
  | some a, some b, some c, some d => some (((a * 16 + b) * 16 + c) * 16 + d)
  | _, _, _, _ => none

/-- The code point that a backslash and a letter stand for. -/
def shortEscape? (c : CodePoint) : Option CodePoint :=
  if c = '"' || c = '\\' || c = '/' then some c
  else if c = 'b' then some '\x08'
  else if c = 'f' then some '\x0c'
  else if c = 'n' then some '\n'
  else if c = 'r' then some '\r'
  else if c = 't' then some '\t'
  else none

/-- Whether a text starts with the escape of a low surrogate, and more follows that escape. -/
def startsWithLowEscape : Text → Bool
  | b :: u :: w :: x :: y :: z :: _ :: _ =>
      b = '\\' && u = 'u' &&
        match hexUnit? w x y z with
        | some n => (CodePoint.ofNat n).isLowSurrogate
        | none => false
  | _ => false

/-- Puts a code point in front of the text that was read. -/
def push (c : CodePoint) : Reading Text → Reading Text
  | .ok (s, rest) => .ok (c :: s, rest)
  | .error e => .error e

/-- Puts a high surrogate in front of the text that was read, and makes one code point of it and
the low surrogate there. -/
def pushPair (high : CodePoint) : Reading Text → Reading Text
  | .ok (low :: s, rest) => .ok (CodePoint.ofSurrogates high low :: s, rest)
  | .ok ([], rest) => .ok ([high], rest)
  | .error e => .error e

/-- Reads a string after its opening quote, at which `opening` code points were left. The escape of
a high surrogate and that of a low one right after it are one code point. -/
def readChars (opening : Nat) : Text → Reading Text
  | [] => .error (.malformed .unterminated opening)
  | c :: rest =>
      if c = '"' then .ok ([], rest)
      else if c.val < 0x20 then .error (.malformed .controlCharacter (rest.length + 1))
      else if c = '\\' then
        match rest with
        | [] => .error (.malformed .unterminated opening)
        | e :: rest =>
            if e = 'u' then
              match rest with
              | w :: x :: y :: z :: rest =>
                  match hexUnit? w x y z with
                  | none => .error (.malformed .unicodeEscape (rest.length + 5))
                  | some n =>
                      if rest.isEmpty then .error (.malformed .unicodeEscape (rest.length + 5))
                      else if (CodePoint.ofNat n).isHighSurrogate && startsWithLowEscape rest then
                        pushPair (CodePoint.ofNat n) (readChars opening rest)
                      else push (CodePoint.ofNat n) (readChars opening rest)
              | rest => .error (.malformed .unicodeEscape (rest.length + 1))
            else
              match shortEscape? e with
              | some d => push d (readChars opening rest)
              | none => .error (.malformed .escape (rest.length + 2))
      else push c (readChars opening rest)

/-- The digits before the point: a zero alone, or digits that do not start with zero. -/
def wholeDigits? : Text → Option (Text × Text)
  | [] => none
  | c :: rest =>
      if c = '0' then some ([c], rest)
      else if c.isDigit then some (Text.cut CodePoint.isDigit (c :: rest))
      else none

/-- The digits after a point, if a point and a digit come next. -/
def fractionDigits : Text → Text × Text
  | p :: d :: rest =>
      if p = '.' && d.isDigit then Text.cut CodePoint.isDigit (d :: rest) else ([], p :: d :: rest)
  | s => ([], s)

/-- The exponent, if a mark for it, perhaps a sign, and a digit come next. -/
def exponent? : Text → Option (Int × Text)
  | e :: c :: rest =>
      if e = 'e' || e = 'E' then
        let (negative, s) :=
          if c = '-' then (true, rest) else if c = '+' then (false, rest) else (false, c :: rest)
        let (digits, rest) := Text.cut CodePoint.isDigit s
        if digits.isEmpty then none
        else
          let n : Int := Text.digitsValue digits
          some (if negative then -n else n, rest)
      else none
  | _ => none

/-- Reads a number. Without fraction and exponent it is an integer, whose digits are limited. -/
def readNumber (s : Text) : Reading Json :=
  let (negative, unsigned) :=
    match s with
    | c :: rest => if c = '-' then (true, rest) else (false, s)
    | [] => (false, s)
  match wholeDigits? unsigned with
  | none => .error (.malformed .value s.length)
  | some (whole, rest) =>
      let (fraction, rest) := fractionDigits rest
      match fraction, exponent? rest with
      | [], none =>
          if Numeral.maxDigits < whole.length then .error (.tooManyDigits whole.length)
          else
            let n : Int := Text.digitsValue whole
            .ok (.int (if negative then -n else n), rest)
      | fraction, none =>
          .ok (.float (.ofDecimal negative (Text.digitsValue (whole ++ fraction))
            (-(fraction.length : Int))), rest)
      | fraction, some (exponent, rest) =>
          .ok (.float (.ofDecimal negative (Text.digitsValue (whole ++ fraction))
            (exponent - fraction.length)), rest)

/-- The rest of a text after a word that starts it. -/
def afterWord? (word s : Text) : Option Text :=
  if word.isPrefixOf s then some (s.drop word.length) else none

/-- Reads a literal name or a number. -/
def readScalar (s : Text) : Reading Json :=
  match afterWord? "null" s, afterWord? "true" s, afterWord? "false" s with
  | some rest, _, _ => .ok (.null, rest)
  | _, some rest, _ => .ok (.bool true, rest)
  | _, _, some rest => .ok (.bool false, rest)
  | none, none, none =>
      if (afterWord? "NaN" s).isSome then .error (.constant "NaN")
      else if (afterWord? "Infinity" s).isSome then .error (.constant "Infinity")
      else if (afterWord? "-Infinity" s).isSome then .error (.constant "-Infinity")
      else readNumber s

/-- Reads the items of an array from the first one on, up to and including the closing bracket. -/
def readItems (item : Text → Reading Json) : (fuel : Nat) → Text → Reading (List Json)
  | 0, s => .error (.malformed .value s.length)
  | fuel + 1, s =>
      match item s with
      | .error e => .error e
      | .ok (value, rest) =>
          match skipSpace rest with
          | [] => .error (.malformed .comma 0)
          | c :: rest =>
              if c = ']' then .ok ([value], rest)
              else if c = ',' then
                match readItems item fuel (skipSpace rest) with
                | .ok (values, rest) => .ok (value :: values, rest)
                | .error e => .error e
              else .error (.malformed .comma (rest.length + 1))

/-- Reads a member's name and the colon after it. -/
def readName (s : Text) : Reading Text :=
  match s with
  | [] => .error (.malformed .name 0)
  | c :: rest =>
      if c = '"' then
        match readChars s.length rest with
        | .error e => .error e
        | .ok (name, rest) =>
            match skipSpace rest with
            | [] => .error (.malformed .colon 0)
            | c :: rest =>
                if c = ':' then .ok (name, skipSpace rest)
                else .error (.malformed .colon (rest.length + 1))
      else .error (.malformed .name s.length)

/-- Reads the members of an object from the first one on, up to and including the closing brace. -/
def readMembers (item : Text → Reading Json) : (fuel : Nat) → Text → Reading (List (Text × Json))
  | 0, s => .error (.malformed .name s.length)
  | fuel + 1, s =>
      match readName s with
      | .error e => .error e
      | .ok (name, rest) =>
          match item rest with
          | .error e => .error e
          | .ok (value, rest) =>
              match skipSpace rest with
              | [] => .error (.malformed .comma 0)
              | c :: rest =>
                  if c = '}' then .ok ([(name, value)], rest)
                  else if c = ',' then
                    match readMembers item fuel (skipSpace rest) with
                    | .ok (members, rest) => .ok ((name, value) :: members, rest)
                    | .error e => .error e
                  else .error (.malformed .comma (rest.length + 1))

/-- Reads an array after its opening bracket. -/
def readArray (item : Text → Reading Json) (s : Text) : Reading Json :=
  match skipSpace s with
  | [] => .error (.malformed .value 0)
  | c :: rest =>
      if c = ']' then .ok (.array [], rest)
      else
        match readItems item (rest.length + 1) (c :: rest) with
        | .ok (items, rest) => .ok (.array items, rest)
        | .error e => .error e

/-- Reads an object after its opening brace. The last member of a name counts. -/
def readObject (item : Text → Reading Json) (s : Text) : Reading Json :=
  match skipSpace s with
  | [] => .error (.malformed .name 0)
  | c :: rest =>
      if c = '}' then .ok (.object [], rest)
      else
        match readMembers item (rest.length + 1) (c :: rest) with
        | .ok (members, rest) => .ok (.object (collapse members), rest)
        | .error e => .error e

/-- Reads a document inside of which containers are at most `depth` deep. -/
def readValue : (depth : Nat) → Text → Reading Json
  | _, [] => .error (.malformed .value 0)
  | 0, c :: rest =>
      if c = '"' then
        match readChars (rest.length + 1) rest with
        | .ok (s, rest) => .ok (.text s, rest)
        | .error e => .error e
      else if c = '{' || c = '[' then .error .tooDeep
      else readScalar (c :: rest)
  | depth + 1, c :: rest =>
      if c = '"' then
        match readChars (rest.length + 1) rest with
        | .ok (s, rest) => .ok (.text s, rest)
        | .error e => .error e
      else if c = '{' then readObject (readValue depth) rest
      else if c = '[' then readArray (readValue depth) rest
      else readScalar (c :: rest)

/-- The code point that marks the byte order. -/
def byteOrderMark : CodePoint := '\ufeff'

/-- Reads a whole text as one document. -/
def read (s : Text) : Except ReadError Json :=
  if s.head? = some byteOrderMark then .error (.malformed .byteOrderMark s.length)
  else
    match readValue maxDepth (skipSpace s) with
    | .error e => .error e
    | .ok (j, rest) =>
        match skipSpace rest with
        | [] => .ok j
        | _ :: rest => .error (.malformed .extraData (rest.length + 1))

namespace Fault

/-- The wording of a fault. -/
def message : Fault → Text
  | .value => "Expecting value"
  | .name => "Expecting property name enclosed in double quotes"
  | .colon => "Expecting ':' delimiter"
  | .comma => "Expecting ',' delimiter"
  | .unterminated => "Unterminated string starting at"
  | .controlCharacter => "Invalid control character at"
  | .escape => "Invalid \\escape"
  | .unicodeEscape => "Invalid \\uXXXX escape"
  | .extraData => "Extra data"
  | .byteOrderMark => "Unexpected UTF-8 BOM (decode using utf-8-sig)"

end Fault

namespace ReadError

/-- A place after some code points: the line, the column in it, and the count itself. -/
def placeText (before : Text) : Text :=
  let line := before.countP (· = CodePoint.ofChar '\n') + 1
  let column := (before.reverse.takeWhile (· ≠ CodePoint.ofChar '\n')).length + 1
  ("line " : Text) ++ Text.ofNat line ++ (" column " : Text) ++ Text.ofNat column ++
    (" (char " : Text) ++ Text.ofNat before.length ++ (")" : Text)

/-- The wording of an error about a text. -/
def message (s : Text) : ReadError → Text
  | .malformed fault remaining =>
      fault.message ++ (": " : Text) ++ placeText (s.take (s.length - remaining))
  | .constant name => ("invalid JSON constant " : Text) ++ name
  | .tooManyDigits digits => Numeral.limitText digits
  | .tooDeep => "maximum recursion depth exceeded"

end ReadError

end Json

end Autoscaler
