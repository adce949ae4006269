import Autoscaler.Console.Cells
import Autoscaler.Console.EmojiTable
import Autoscaler.Text.Case

/-!
# Emoji codes

A name between two colons stands for a symbol. A name may end in a hyphen and `text` or `emoji`,
which chooses between two looks of the symbol.
-/

namespace Autoscaler

namespace Console

/-- A text without a given ending, if it has it. -/
def dropEnding? (ending s : Text) : Option Text :=
  if ending.isSuffixOf s then some (s.take (s.length - ending.length)) else none

/-- The name and the look that stand between two colons. -/
def splitLook (s : Text) : Text × Text :=
  match dropEnding? "-text" s, dropEnding? "-emoji" s with
  | some name, _ => (name, ['\ufe0e'])
  | none, some name => (name, [emojiLook])
  | none, none => (s, [])

/-- The symbol of a name in a table. -/
def symbolIn? (names : List (String × String)) (name : Text) : Option Text :=
  (name.toString?.bind fun s => names.lookup s).map Text.ofString

/-- The flag of a region, given its letters. -/
def regionFlag (letters : Text) : Text :=
  letters.map fun c => CodePoint.ofNat (0x1f1e6 + (c.val - 0x41))

/-- The flag of a part of a country, given its letters: a black flag with tags up to a last one. -/
def countryFlag (letters : Text) : Text :=
  ("🏴" : Text) ++ letters.map (fun c => CodePoint.ofNat (0xe0000 + c.val)) ++
    [CodePoint.ofNat 0xe007f]

/-- The flag of a region or of a part of a country. -/
def flag? (name : Text) : Option Text :=
  ((symbolIn? regionNames name).map regionFlag).or ((symbolIn? countryNames name).map countryFlag)

/-- A text without a given beginning, if it has it. -/
def dropBeginning? (beginning s : Text) : Option Text :=
  if beginning.isPrefixOf s then some (s.drop beginning.length) else none

/-- The flag that a longer name tells. -/
def namedFlag? (name : Text) : Option Text := (dropBeginning? "flag_for_" name).bind flag?

/-- The letter of a flag that a name tells. -/
def flagLetter? (name : Text) : Option Text :=
  let rest := (dropBeginning? "regional_indicator_symbol_letter_" name).or
    (dropBeginning? "regional_indicator_" name)
  match rest with
  | some [c] =>
      if 0x61 ≤ c.val && c.val ≤ 0x7a then some [CodePoint.ofNat (0x1f1e6 + (c.val - 0x61))]
      else none
  | _ => none

/-- A person with a tone of the skin, which stands behind the first code point. -/
def tonedPerson? (name : Text) : Option Text :=
  skinTones.findSome? fun (ending, tone) =>
    ((dropEnding? ending name).bind (symbolIn? personNames)).map fun
      | [] => []
      | c :: s => c :: CodePoint.ofNat tone :: s.dropWhile (· = emojiLook)

/-- The symbol with a given name in lower case. -/
def symbol? (name : Text) : Option Text :=
  (symbolIn? chatNames name).or <| (symbolIn? personNames name).or <|
    (symbolIn? symbolNames name).or <| (flag? name).or <| (namedFlag? name).or <|
      (flagLetter? name).or (tonedPerson? name)

/-- What stands between two colons as a symbol. -/
def emoji? (code : Text) : Option Text :=
  let (name, look) := splitLook code
  (symbol? name.lower).map (· ++ look)

/-- The text up to the next colon and the rest after it, unless there is white space before. -/
def upToColon? : Text → Option (Text × Text)
  | [] => none
  | c :: s =>
      if c = ':' then some ([], s)
      else if Text.isBlank c then none
      else (upToColon? s).map fun r => (c :: r.1, r.2)

/-- A text with its emoji codes replaced; `fuel` bounds the count of code points that are looked at.
A name that is not known stays, with both of its colons. -/
def replaceEmojiFrom : (fuel : Nat) → Text → Text
  | 0, s => s
  | _, [] => []
  | fuel + 1, c :: s =>
      if c = ':' then
        match upToColon? s with
        | none => c :: replaceEmojiFrom fuel s
        | some (code, rest) =>
            (emoji? code).getD (c :: code ++ [c]) ++ replaceEmojiFrom fuel rest
      else c :: replaceEmojiFrom fuel s

/-- A text with its emoji codes replaced by symbols. -/
def replaceEmoji (s : Text) : Text := replaceEmojiFrom s.length s

end Console

end Autoscaler
