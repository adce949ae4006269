import Autoscaler.Console.Emoji

/-!
# Console markup

A text may hold tags in square brackets, which style what stands between them, and a backslash in
front of a tag makes it text. `Markup.escape` protects a text whose brackets mean themselves, and
`Markup.render` takes a text apart into plain text and styles.
-/

namespace Autoscaler

namespace Markup

/-- What a tag may start with: a small letter, or one of three marks. -/
def startsTag (c : CodePoint) : Bool :=
  (0x61 ≤ c.val && c.val ≤ 0x7a) || c.val = 0x23 || c.val = 0x2f || c.val = 0x40

/-- The inside of the tag at the front of a text, and the text after it. There is no bracket inside
of a tag. -/
def tagAt? : Text → Option (Text × Text)
  | [] => none
  | [_] => none
  | b :: c :: s =>
      if b = '[' && startsTag c then
        match Text.cut (fun x => x != CodePoint.ofChar '[' && x != CodePoint.ofChar ']') s with
        | (inside, e :: rest) => if e = ']' then some (c :: inside, rest) else none
        | (_, []) => none
      else none

/-- A part of a text: a code point outside of tags, or a tag with the backslashes in front of it. -/
inductive Part where
  | codePoint (c : CodePoint)
  | tag (backslashes : Nat) (inside : Text)
  deriving DecidableEq

/-- The parts of a text; `fuel` bounds their count. -/
def partsFrom : (fuel : Nat) → Text → List Part
  | 0, _ => []
  | _, [] => []
  | fuel + 1, c :: s =>
      let (slashes, rest) := Text.cut (fun x : CodePoint => x = '\\') (c :: s)
      match tagAt? rest with
      | some (inside, rest) => .tag slashes.length inside :: partsFrom fuel rest
      | none => .codePoint c :: partsFrom fuel s

/-- The parts of a text. -/
def parts (s : Text) : List Part := partsFrom s.length s

/-- A text of backslashes. -/
def slashes (n : Nat) : Text := List.replicate n (CodePoint.ofChar '\\')

/-- A tag with its brackets. -/
def bracketed (inside : Text) : Text := ("[" : Text) ++ inside ++ ("]" : Text)

/-- A part that means itself. -/
def escapePart : Part → Text
  | .codePoint c => [c]
  | .tag n inside => slashes (2 * n + 1) ++ bracketed inside

/-- A text with every single backslash at its end doubled. -/
def closeEnd (s : Text) : Text :=
  if ("\\" : Text).isSuffixOf s && !("\\\\" : Text).isSuffixOf s then s ++ slashes 1 else s

/-- A text whose tags mean themselves. -/
def escape (s : Text) : Text := closeEnd ((parts s).flatMap escapePart)

/-- A stretch of plain text, or a tag that opens or closes a style. -/
inductive Piece where
  | plain (s : Text)
  | tag (inside : Text)
  deriving DecidableEq

/-- The pieces of parts, after plain text that is not complete yet. Of the backslashes before a tag
every second one stays, and an odd one makes the tag plain text. -/
def piecesFrom (before : Text) : List Part → List Piece
  | [] => if before = [] then [] else [.plain before]
  | .codePoint c :: ps => piecesFrom (before ++ [c]) ps
  | .tag n inside :: ps =>
      (if before = [] then [] else [Piece.plain before]) ++
      (if n / 2 = 0 then [] else [Piece.plain (slashes (n / 2))]) ++
      (if n % 2 = 1 then [Piece.plain (bracketed inside)] else [Piece.tag inside]) ++
      piecesFrom [] ps

/-- The pieces of a text. -/
def pieces (s : Text) : List Piece := piecesFrom [] (parts s)

/-- A text in which a backslash before an opening bracket is dropped. -/
def unescapeBrackets : Text → Text
  | [] => []
  | c :: s =>
      if c = '\\' && s.head? = some (CodePoint.ofChar '[') then unescapeBrackets s
      else c :: unescapeBrackets s

/-- The control characters that have an effect on a terminal's line. -/
def isLineControl (c : CodePoint) : Bool :=
  c.val = 0x07 || c.val = 0x08 || c.val = 0x0b || c.val = 0x0c || c.val = 0x0d

/-- Plain text as it is shown: brackets and emoji codes are put in place, and the control characters
of a line are dropped. -/
def shown (s : Text) : Text :=
  (Console.replaceEmoji (unescapeBrackets s)).filter fun c => !isLineControl c

/-- A style that is on from one place of a text to another. -/
structure Span where
  first : Nat
  last : Nat
  style : Text
  deriving DecidableEq

/-- A text with styles. -/
structure Styled where
  text : Text
  spans : List Span
  deriving DecidableEq

/-- Why a text is no markup. -/
inductive Error where
  | nothingToClose
  /-- The end of a style that is not on. -/
  | notOpen (style : Text)
  deriving DecidableEq

/-- The name of a style inside of a tag: what stands before an equals sign. -/
def styleName (inside : Text) : Text :=
  ((Text.trim Text.isBlank (inside.takeWhile fun c => c != CodePoint.ofChar '='))).map
    CodePoint.lowerLetter

/-- The open styles, the latest first, with the places where they start. -/
abbrev OpenStyles := List (Nat × Text)

/-- Takes a style of a given name off the open ones, the latest of its name. -/
def OpenStyles.take? (name : Text) : OpenStyles → Option ((Nat × Text) × OpenStyles)
  | [] => none
  | o :: os =>
      if styleName o.2 = name then some (o, os)
      else (OpenStyles.take? name os).map fun r => (r.1, o :: r.2)

/-- Takes the style that a closing tag names, or the latest one if it names none. -/
def OpenStyles.close (name : Text) (opened : OpenStyles) :
    Except Error ((Nat × Text) × OpenStyles) :=
  match name, opened with
  | [], [] => .error .nothingToClose
  | [], o :: os => .ok (o, os)
  | name, opened =>
      match OpenStyles.take? name opened with
      | some r => .ok r
      | none => .error (.notOpen name)

/-- Renders pieces after a text with styles. A style that is not closed is on up to the end. -/
def renderFrom (done : Styled) (opened : OpenStyles) : List Piece → Except Error Styled
  | [] =>
      .ok { done with spans := done.spans ++ opened.map fun o => ⟨o.1, done.text.length, o.2⟩ }
  | .plain s :: ps => renderFrom { done with text := done.text ++ shown s } opened ps
  | .tag inside :: ps =>
      if inside.head? = some (CodePoint.ofChar '/') then
        match OpenStyles.close (styleName (inside.drop 1)) opened with
        | .error e => .error e
        | .ok (o, opened) =>
            renderFrom { done with spans := done.spans ++ [⟨o.1, done.text.length, o.2⟩] } opened ps
      else renderFrom done ((done.text.length, inside) :: opened) ps

/-- The text and the styles of markup. -/
def render (s : Text) : Except Error Styled := renderFrom ⟨[], []⟩ [] (pieces s)

end Markup

end Autoscaler
