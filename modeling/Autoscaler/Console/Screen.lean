import Autoscaler.Text.Utf8

/-!
# Screens

What a run prints goes to a screen. A screen has a number of columns, and passes on the text that is
put on it in an encoding that may have no form for surrogates.
-/

namespace Autoscaler

/-- What becomes of a text that is put on a screen. -/
inductive Stream where
  /-- Its bytes in UTF-8 are passed on. -/
  | utf8
  /-- It is kept as a text, surrogates included. -/
  | memory
  deriving DecidableEq, Repr

/-- A screen of so many columns. -/
structure Screen where
  width : Nat := 80
  stream : Stream := .utf8

namespace Screen

/-- Puts a text on a screen as a whole, unless surrogates are in it that the stream refuses. -/
def put (screen : Screen) (s : Text) : Except Utf8.SurrogateStretch Text :=
  match screen.stream with
  | .memory => .ok s
  | .utf8 =>
      match Utf8.surrogateStretch? s with
      | none => .ok s
      | some stretch => .error stretch

end Screen

end Autoscaler
