import Autoscaler.Console.Markup
import Autoscaler.Console.Screen
import Autoscaler.Console.Table
import Autoscaler.Settings.Basic
import Autoscaler.Text.Numeral
import Autoscaler.Value.Display

/-!
# The summary of the settings

A table of the flags and their values. Every value is shown as it is: its brackets do not count as
markup.
-/

namespace Autoscaler

/-- Why settings cannot be shown. -/
inductive DisplayError where
  /-- An integer beyond the limit on digits. -/
  | tooManyDigits
  | markup (e : Markup.Error)
  /-- Surrogates on a console that has no form for them. -/
  | encoding (stretch : Utf8.SurrogateStretch)

namespace DisplayError

/-- The wording of an error. -/
def message : DisplayError → Text
  | .tooManyDigits => Numeral.limitText none
  | .markup _ => "the summary is no markup"
  | .encoding stretch =>
      stretch.message ++
        ("\n*** You may need to add PYTHONIOENCODING=utf-8 to your environment ***" : Text)

end DisplayError

namespace Summary

/-- The title of the table. -/
def title : Text := "Autoscaler Configuration"

/-- The flags that are shown. -/
def fields : List Field := Field.all.filter (· ≠ .printVersion)

/-- The text of a cell for a value. -/
def cell (v : Value) : Except DisplayError Text :=
  if v.isWritable then
    match Markup.render (Markup.escape v.plain) with
    | .ok styled => .ok styled.text
    | .error e => .error (.markup e)
  else .error .tooManyDigits

/-- The rows for some fields of settings. -/
def rows (s : Settings) : List Field → Except DisplayError (List (List Text))
  | [] => .ok []
  | f :: fs =>
      match cell (s.get f) with
      | .error e => .error e
      | .ok value => (rows s fs).map fun rest => [("--" : Text) ++ f.flag, value] :: rest

/-- The table for settings. -/
def table (s : Settings) : Except DisplayError Console.Table :=
  (rows s fields).map fun rows => ⟨title, ["Flag", "Value"], rows⟩

/-- The summary on a console of a given width. -/
def text (s : Settings) (consoleWidth : Nat) : Except DisplayError Text :=
  (table s).map fun table => table.render consoleWidth

/-- What is printed on a screen about settings. -/
def printed (s : Settings) (screen : Screen) : Except DisplayError Text :=
  (text s screen.width).bind fun summary => (screen.put summary).mapError .encoding

end Summary

end Autoscaler
