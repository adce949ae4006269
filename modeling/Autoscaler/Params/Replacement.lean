import Autoscaler.Params.Basic

/-!
# Replacing parameter maps

Entries of a parameter map are never set one by one. `ParamMap.set` puts the parameters of a text in
place of all entries, and `ParamMap.fromRaw` and `ParamMap.fromValue` make another map. A
`Replacement` is one of the three, where another map takes the place of the one at hand.
-/

namespace Autoscaler

namespace ParamMap

/-- A parameter map without its entries. -/
def clear (_ : ParamMap) : ParamMap := []

/-- A parameter map with more assignments. -/
def update (m : ParamMap) (es : List (Text × Text)) : ParamMap :=
  (ofTexts es).foldl (fun m e => Entries.insert Value.sameKey e.1 e.2 m) m

/-- Puts the parameters of a JSON text in place of all entries. A text without parameters is found
out before any entry is removed. -/
def set (m : ParamMap) (raw : Text) : Logged (ParamMap × Except ParamsError Unit) :=
  match Params.parse raw with
  | .error e => ⟨[], (m, .error e)⟩
  | .ok es =>
      let m := m.clear.update es
      ⟨[m.setRecord], (m, .ok ())⟩

/-- A new parameter map on which a JSON text was set. -/
def fromRaw (raw : Text) : Logged (Except ParamsError ParamMap) :=
  match set [] raw with
  | ⟨records, (m, done)⟩ => ⟨records, done.map fun _ => m⟩

/-- A new parameter map on which a decoded value was set. -/
def fromValue (v : Value) : Logged (Except ParamsError ParamMap) :=
  match Json.ofValue? .asGiven v with
  | .error .tooDeep => ⟨[], .error .tooDeep⟩
  | .error e => ⟨[], .error (.badMapping e)⟩
  | .ok j => fromRaw (j.write .spaced)

/-- Another parameter map in place of the one at hand, if it could be made. -/
def adopt (m : ParamMap) :
    Logged (Except ParamsError ParamMap) → Logged (ParamMap × Except ParamsError Unit)
  | ⟨records, .ok made⟩ => ⟨records, (made, .ok ())⟩
  | ⟨records, .error e⟩ => ⟨records, (m, .error e)⟩

end ParamMap

/-- An operation that puts other entries in place of those of a parameter map. -/
inductive Replacement where
  | set (raw : Text)
  | fromRaw (raw : Text)
  | fromValue (v : Value)

/-- What a replacement leaves of a parameter map. -/
def Replacement.run (m : ParamMap) : Replacement → Logged (ParamMap × Except ParamsError Unit)
  | .set raw => m.set raw
  | .fromRaw raw => m.adopt (ParamMap.fromRaw raw)
  | .fromValue v => m.adopt (ParamMap.fromValue v)

end Autoscaler
