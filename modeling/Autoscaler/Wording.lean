import Autoscaler.Text.Basic

/-!
# Wording of the libraries

Some messages quote what a library has to say. This is not the same in all versions of the library,
so a `Wording` is given where such a message is made.
-/

namespace Autoscaler

/-- What libraries say in the messages that quote them. -/
structure Wording where
  /-- What a reader of YAML says is wrong with a document, given the path of its file and its
  bytes. -/
  problem : (path : Text) → (bytes : List UInt8) → Text := fun _ _ => []
  /-- Where the reasons for a refusal are explained, up to their short names. -/
  address : Text := []

end Autoscaler
