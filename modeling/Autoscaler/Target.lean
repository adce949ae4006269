import Autoscaler.Log.Record
import Autoscaler.Text.Quoted

/-!
# Scale targets

A target names the one workload to scale: a resource and a name with a slash between them. The
resource is a well-known kind, or a kind qualified by a group or by a version and a group.
`Target.problem?` is a permissive check: it asks for one slash, and for two or three dot-separated
segments before it or the front of a known kind; it does not look at the name.
-/

namespace Autoscaler

/-- What is wrong with a target. -/
inductive TargetProblem where
  | empty
  /-- A slash is missing, or there are several. -/
  | notTwoParts
  /-- A resource, in its segments, that is neither qualified nor of a known kind. -/
  | badResource (segments : List Text)
  deriving DecidableEq

namespace TargetProblem

/-- The wording of a problem. -/
def message : TargetProblem → Text
  | .empty => "--target parameter cannot be empty"
  | .notTwoParts => "--target must include resource and name"
  | .badResource segments =>
      ("--target must include valid resource " : Text) ++ Text.quotedList segments

end TargetProblem

/-- A target split into its resource part and its name part. -/
structure TargetReference where
  resource : Text
  name : Text
  deriving DecidableEq

namespace TargetReference

/-- The segments of the resource part. -/
def segments (r : TargetReference) : List Text := r.resource.splitOn '.'

/-- The first segment of the resource part. -/
def kind (r : TargetReference) : Text := r.segments.headD []

/-- The API group of a qualified resource, and nothing otherwise. -/
def group (r : TargetReference) : Text :=
  match r.segments with
  | [_, group] => group
  | [_, _, group] => group
  | _ => []

/-- A reference as a target. -/
def text (r : TargetReference) : Text := r.resource ++ ("/" : Text) ++ r.name

end TargetReference

namespace Target

/-- The workload kinds that need no group. -/
def knownKinds : List Text :=
  ["deployment", "replicaset", "statefulset", "replicationcontroller"]

/-- Whether a resource part is accepted. -/
def isResource (resource : Text) : Bool :=
  let count := (resource.splitOn '.').length
  count == 2 || count == 3 || knownKinds.any fun kind => kind.isPrefixOf resource

/-- What is wrong with a target, if anything is. -/
def problem? (target : Text) : Option TargetProblem :=
  if target = [] then some .empty
  else match target.splitOn '/' with
    | [resource, _] =>
        if isResource resource then none else some (.badResource (resource.splitOn '.'))
    | _ => some .notTwoParts

/-- The reference that an accepted target makes: the parts before and after its slash. -/
def parse (target : Text) : Except TargetProblem TargetReference :=
  match problem? target with
  | some problem => .error problem
  | none =>
      let (resource, rest) := Text.cut (· ≠ '/') target
      .ok ⟨resource, rest.drop 1⟩

/-- Whether a target is accepted; the problem of another one is logged. -/
def check (target : Text) : Logged Bool :=
  match problem? target with
  | none => ⟨[], true⟩
  | some problem => ⟨[.error problem.message], false⟩

end Target

end Autoscaler
