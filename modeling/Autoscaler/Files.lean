import Autoscaler.Text.Utf8

/-!
# Paths and files

Files by their paths. `Files.find` follows a path one name at a time, as a file system does: `..`
leaves a directory only if it is there to be left.
-/

namespace Autoscaler

/-- A path: the slashes of its root, if it has one, and its names without those that do not move. -/
structure Path where
  root : Text
  names : List Text
  deriving DecidableEq

namespace Path

/-- The name of the directory itself. -/
def here : Text := "."

/-- The name of the directory above. -/
def above : Text := ".."

/-- The root of a path: two slashes stay two, and any other number is one. -/
def rootOf (s : Text) : Text :=
  let slashes := s.takeWhile fun c : CodePoint => c = '/'
  if slashes = [] then [] else if slashes.length = 2 then slashes else "/"

/-- The path that a text writes. -/
def ofText (s : Text) : Path :=
  ⟨rootOf s, (s.splitOn '/').filter fun name => name ≠ [] && name ≠ here⟩

/-- A path in its shortest writing, in which `..` stays. -/
def text (p : Path) : Text :=
  if p.root = [] && p.names = [] then here else p.root ++ Text.join "/" p.names

/-- Whether a path starts at the root. -/
def isAbsolute (p : Path) : Bool := p.root ≠ []

end Path

/-- Why a text leads to no file, whatever files there are. -/
inductive PathFault where
  /-- A null byte ends a path where it stands. -/
  | nullByte
  | encoding (stretch : Utf8.SurrogateStretch)
  deriving DecidableEq

namespace PathFault

/-- The wording of a fault. -/
def message : PathFault → Text
  | .nullByte => "embedded null byte"
  | .encoding stretch => stretch.message

end PathFault

namespace Path

/-- Whether a code point stands for one byte of a path that is no UTF-8. -/
def isRawByte (c : CodePoint) : Bool := 0xdc80 ≤ c.val && c.val ≤ 0xdcff

/-- The fault of a path, as it is written. -/
def fault? (s : Text) : Option PathFault :=
  match Utf8.stretchFrom? (fun c => c.isSurrogate && !isRawByte c) s with
  | some stretch => some (.encoding stretch)
  | none => if s.contains (CodePoint.ofChar '\x00') then some .nullByte else none

end Path

/-- What a name in a directory stands for. -/
inductive Entry where
  | file (bytes : List UInt8)
  | directory
  deriving DecidableEq

/-- The entries that are known, by the names on the way to them: from the working directory, or from
the root if the first name is a slash. A way up from the working directory starts with `..`. The
directories on the way to an entry are there too. -/
abbrev Files := List (List Text × Entry)

/-- Why a path leads to no entry. -/
inductive PathError where
  | notFound
  | nameTooLong
  deriving DecidableEq

namespace Files

/-- How many bytes a name may take up. -/
def maxNameSize : Nat := 255

/-- How many bytes a path may take up. -/
def maxPathSize : Nat := 4095

/-- How many bytes a code point takes up. -/
def byteCount (c : CodePoint) : Nat :=
  if c.val < 0x80 || Path.isRawByte c then 1
  else if c.val < 0x800 then 2 else if c.val < 0x10000 then 3 else 4

/-- How many bytes a text takes up. -/
def size (s : Text) : Nat := s.foldr (fun c n => byteCount c + n) 0

/-- The entry at a list of names. -/
def entry? (files : Files) (names : List Text) : Option Entry :=
  match files.lookup names with
  | some e => some e
  | none => if files.any fun f => names.isPrefixOf f.1 then some .directory else none

/-- A place that a path leads to: the names on the way to it, the last one first. -/
abbrev Place := List Text

/-- The place that a path starts from. -/
def start (path : Path) : Place := if path.isAbsolute then ["/"] else []

/-- Whether a name does not lead down into a directory. -/
def isAnchor (name : Text) : Bool := name = Path.above || name = ("/" : Text)

/-- The place that a name leads to from a directory. There is nothing above the root. -/
def step (place : Place) (name : Text) : Place :=
  if name = Path.above then
    match place with
    | [] => [name]
    | n :: ns => if n = ("/" : Text) then place else if n = Path.above then name :: place else ns
  else name :: place

/-- What stands at a place. -/
def at? (files : Files) (place : Place) : Option Entry :=
  if place.all isAnchor then some .directory else files.entry? place.reverse

/-- The place that names lead to, each from the directory before it. -/
def walk (files : Files) (place : Place) : List Text → Except PathError Place
  | [] => .ok place
  | name :: names =>
      if files.at? place ≠ some .directory then .error .notFound
      else if maxNameSize < size name then .error .nameTooLong
      else if (files.at? (step place name)).isNone then .error .notFound
      else walk files (step place name) names

/-- The entry that a path leads to. -/
def find (files : Files) (path : Path) : Except PathError Entry :=
  if (Path.fault? path.text).isSome then .error .notFound
  else if maxPathSize < size path.text then .error .nameTooLong
  else
    match files.walk (start path) path.names with
    | .error e => .error e
    | .ok place =>
        match files.at? place with
        | some e => .ok e
        | none => .error .notFound

/-- The place that a path names where `..` takes back the name before it, whatever is there. -/
def lexical (path : Path) : Place := path.names.foldl step (start path)

/-- How a place is written. -/
def textOf (place : Place) : Text := Text.join "/" place.reverse

/-- Why a file cannot be opened to be written. -/
inductive OpenError where
  | directory
  /-- The directory that the file would be in is the name of a file. -/
  | parentTaken
  /-- A directory further up is the name of a file. -/
  | notDirectory
  | nameTooLong
  | path (fault : PathFault)
  deriving DecidableEq

/-- Why nothing can be made at a place whose directory is there. -/
def nameError? : Place → Option OpenError
  | [] => none
  | name :: above =>
      match Path.fault? (textOf (name :: above)) with
      | some fault => some (.path fault)
      | none => if maxNameSize < size name then some .nameTooLong else none

/-- The files with a directory at a place. Those on the way to it are made first, and stay where the
way ends at something that is no directory or cannot be one. -/
def makeDirectory (files : Files) : Place → Files × Except OpenError Unit
  | [] => (files, .ok ())
  | name :: above =>
      match files.makeDirectory above with
      | (files, .error .parentTaken) =>
          match Path.fault? (textOf (name :: above)) with
          | some fault => (files, .error (.path fault))
          | none => (files, .error .notDirectory)
      | (files, .error e) => (files, .error e)
      | (files, .ok ()) =>
          match files.at? (name :: above) with
          | some .directory => (files, .ok ())
          | some (.file _) => (files, .error .parentTaken)
          | none =>
              match nameError? (name :: above) with
              | some e => (files, .error e)
              | none => (files ++ [((name :: above).reverse, .directory)], .ok ())

/-- The files with an empty one at a place, unless there is a file already. The directories on the
way are made as needed, and stay if the file cannot be opened. -/
def openAt (files : Files) (place : Place) : Files × Except OpenError Unit :=
  match files.makeDirectory (place.drop 1) with
  | (files, .error e) => (files, .error e)
  | (files, .ok ()) =>
      match files.at? place with
      | some .directory => (files, .error .directory)
      | some (.file _) => (files, .ok ())
      | none =>
          match nameError? place with
          | some e => (files, .error e)
          | none => (files ++ [(place.reverse, .file [])], .ok ())

/-- The files with more bytes at the end of the one at a place. -/
def append (files : Files) (place : Place) (bytes : List UInt8) : Files :=
  files.map fun f =>
    match f with
    | (names, .file old) => (names, .file (if names = place.reverse then old ++ bytes else old))
    | f => f

/-- The files with an entry put at a list of names, in place of an earlier one. -/
def put (files : Files) (names : List Text) (e : Entry) : Files :=
  (names, e) :: files.filter fun f => f.1 ≠ names

end Files

end Autoscaler
