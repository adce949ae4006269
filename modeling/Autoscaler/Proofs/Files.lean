import Autoscaler.Files
import Autoscaler.Proofs.Entries

/-!
# What files hold

Bytes that are appended to a file go to its end, and to no other file (`Files.content?_append`).
Opening a file makes an empty one if there is none, and changes what no file holds
(`Files.content?_openAt`).
-/

namespace Autoscaler

/-- What an entry holds if it is a file. -/
def Entry.bytes? : Entry → Option (List UInt8)
  | .file bytes => some bytes
  | .directory => none

/-- An entry with more bytes at its end if it is a file. -/
def Entry.withBytes (bytes : List UInt8) : Entry → Entry
  | .file old => .file (old ++ bytes)
  | .directory => .directory

theorem Entry.bytes?_withBytes (bytes : List UInt8) (e : Entry) :
    (e.withBytes bytes).bytes? = e.bytes?.map fun old => old ++ bytes := by
  cases e <;> rfl

namespace Files

/-- What the file at a place holds, if there is one. -/
def content? (files : Files) (place : Place) : Option (List UInt8) :=
  (files.at? place).bind Entry.bytes?

section

variable {files : Files} {place : Place}

/-- The entry of a file is listed itself. -/
theorem content?_eq (files : Files) (place : Place) :
    files.content? place =
      if place.all isAnchor then none else (files.lookup place.reverse).bind Entry.bytes? := by
  unfold content? at? entry?
  split
  next => rfl
  next =>
    split
    next found => rw [found]
    next missing =>
      rw [missing]
      split <;> rfl

/-! ## More bytes -/

theorem lookup_append (files : Files) (place : Place) (bytes : List UInt8) (names : List Text) :
    (append files place bytes).lookup names =
      if names = place.reverse then (files.lookup names).map (Entry.withBytes bytes)
      else files.lookup names := by
  induction files with
  | nil => simp [append]
  | cons f files ih =>
      obtain ⟨here, e⟩ := f
      have first : append ((here, e) :: files) place bytes =
          (here, if here = place.reverse then e.withBytes bytes else e) ::
            append files place bytes := by
        cases e <;> by_cases own : here = place.reverse <;> simp [append, own, Entry.withBytes]
      rw [first, Entries.lookup_cons, Entries.lookup_cons, ih]
      by_cases same : names = here
      · subst same
        by_cases own : names = place.reverse <;> simp [own]
      · rw [if_neg same, if_neg same]

/-- Bytes go to the end of their file, and to no other. -/
theorem content?_append (files : Files) (place : Place) (bytes : List UInt8) (p : Place) :
    content? (append files place bytes) p =
      (content? files p).map fun old => if p = place then old ++ bytes else old := by
  rw [content?_eq, content?_eq, lookup_append]
  by_cases own : p = place
  · subst own
    simp only [if_true]
    split
    next => rfl
    next =>
      cases files.lookup p.reverse with
      | none => rfl
      | some e => exact e.bytes?_withBytes bytes
  · have apart : p.reverse ≠ place.reverse := fun same => own (List.reverse_injective same)
    simp only [if_neg own, if_neg apart, Option.map_id']

/-! ## More entries -/

theorem content?_concat (absent : files.at? place = none) (e : Entry) (p : Place) :
    content? (files ++ [(place.reverse, e)]) p =
      if p = place then e.bytes? else content? files p := by
  have free : ¬ place.all isAnchor = true ∧ files.lookup place.reverse = none := by
    unfold at? entry? at absent
    split at absent
    next => cases absent
    next free =>
      split at absent
      next => cases absent
      next missing => exact ⟨free, missing⟩
  rw [content?_eq, content?_eq, List.lookup_append, Entries.lookup_cons, List.lookup_nil]
  by_cases own : p = place
  · subst own
    simp [free]
  · have apart : p.reverse ≠ place.reverse := fun same => own (List.reverse_injective same)
    simp only [if_neg own, if_neg apart, Option.or_none]

/-- Making a directory changes no file. -/
theorem content?_makeDirectory (files : Files) (place p : Place) :
    content? (files.makeDirectory place).1 p = content? files p := by
  induction place with
  | nil => rfl
  | cons name above ih =>
      unfold makeDirectory
      split
      next made =>
        rw [made] at ih
        split <;> exact ih
      next made =>
        rw [made] at ih
        exact ih
      next made =>
        rw [made] at ih
        split
        next => exact ih
        next => exact ih
        next absent =>
          split
          next => exact ih
          next =>
            refine (content?_concat absent .directory p).trans ?_
            split
            next own =>
              subst own
              rw [← ih, content?, absent]
              rfl
            next => exact ih

/-- Opening a file makes an empty one if there is none, and changes no other. If it cannot be opened,
no file is changed. -/
theorem content?_openAt (files : Files) (place p : Place) :
    content? (files.openAt place).1 p =
      match (files.openAt place).2 with
      | .ok () => if p = place then some ((content? files p).getD []) else content? files p
      | .error _ => content? files p := by
  have above := content?_makeDirectory files (place.drop 1) p
  unfold openAt
  split
  next made =>
    rw [made] at above
    exact above
  next made =>
    rw [made] at above
    split
    next => exact above
    next bytes there =>
      refine above.trans ?_
      dsimp only
      split
      next own =>
        subst own
        rw [← above, content?, there]
        rfl
      next => rfl
    next absent =>
      split
      next => exact above
      next =>
        refine (content?_concat absent (.file []) p).trans ?_
        dsimp only
        split
        next own =>
          subst own
          rw [← above, content?, absent]
          rfl
        next => exact above

end

end Files

end Autoscaler
