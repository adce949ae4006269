import Autoscaler.Proofs.Target

/-!
# Target references

A target that passes its check makes a reference that is written as the target, and a reference that
is written as such a target is the one that is made of it (`parse_agrees`). The check, its problem
and the making of a reference never disagree. A resource with one point is a kind and a group, and
one with two points has a version between them.
-/

namespace Autoscaler

namespace Text

theorem eq_of_splitOn_pair {x : CodePoint} {s a b : Text} (pieces : s.splitOn x = [a, b]) :
    s = a ++ x :: b := by
  have joined := join_splitOn x s
  rw [pieces] at joined
  rw [← joined, join, join, List.append_assoc]
  rfl

theorem eq_of_splitOn_triple {x : CodePoint} {s a b c : Text} (pieces : s.splitOn x = [a, b, c]) :
    s = a ++ x :: (b ++ x :: c) := by
  have joined := join_splitOn x s
  rw [pieces] at joined
  rw [← joined, join, join, join]
  simp only [List.append_assoc, List.singleton_append]

end Text

namespace TargetReference

open Target (dot)

variable (r : TargetReference)

theorem length_segments : r.segments.length = r.resource.count dot + 1 :=
  Text.length_splitOn dot r.resource

/-- A resource with one point is its kind and its group. -/
theorem resource_eq_of_one (one : r.resource.count dot = 1) :
    r.resource = r.kind ++ dot :: r.group := by
  have length := r.length_segments
  rw [one] at length
  obtain ⟨kind, group, pieces⟩ := List.length_eq_two.mp length
  rw [TargetReference.kind, TargetReference.group, pieces]
  exact Text.eq_of_splitOn_pair pieces

/-- A resource with two points is its kind, a version and its group. -/
theorem resource_eq_of_two (two : r.resource.count dot = 2) :
    ∃ version, dot ∉ version ∧ r.resource = r.kind ++ dot :: (version ++ dot :: r.group) := by
  have length := r.length_segments
  rw [two] at length
  obtain ⟨kind, version, group, pieces⟩ := List.length_eq_three.mp length
  have whole := Text.eq_of_splitOn_triple pieces
  refine ⟨version, ?_, ?_⟩
  · -- Both points of the resource stand outside of the version.
    rw [whole] at two
    simp only [List.count_append, List.count_cons_self] at two
    exact List.count_eq_zero.mp (by omega)
  · rw [TargetReference.kind, TargetReference.group, pieces]
    exact whole

theorem group_eq_nil (other : r.resource.count dot ≠ 1) (other' : r.resource.count dot ≠ 2) :
    r.group = [] := by
  have length := r.length_segments
  rw [group]
  split
  next pieces =>
    rw [pieces] at length
    exact absurd length.symm (by simpa using other)
  next pieces =>
    rw [pieces] at length
    exact absurd length.symm (by simpa using other')
  next => rfl

end TargetReference

namespace Target

variable {target : Text} {r : TargetReference}

theorem parse_of_problem {problem : TargetProblem} (found : problem? target = some problem) :
    parse target = .error problem := by
  rw [parse, found]

theorem parse_eq_ok_iff : parse target = .ok r ↔ problem? target = none ∧ r.text = target ∧
    slash ∉ r.resource := by
  constructor
  · intro parsed
    cases found : problem? target with
    | some problem =>
        rw [parse_of_problem found] at parsed
        cases parsed
    | none =>
        obtain ⟨r', parsed', text, resource, _⟩ := exists_parse found
        obtain rfl : r = r' := Except.ok.inj (parsed.symm.trans parsed')
        exact ⟨rfl, text, resource⟩
  · rintro ⟨passes, rfl, free⟩
    rw [text_eq] at passes ⊢
    exact parse_of_not_mem free passes

theorem takeWhile_of_not_mem {resource name : Text} (free : slash ∉ resource) :
    (resource ++ slash :: name).takeWhile (· ≠ slash) = resource := by
  have others : ∀ c ∈ resource, (c ≠ slash : Bool) = true := by
    intro c member
    exact decide_eq_true fun same => free (same ▸ member)
  rw [List.takeWhile_append_of_pos others]
  simp

theorem check_of_none (passes : problem? target = none) : check target = ⟨[], true⟩ := by
  rw [check, passes]

theorem check_of_problem {problem : TargetProblem} (found : problem? target = some problem) :
    check target = ⟨[.error problem.message], false⟩ := by
  rw [check, found]

/-- What a reference is written as makes that reference exactly if its two parts have no slash and
its resource is one that is accepted. -/
theorem parse_text_eq_ok_iff (r : TargetReference) :
    parse r.text = .ok r ↔
      slash ∉ r.resource ∧ slash ∉ r.name ∧ isResource r.resource = true := by
  rw [parse_eq_ok_iff, problem?_eq_none_iff, text_eq]
  constructor
  · rintro ⟨⟨one, accepted⟩, -, free⟩
    rw [takeWhile_of_not_mem free] at accepted
    rw [List.count_append, List.count_cons_self] at one
    exact ⟨free, List.count_eq_zero.mp (by omega), accepted⟩
  · rintro ⟨free, free', accepted⟩
    rw [takeWhile_of_not_mem free, List.count_append, List.count_cons_self,
      List.count_eq_zero.mpr free, List.count_eq_zero.mpr free']
    exact ⟨⟨rfl, accepted⟩, rfl, free⟩

/-- No text of a reference makes another one. -/
theorem eq_of_parse_text {r r' : TargetReference} (parsed : parse r.text = .ok r') : r' = r := by
  obtain ⟨passes, text, free'⟩ := parse_eq_ok_iff.mp parsed
  obtain ⟨one, -⟩ := problem?_eq_none_iff.mp passes
  rw [text_eq, text_eq] at text
  have free : slash ∉ r.resource := by
    intro member
    have several := List.count_pos_iff.mpr member
    rw [text_eq, List.count_append, List.count_cons_self] at one
    omega
  have fronts := congrArg (List.takeWhile (· ≠ slash)) text
  rw [takeWhile_of_not_mem free, takeWhile_of_not_mem free'] at fronts
  rw [fronts] at text
  have names := List.append_cancel_left text
  cases r
  cases r'
  simp_all

/-- The three ways to look at a target agree: its check passes, with nothing logged, exactly if it
has no problem, and exactly if it makes a reference; and the problem of another target is what is
logged and why there is no reference. A reference that is made of a target is written as the target,
and its resource is taken apart into a kind, a version and a group by its points. In the other
direction a reference is made again of what it is written as, or none is, and the former holds
exactly if neither part has a slash and the resource has one point or two or starts with a known
kind. -/
theorem parse_agrees (target : Text) (r : TargetReference) :
    ((check target = ⟨[], true⟩ ↔ problem? target = none) ∧
      ((check target).result = true ↔ problem? target = none) ∧
      ((∃ r, parse target = .ok r) ↔ problem? target = none) ∧
      ∀ problem, problem? target = some problem →
        check target = ⟨[.error problem.message], false⟩ ∧ parse target = .error problem) ∧
    (parse target = .ok r →
      r.text = target ∧
      (r.resource.count dot = 1 → r.resource = r.kind ++ dot :: r.group) ∧
      (r.resource.count dot = 2 →
        ∃ version, dot ∉ version ∧ r.resource = r.kind ++ dot :: (version ++ dot :: r.group)) ∧
      (r.resource.count dot ≠ 1 → r.resource.count dot ≠ 2 → r.group = [])) ∧
    (parse r.text = .ok r ∨ ∃ problem, parse r.text = .error problem) ∧
    (parse r.text = .ok r ↔
      slash ∉ r.resource ∧ slash ∉ r.name ∧
        (r.resource.count dot = 1 ∨ r.resource.count dot = 2 ∨
          ∃ kind ∈ knownKinds, kind <+: r.resource)) := by
  refine ⟨?_, fun parsed => ⟨?_, r.resource_eq_of_one, r.resource_eq_of_two, r.group_eq_nil⟩, ?_, ?_⟩
  · cases found : problem? target with
    | none =>
        obtain ⟨r', parsed, -⟩ := exists_parse found
        simp [check_of_none found, parsed]
    | some problem => simp [check_of_problem found, parse_of_problem found]
  · exact (parse_eq_ok_iff.mp parsed).2.1
  · cases parsed : parse r.text with
    | error problem => exact .inr ⟨problem, rfl⟩
    | ok r' =>
        obtain rfl := eq_of_parse_text parsed
        exact .inl rfl
  · rw [parse_text_eq_ok_iff, isResource_iff]

/-- A resource with a version and an empty name. -/
theorem parse_agrees_versioned :
    let target : Text := "apps.v1.group/"
    let r : TargetReference := ⟨"apps.v1.group", []⟩
    parse target = .ok r ∧ r.text = target ∧ r.resource.count dot = 2 ∧
      (∃ version, dot ∉ version ∧ r.resource = r.kind ++ dot :: (version ++ dot :: r.group)) ∧
      check target = ⟨[], true⟩ ∧ parse r.text = .ok r := by
  intro target r
  have parsed : parse target = .ok r := by decide +kernel
  have two : r.resource.count dot = 2 := by decide +kernel
  obtain ⟨⟨checks, -, makes, -⟩, shape, -, -⟩ := parse_agrees target r
  obtain ⟨text, -, versioned, -⟩ := shape parsed
  refine ⟨parsed, text, two, versioned two, checks.mpr (makes.mp ⟨r, parsed⟩), ?_⟩
  rw [text]
  exact parsed

end Target

end Autoscaler
