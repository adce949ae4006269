import Autoscaler.Proofs.CommandLine.Levels
import Autoscaler.Proofs.CommandLine.Written
import Autoscaler.Proofs.Settings.Layers

/-!
# The order of options

A run depends on the last value of every option only, and not on the order in which options are
written (`Invocation.run_lastOnes`). The overrides are made in the order of the options, but all of
them are accepted, and they concern different fields.
-/

namespace Autoscaler

namespace WrittenOption

/-- The options of a command line without those that are written again later. -/
def lastOnes : List WrittenOption → List WrittenOption
  | [] => []
  | w :: ws => if ws.any fun v => v.option = w.option then lastOnes ws else w :: lastOnes ws

section

variable {ws rest : List WrittenOption} {w : WrittenOption}

/-! ## The last ones -/

theorem mem_of_mem_lastOnes (member : w ∈ lastOnes ws) : w ∈ ws := by
  induction ws with
  | nil => cases member
  | cons v ws ih =>
      rw [lastOnes] at member
      split at member
      next => exact List.mem_cons_of_mem _ (ih member)
      next =>
        rcases List.mem_cons.mp member with rfl | member
        · exact List.mem_cons_self ..
        · exact List.mem_cons_of_mem _ (ih member)

theorem nodup_lastOnes (ws : List WrittenOption) :
    (((lastOnes ws).map assignment).map Prod.fst).Nodup := by
  induction ws with
  | nil => exact List.nodup_nil
  | cons w ws ih =>
      rw [lastOnes]
      split
      next => exact ih
      next last =>
        refine List.nodup_cons.mpr ⟨fun member => last ?_, ih⟩
        rw [List.map_map] at member
        obtain ⟨v, inside, same⟩ := List.mem_map.mp member
        exact List.any_eq_true.mpr ⟨v, mem_of_mem_lastOnes inside, decide_eq_true same⟩

theorem lookup_eq_none_iff (ws : List WrittenOption) (o : CommandOption) :
    (ws.map assignment).reverse.lookup o = none ↔ (ws.any fun v => v.option = o) = false := by
  simp only [List.lookup_eq_none_iff, List.mem_reverse, List.forall_mem_map, List.any_eq_false,
    bne_iff_ne, decide_eq_true_eq]
  exact forall₂_congr fun w _ => not_congr eq_comm

/-- Under every option the value stands that it is written with last. -/
theorem lookup_lastOnes (ws : List WrittenOption) (o : CommandOption) :
    ((lastOnes ws).map assignment).lookup o = (ws.map assignment).reverse.lookup o := by
  induction ws with
  | nil => rfl
  | cons w ws ih =>
      rw [List.map_cons, List.reverse_cons, List.lookup_append, ← ih, Entries.lookup_cons,
        List.lookup_nil, lastOnes]
      by_cases own : o = w.option
      · subst own
        have later := lookup_eq_none_iff ws w.option
        rw [← ih] at later
        split
        next again =>
          have found : ((lastOnes ws).map assignment).lookup w.option ≠ none := by
            rw [Ne, later, again]
            decide
          obtain ⟨value, found⟩ := Option.ne_none_iff_exists'.mp found
          rw [found, Option.some_or]
        next last =>
          rw [later.mpr (Bool.eq_false_iff.mpr last), List.map_cons, Entries.lookup_cons,
            Option.none_or, option, if_pos rfl, if_pos rfl]
      · have other : o ≠ w.assignment.1 := own
        rw [if_neg other, Option.or_none]
        split
        next => rfl
        next => rw [List.map_cons, Entries.lookup_cons, if_neg other]

/-- What is written last is read as the last values, in an order of its own. -/
theorem perm_lastValues (order : rest.Perm (lastOnes ws)) :
    (rest.map assignment).Perm (Arguments.lastValues ⟨ws.map assignment, []⟩) := by
  refine (order.map assignment).trans ?_
  refine Entries.perm_of_lookup_eq (nodup_lastOnes ws) (Arguments.nodup_lastValues _) fun o => ?_
  rw [Arguments.lookup_lastValues, lookup_lastOnes, Arguments.last?]

theorem lastValues_of_perm_lastOnes (order : rest.Perm (lastOnes ws)) :
    Arguments.lastValues ⟨rest.map assignment, []⟩ = rest.map assignment := by
  have distinct := ((order.map assignment).map Prod.fst).nodup_iff.mpr (nodup_lastOnes ws)
  rw [Arguments.lastValues_eq]
  exact Entries.ofAssignments_of_distinct (Entries.distinct_iff_nodup.mpr distinct)

end

end WrittenOption

namespace Settings

section

variable {s : Settings} {values values' : List (Text × Value)}

/-- Overrides that are accepted and concern different fields may be made in any order. -/
theorem withOverrides_perm (distinct : (values.map Prod.fst).Nodup)
    (accepted : ∀ o ∈ values, IsOverride o) (order : values'.Perm values) :
    s.withOverrides values' = s.withOverrides values := by
  have distinct' : (values'.map Prod.fst).Nodup := (order.map Prod.fst).nodup_iff.mpr distinct
  have accepted' : ∀ o ∈ values', IsOverride o :=
    fun o member => accepted o (order.mem_iff.mp member)
  obtain ⟨t, here⟩ := (exists_withOverrides_iff (s := s)).mpr accepted
  obtain ⟨t', there⟩ := (exists_withOverrides_iff (s := s)).mpr accepted'
  rw [here, there]
  refine congrArg Except.ok (ext_get fun f => ?_)
  have here := get_withOverrides distinct here f
  have there := get_withOverrides distinct' there f
  rw [Entries.lookup_eq_of_perm distinct order] at there
  cases given : (values.lookup f.name).bind Value.nonNull? with
  | some v =>
      rw [given] at here there
      exact Except.ok.inj (there.symm.trans here)
  | none =>
      rw [given] at here there
      exact there.trans here.symm

theorem resolve_perm_overrides (distinct : (values.map Prod.fst).Nodup)
    (accepted : ∀ o ∈ values, IsOverride o) (order : values'.Perm values) (files : Files)
    (environment : Environment) (path : Option Path) :
    resolve files environment path values' = resolve files environment path values := by
  have layers : ∀ s : Settings, s.layer values' = s.layer values := by
    intro s
    rw [layer, layer, withOverrides_perm distinct accepted order]
  simp only [resolve, layers]

end

end Settings

namespace Request

section

variable {vs vs' : List (CommandOption × Text)}

/-! ## Overrides -/

theorem field_of_overrideOf? {v : CommandOption × Text} {f : Field} {value : Value}
    (overrides : overrideOf? v = some (f, value)) : v.1 = .field f ∧ f.Accepts value := by
  obtain ⟨o, text⟩ := v
  cases o with
  | field g =>
      cases g with
      | target | configmap | podNamespace | nodeLabels =>
          cases overrides
          exact ⟨rfl, _, rfl⟩
      | pollPeriodSeconds | maxSyncFailures =>
          obtain ⟨n, _, equal⟩ := Option.map_eq_some_iff.mp overrides
          cases equal
          exact ⟨rfl, _, rfl⟩
      | printVersion => cases overrides
      | defaultParams =>
          obtain ⟨m, _, equal⟩ := Option.map_eq_some_iff.mp overrides
          cases equal
          exact ⟨rfl, _, rfl⟩
  | configFile | logLevel | logFile | help => cases overrides

theorem nodup_overrides (distinct : (vs.map Prod.fst).Nodup) :
    ((ofValues vs).overrides.map Prod.fst).Nodup := by
  refine List.pairwise_map.mpr ((List.pairwise_map.mp distinct).filterMap overrideOf? ?_)
  intro v w apart o first p second same
  refine apart ?_
  rw [(field_of_overrideOf? first).1, (field_of_overrideOf? second).1, same]

theorem accepted_overrides (vs : List (CommandOption × Text)) :
    ∀ o ∈ (ofValues vs).namedOverrides, Settings.IsOverride o := by
  intro o member
  obtain ⟨p, inside, rfl⟩ := List.mem_map.mp member
  obtain ⟨v, _, overrides⟩ := List.mem_filterMap.mp inside
  exact ⟨p.1, p.1.ofName?_name, fun _ => (field_of_overrideOf? overrides).2⟩

/-- In another order the same values ask for the same, but for the order of the overrides. -/
theorem ofValues_perm (distinct : (vs.map Prod.fst).Nodup) (order : vs'.Perm vs) :
    ofValues vs' = { ofValues vs with overrides := (ofValues vs').overrides } ∧
      (ofValues vs').overrides.Perm (ofValues vs).overrides := by
  have last : ∀ o, vs'.reverse.lookup o = vs.reverse.lookup o := by
    intro o
    rw [Entries.lookup_eq_of_perm distinct ((List.reverse_perm vs').trans order),
      Entries.lookup_eq_of_perm distinct (List.reverse_perm vs)]
  refine ⟨?_, order.filterMap _⟩
  simp only [ofValues, last]

/-- The order of values makes no difference to the work. -/
theorem work_perm (distinct : (vs.map Prod.fst).Nodup) (order : vs'.Perm vs)
    (files : Files) (around : Surroundings) :
    (ofValues vs').work files around = (ofValues vs).work files around := by
  obtain ⟨same, overrides⟩ := ofValues_perm distinct order
  have names : ((ofValues vs).namedOverrides.map Prod.fst).Nodup :=
    Settings.nodup_overridesOf (nodup_overrides distinct)
  have resolved := Settings.resolve_perm_overrides names (accepted_overrides vs)
    (overrides.map fun o => (o.1.name, o.2)) files around.environment (ofValues vs).configFile?
  have version : (ofValues vs').printVersion = (ofValues vs).printVersion := by rw [same]
  have path : (ofValues vs').configFile? = (ofValues vs).configFile? := by rw [same]
  simp only [work, version, path]
  rw [namedOverrides, resolved]

end

end Request

namespace Arguments

section

variable {a a' : Arguments}

theorem last?_of_perm (order : a'.lastValues.Perm a.lastValues) (o : CommandOption) :
    a'.last? o = a.last? o := by
  rw [← lookup_lastValues, ← lookup_lastValues,
    Entries.lookup_eq_of_perm a.nodup_lastValues order]

theorem asksForHelp_of_perm (order : a'.lastValues.Perm a.lastValues) :
    a'.asksForHelp = a.asksForHelp := by
  rw [asksForHelp_eq_isSome_last?, asksForHelp_eq_isSome_last?, last?_of_perm order]

/-- In another order another value may be the first that is refused, but one is. -/
theorem exists_fault_of_perm {e : UsageError} (order : a'.lastValues.Perm a.lastValues)
    (refused : a.lastValues.findSome? Request.fault? = some e) :
    ∃ e', a'.lastValues.findSome? Request.fault? = some e' := by
  obtain ⟨v, member, fault⟩ := List.exists_of_findSome?_eq_some refused
  refine Option.isSome_iff_exists.mp (List.findSome?_isSome_iff.mpr ?_)
  exact ⟨v, order.mem_iff.mpr member, by rw [fault]; rfl⟩

end

end Arguments

namespace Invocation

open WrittenOption

section

variable {i : Invocation} {args args' : List Text} {a a' : Arguments} {ws rest : List WrittenOption}

/-- Two runs on arguments that are accepted and have the same last values, in different orders. -/
theorem run_eq_of_perm_lastValues (read : Arguments.read args = .ok a)
    (read' : Arguments.read args' = .ok a') (help : a.asksForHelp = false)
    (accepted : a.lastValues.findSome? Request.fault? = none) (alone : a.operands = [])
    (alone' : a'.operands = []) (order : a'.lastValues.Perm a.lastValues) :
    { i with args := args' }.run = { i with args }.run := by
  have accepted' : a'.lastValues.findSome? Request.fault? = none := by
    rw [List.findSome?_eq_none_iff] at accepted ⊢
    exact fun v member => accepted v (order.mem_iff.mp member)
  have records : Request.argumentRecords a' = Request.argumentRecords a := by
    rw [Request.argumentRecords, Request.argumentRecords, Arguments.last?_of_perm order]
  have help' : a'.asksForHelp = false := (Arguments.asksForHelp_of_perm order).trans help
  have asked := Request.ofArguments_of_accepted read help accepted alone
  have asked' := Request.ofArguments_of_accepted read' help' accepted' alone'
  rw [records] at asked'
  obtain ⟨same, _⟩ := Request.ofValues_perm a.nodup_lastValues order
  have level : (Request.ofValues a'.lastValues).level = (Request.ofValues a.lastValues).level := by
    rw [same]
  have logFile : (Request.ofValues a'.lastValues).logFile? =
      (Request.ofValues a.lastValues).logFile? := by
    rw [same]
  simp only [run, asked, asked', level, logFile, Request.work_perm a.nodup_lastValues order]

/-- A run on a value that is refused is one on a command line that is not understood, unless
parameters are nested too deeply. -/
theorem run_of_refused {e : UsageError} (read : Arguments.read i.args = .ok a)
    (help : a.asksForHelp = false)
    (refused : a.lastValues.findSome? Request.fault? = some e)
    (shallow : ∀ raw, a.last? (.field .defaultParams) = some raw →
      ParamMap.ofRaw? raw ≠ .error .tooDeep) :
    i.run.outcome = .usage e ∧ i.run.output = [] := by
  have ended := run_of_usage (Request.ofArguments_of_refused read help refused).1
  obtain usage | ⟨o, rfl⟩ := Outcome.ofUsageError_cases e
  · rw [ended, usage]
    exact ⟨rfl, rfl⟩
  · obtain ⟨_, raw, last, tooDeep⟩ := Request.last?_of_params_refused refused
    exact absurd tooDeep (shallow raw last)

end

/-- A command line of options, and one with the last of each of them only, in any order. Both are
read as what is written, and both are understood or neither is. If they are, the runs are the
same. -/
theorem run_lastOnes (i : Invocation) {ws rest : List WrittenOption}
    (order : rest.Perm (lastOnes ws))
    (shallow : ∀ w ∈ lastOnes ws, w.option = .field .defaultParams →
      ParamMap.ofRaw? w.value ≠ .error .tooDeep) :
    let whole := { i with args := commandLine ws }
    let short := { i with args := commandLine rest }
    Arguments.read whole.args = .ok ⟨ws.map fun w => (w.option, w.value), []⟩ ∧
      short.run.outcome.exitCode? = whole.run.outcome.exitCode? ∧
      short.run.output = whole.run.output ∧
      ((∃ e, short.run.outcome = .usage e) ↔ ∃ e, whole.run.outcome = .usage e) ∧
      ((∀ e, whole.run.outcome ≠ .usage e) → short.run = whole.run) := by
  intro whole short
  let a : Arguments := ⟨ws.map assignment, []⟩
  let a' : Arguments := ⟨rest.map assignment, []⟩
  have read : Arguments.read whole.args = .ok a := Arguments.read_commandLine ws
  have read' : Arguments.read short.args = .ok a' := Arguments.read_commandLine rest
  have sameValues : a'.lastValues.Perm a.lastValues := by
    rw [lastValues_of_perm_lastOnes order]
    exact perm_lastValues order
  have shallow : ∀ raw, a.last? (.field .defaultParams) = some raw →
      ParamMap.ofRaw? raw ≠ .error .tooDeep := by
    intro raw last
    rw [Arguments.last?, ← lookup_lastOnes,
      Entries.lookup_eq_some_iff_mem (nodup_lastOnes ws)] at last
    obtain ⟨w, member, assigned⟩ := List.mem_map.mp last
    have given := shallow w member (congrArg Prod.fst assigned)
    rwa [value, assigned] at given
  refine ⟨read, ?_⟩
  cases help : a.asksForHelp with
  | true =>
      rw [run_of_help read help, run_of_help read' ((Arguments.asksForHelp_of_perm sameValues).trans help)]
      exact ⟨rfl, rfl, Iff.rfl, fun _ => rfl⟩
  | false =>
      cases refused : a.lastValues.findSome? Request.fault? with
      | none =>
          have equal : short.run = whole.run :=
            run_eq_of_perm_lastValues read read' help refused rfl rfl sameValues
          rw [equal]
          exact ⟨rfl, rfl, Iff.rfl, fun _ => rfl⟩
      | some e =>
          obtain ⟨e', refused'⟩ := Arguments.exists_fault_of_perm sameValues refused
          have help' : a'.asksForHelp = false := (Arguments.asksForHelp_of_perm sameValues).trans help
          have shallow' : ∀ raw, a'.last? (.field .defaultParams) = some raw →
              ParamMap.ofRaw? raw ≠ .error .tooDeep := by
            rw [Arguments.last?_of_perm sameValues]
            exact shallow
          obtain ⟨here, nothing⟩ := run_of_refused read help refused shallow
          obtain ⟨there, nothing'⟩ := run_of_refused read' help' refused' shallow'
          rw [here, there, nothing, nothing']
          exact ⟨rfl, rfl, ⟨fun _ => ⟨e, rfl⟩, fun _ => ⟨e', rfl⟩⟩,
            fun understood => absurd rfl (understood e)⟩

/-- Parameters that are no JSON are given first, and a value looks like an option. -/
theorem run_lastOnes_replaced :
    let params : Text := "\x7b\"a\":1\x7d"
    let i : Invocation := { args := [], stamp := ⟨"", ""⟩ }
    let ws : List WrittenOption :=
      [.flagThenValue (.field .defaultParams) rfl "oops",
        .flagThenValue (.field .configmap) rfl "--target",
        .flagWithValue (.field .target) rfl "pod/x",
        .flagWithValue (.field .defaultParams) rfl params,
        .flagThenValue (.field .target) rfl "deployment/x",
        .flagWithValue (.field .podNamespace) rfl "n"]
    let rest : List WrittenOption :=
      [.flagWithValue (.field .podNamespace) rfl "n",
        .flagThenValue (.field .target) rfl "deployment/x",
        .flagThenValue (.field .configmap) rfl "--target",
        .flagWithValue (.field .defaultParams) rfl params]
    rest.Perm (lastOnes ws) ∧
      (∀ w ∈ lastOnes ws, w.option = .field .defaultParams →
        ParamMap.ofRaw? w.value ≠ .error .tooDeep) ∧
      { i with args := commandLine rest }.run = { i with args := commandLine ws }.run ∧
      { i with args := commandLine ws }.run.outcome.exitCode? = some 0 ∧
      { i with args := commandLine ws }.run.early = [.debug "Default params set: 1 entries"] := by
  intro params i ws rest
  have order : rest.Perm (lastOnes ws) := by decide +kernel
  have parsed : (ParamMap.ofRaw? params).toOption.isSome = true := by decide +kernel
  have only : ∀ w ∈ lastOnes ws, w.option = .field .defaultParams → w.value = params := by
    decide +kernel
  have shallow : ∀ w ∈ lastOnes ws, w.option = .field .defaultParams →
      ParamMap.ofRaw? w.value ≠ .error .tooDeep := by
    intro w member option tooDeep
    rw [only w member option] at tooDeep
    rw [tooDeep] at parsed
    cases parsed
  have ended : { i with args := commandLine ws }.run.outcome.exitCode? = some 0 := by
    decide +kernel
  obtain ⟨_, _, _, _, same⟩ := run_lastOnes i order shallow
  have equal := same (Outcome.ne_usage_of_exitCode? ended (by decide))
  exact ⟨order, shallow, equal, ended, by decide +kernel⟩

end Invocation

end Autoscaler
