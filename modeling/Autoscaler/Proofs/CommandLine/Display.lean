import Autoscaler.Proofs.CommandLine.Run
import Autoscaler.Proofs.Summary

/-!
# Runs on settings that are in order

When settings are resolved and there is nothing wrong with them, all that is left of a run is to
show them. It is broken off if one of their integers cannot be written, or if their summary has
surrogates and the screen is one of UTF-8. Otherwise it ends with the exit code 0
(`Invocation.run_displays`).
-/

namespace Autoscaler

open Json.Grammar

namespace Work

variable {s : Settings} {screen : Screen}

theorem after_after (before between : List Record) (w : Work) :
    after before (after between w) = after (before ++ between) w := by
  rw [after, after, after, List.append_assoc]

theorem onChecked_of_printed {t : Text} (printed : Summary.printed s screen = .ok t) :
    onChecked s screen = ⟨[lastRecord s], t, .exit 0⟩ := by
  rw [onChecked, printed]

theorem onChecked_of_error {e : DisplayError} (failed : Summary.printed s screen = .error e) :
    onChecked s screen = broken [] (.display e) := by
  rw [onChecked, failed]

end Work

namespace Invocation

variable {i : Invocation} {r : Request} {s : Settings}

theorem work_of_useful (settings : r.printVersion = false) (given : i.resolved r = .ok s)
    (useful : s.normalize.violations = []) :
    ∃ records, i.work r = .after records (.onChecked s.normalize i.screen) := by
  have work_eq : i.work r = _ := Request.work_eq settings rfl
  rw [← resolved, given] at work_eq
  simp only [Work.onResolved_of_useful useful] at work_eq
  exact ⟨_, work_eq.trans (Work.after_after _ _ _)⟩

/-- Settings that are resolved and without violations, on any screen. If one of their integers has
too many digits to be written, the run is broken off when it is to be shown. Otherwise they have a
summary, which has no surrogate if no value in it has one. If the screen takes the summary, the run
prints it and ends with the exit code 0. If it does not, the run prints nothing and is broken off for
the first surrogates in the summary. -/
theorem run_displays (asked : (Request.ofArguments i.args).result = .ok r)
    (settings : r.printVersion = false) (configured : i.Configures r)
    (given : i.resolved r = .ok s) (useful : s.normalize.violations = []) :
    (s.isWritable = false → i.run.outcome = .crash (.display .tooManyDigits)) ∧
    (s.isWritable = true → ∃ t, Summary.text s.normalize i.screen.width = .ok t ∧
      ((∀ f ∈ Summary.fields, NoSurrogate (s.normalize.get f).plain) → NoSurrogate t) ∧
      (i.screen.Takes t → i.run.outcome = .exit 0 ∧ i.run.output = t) ∧
      (¬ i.screen.Takes t → ∃ stretch, Utf8.surrogateStretch? t = some stretch ∧
        i.run.outcome = .crash (.display (.encoding stretch)) ∧ i.run.output = [])) := by
  obtain ⟨outcome, output⟩ := run_of_configures asked configured
  obtain ⟨records, work_eq⟩ := work_of_useful settings given useful
  rw [outcome, output, work_eq]
  constructor
  · intro long
    have same : s.normalize.isWritable = false := long
    rw [Work.onChecked_of_error (Summary.printed_of_long same i.screen)]
    rfl
  · intro writable
    have same : s.normalize.isWritable = true := writable
    obtain ⟨t, drawn, scalar⟩ := Summary.exists_text same i.screen.width
    refine ⟨t, drawn, scalar, fun takes => ?_, fun refused => ?_⟩
    · rw [Work.onChecked_of_printed (Summary.printed_eq_ok_iff.mpr ⟨drawn, takes⟩)]
      exact ⟨rfl, rfl⟩
    · obtain ⟨stretch, found, failed⟩ := Summary.exists_printed_of_not_takes drawn refused
      rw [Work.onChecked_of_error failed]
      exact ⟨stretch, found, rfl, rfl⟩

/-- An integer in base sixteen, which may have any number of digits in a file, and a target with a
surrogate that stands alone. -/
theorem run_displays_broken :
    let file : List UInt8 := ("max-sync-failures: 0x".toList.map fun c => c.toNat.toUInt8) ++
      List.replicate 3572 102
    let long : Invocation :=
      { args := ["--target", "deployment/x", "--configmap", "c", "--namespace", "n",
          "--config", "c.yaml"]
        files := [([("c.yaml" : Text)], .file file)]
        stamp := ⟨"", ""⟩ }
    let lone : Invocation :=
      { args := ["--target", ("deployment/" : Text) ++ [⟨0xd800, by decide⟩], "--configmap", "c",
          "--namespace", "n"]
        stamp := ⟨"", ""⟩ }
    (∃ r s, (Request.ofArguments long.args).result = .ok r ∧ r.printVersion = false ∧
      long.Configures r ∧ long.resolved r = .ok s ∧ s.normalize.violations = [] ∧
      s.isWritable = false ∧ long.run.outcome = .crash (.display .tooManyDigits)) ∧
    ∃ r s stretch, (Request.ofArguments lone.args).result = .ok r ∧ r.printVersion = false ∧
      lone.Configures r ∧ lone.resolved r = .ok s ∧ s.normalize.violations = [] ∧
      s.isWritable = true ∧ lone.run.outcome = .crash (.display (.encoding stretch)) ∧
      lone.run.output = [] := by
  intro file long lone
  constructor
  · have facts : ((Request.ofArguments long.args).result.toOption.bind fun r =>
        (long.resolved r).toOption.map fun s =>
          (r.printVersion, r.logFile?, s.normalize.violations, s.isWritable)) =
        some (false, none, [], false) := by
      decide +kernel
    obtain ⟨r, asked, facts⟩ := Option.bind_eq_some_iff.mp facts
    obtain ⟨s, given, facts⟩ := Option.map_eq_some_iff.mp facts
    have asked := toOption_eq_some_iff.mp asked
    have given := toOption_eq_some_iff.mp given
    simp only [Prod.mk.injEq] at facts
    obtain ⟨settings, console, useful, digits⟩ := facts
    have configured := (configures_of_logFile? (i := long) console).1
    exact ⟨r, s, asked, settings, configured, given, useful, digits,
      (run_displays asked settings configured given useful).1 digits⟩
  · have facts : ((Request.ofArguments lone.args).result.toOption.bind fun r =>
        (lone.resolved r).toOption.bind fun s =>
          (Summary.text s.normalize lone.screen.width).toOption.map fun t =>
            (r.printVersion, r.logFile?, s.normalize.violations, s.isWritable,
              (Utf8.surrogateStretch? t).isNone)) =
        some (false, none, [], true, false) := by
      decide +kernel
    obtain ⟨r, asked, facts⟩ := Option.bind_eq_some_iff.mp facts
    obtain ⟨s, given, facts⟩ := Option.bind_eq_some_iff.mp facts
    obtain ⟨t, drawn, facts⟩ := Option.map_eq_some_iff.mp facts
    have asked := toOption_eq_some_iff.mp asked
    have given := toOption_eq_some_iff.mp given
    simp only [Prod.mk.injEq] at facts
    obtain ⟨settings, console, useful, writable, surrogate⟩ := facts
    have configured := (configures_of_logFile? (i := lone) console).1
    obtain ⟨t', drawn', _, _, broken⟩ :=
      (run_displays asked settings configured given useful).2 writable
    obtain rfl : t' = t := Except.ok.inj (drawn'.symm.trans (toOption_eq_some_iff.mp drawn))
    have refused : ¬ lone.screen.Takes t' := by
      rintro (memory | scalar)
      · cases memory
      · rw [Utf8.surrogateStretch?_eq_none_iff.mpr scalar] at surrogate
        cases surrogate
    obtain ⟨stretch, _, outcome, output⟩ := broken refused
    exact ⟨r, s, stretch, asked, settings, configured, given, useful, writable, outcome, output⟩

end Invocation

end Autoscaler
