import ReleaseGate.CommandLine.Program
import ReleaseGate.Proofs.HistoryFailures

/-!
# The line of a failure

A run that fails prints one line, behind what it tells of its steps: the wording of the failure and,
where there is a failure behind it, that one's wording as well (`Failure.chain`). The wording of a
broken link and of an unreadable file already ends with that of the failure behind it, so these two
are printed twice over, and only faults of the configuration and breaches of the policy are printed
once (`run_stderr_eq_iff`).
-/

namespace ReleaseGate

namespace Failure

variable {f : Failure} {w : Wording}

theorem chain_of_cause {text : String} (h : f.cause? = some text) :
    f.chain w = f.message w ++ ": " ++ text := by
  simp only [chain, h]

theorem chain_of_no_cause (h : f.cause? = none) : f.chain w = f.message w := by
  simp only [chain, h]

/-- A line of a failure behind some other text is the line of its wording alone only if there is no
such text, and no failure behind the failure. -/
theorem append_line_eq_iff (text front back : String) :
    text ++ (front ++ f.chain w ++ back) = front ++ f.message w ++ back ↔
      text = "" ∧ f.cause? = none := by
  refine ⟨fun h => ?_, fun ⟨ht, hc⟩ => by rw [ht, String.empty_append, chain_of_no_cause hc]⟩
  have hlength := congrArg String.length h
  cases hc : f.cause? with
  | none =>
    rw [chain_of_no_cause hc, String.length_append] at hlength
    exact ⟨String.length_eq_zero_iff.1 (by omega), rfl⟩
  | some cause =>
    -- the cause and the colon before it would have to be empty
    rw [chain_of_cause hc] at hlength
    simp only [String.length_append] at hlength
    have : (": " : String).length = 2 := rfl
    omega

/-- Failures that are none of version control have a failure behind them if they are about a link or
a file. -/
theorem cause?_eq_none_iff (h : f.isVersionControl = false) :
    f.cause? = none ↔ (∃ fault, f = .config fault) ∨ ∃ breach, f = .policy breach := by
  cases f with
  | config => simp [cause?]
  | linkage => simp [cause?]
  | policy => simp [cause?]
  | git => cases h
  | gitCommand => cases h
  | io => simp [cause?]

end Failure

/-- A configuration that cannot be had is a fault of the configuration. -/
theorem Config.isConfig_of_load {files : Files.View} {root : String} {path : Option String}
    {f : Failure} (h : load files root path = .error f) : ∃ fault, f = .config fault := by
  have of_readFile {path : String} (h : readFile files path = .error f) :
      ∃ fault, f = .config fault := by
    unfold readFile at h
    split at h
    · next cause _ => exact ⟨.unreadable path cause, (Except.error.inj h).symm⟩
    · split at h
      · cases h
      · exact ⟨.malformed path _, (Except.error.inj h).symm⟩
  cases path with
  | some path => exact of_readFile h
  | none =>
    simp only [load] at h
    split at h
    · exact of_readFile h
    · cases h

namespace CommandLine

theorem not_isVersionControl_of_verdict {w : World} {o : Options} {f : Failure}
    (h : verdict w o = .error f) : f.isVersionControl = false := by
  rcases bind_eq_error_iff.1 h with h | ⟨config, -, h⟩
  · obtain ⟨fault, rfl⟩ := Config.isConfig_of_load h
    rfl
  · exact not_isVersionControl_of_runGate h

/-- A run that was not cut off leaves behind its verdict, behind what it tells of its steps. -/
theorem run_of_not_isCutOff {w : World} {args : List String} {o : Options}
    (hargs : Command.ofArguments args = .run o) (hcut : isCutOff w o = false) :
    run w args = (Outcome.ofVerdict w.isColoured w.console.wording (verdict w o)).after
      (w.logged (diagnostics w o)) := by
  rw [run, hargs, runCommand, Outcome.ofOptions, hcut]
  rfl

theorem run_of_isCutOff {w : World} {args : List String} {o : Options}
    (hargs : Command.ofArguments args = .run o) (hcut : isCutOff w o = true) :
    run w args = ⟨101, "", w.logged (diagnostics w o) ++ w.console.abortText⟩ := by
  rw [run, hargs, runCommand, Outcome.ofOptions, hcut]
  rfl

theorem World.logged_of_unset {w : World} (h : w.lookup "RUST_LOG" = none)
    (steps : List Diagnostic) : w.logged steps = "" := by
  rw [logged, h]

section

variable {w : World} {args : List String} {o : Options} {f : Failure}

theorem run_of_failure (hargs : Command.ofArguments args = .run o) (hplain : w.isColoured = false)
    (hcut : isCutOff w o = false) (hf : verdict w o = .error f) :
    run w args = ⟨1, "", w.logged (diagnostics w o) ++
      ("[release-readiness] ERROR: " ++ f.chain w.console.wording ++ "\n")⟩ := by
  have mark : lineMark ++ " ERROR: " = "[release-readiness] ERROR: " := by decide
  rw [run_of_not_isCutOff hargs hcut, hf, hplain, Outcome.ofVerdict, Line.print, Line.text, mark]
  rfl

/-- Only a failure makes a run exit with one. -/
theorem exists_failure_of_code (hargs : Command.ofArguments args = .run o)
    (hcode : (run w args).code = 1) :
    isCutOff w o = false ∧ ∃ f, verdict w o = .error f := by
  cases hcut : isCutOff w o with
  | true =>
    rw [run_of_isCutOff hargs hcut] at hcode
    cases hcode
  | false =>
    refine ⟨rfl, ?_⟩
    cases hv : verdict w o with
    | ok r =>
      rw [run_of_not_isCutOff hargs hcut, hv] at hcode
      cases hcode
    | error f => exact ⟨f, rfl⟩

/-- **The line of a failure.** A run that exits with one prints nothing but what it tells of its steps
and the line of its failure. This is the failure's wording, once, exactly if nothing is told and the
configuration is at fault or the policy is broken; of a broken link and of an unreadable file the
wording is said again behind it. -/
theorem run_stderr_eq_iff (hargs : Command.ofArguments args = .run o)
    (hplain : w.isColoured = false) (hcode : (run w args).code = 1) :
    ∃ f, verdict w o = .error f ∧ (run w args).stdout = "" ∧
      ((run w args).stderr = "[release-readiness] ERROR: " ++ f.message w.console.wording ++ "\n" ↔
        w.logged (diagnostics w o) = "" ∧
          ((∃ fault, f = .config fault) ∨ ∃ breach, f = .policy breach)) ∧
      (∀ violation, f = .linkage violation →
        (run w args).stderr = w.logged (diagnostics w o) ++ ("[release-readiness] ERROR: " ++
          f.message w.console.wording ++ ": " ++ violation.message ++ "\n")) ∧
      ∀ cause, f = .io cause →
        (run w args).stderr = w.logged (diagnostics w o) ++ ("[release-readiness] ERROR: " ++
          f.message w.console.wording ++ ": " ++ cause.message ++ "\n") := by
  obtain ⟨hcut, f, hf⟩ := exists_failure_of_code hargs hcode
  refine ⟨f, hf, ?_⟩
  rw [run_of_failure hargs hplain hcut hf]
  refine ⟨rfl, ?_, ?_, ?_⟩
  · rw [← Failure.cause?_eq_none_iff (not_isVersionControl_of_verdict hf)]
    exact Failure.append_line_eq_iff _ _ _
  · rintro violation rfl
    rw [Failure.chain_of_cause rfl]
    simp only [String.append_assoc]
  · rintro cause rfl
    rw [Failure.chain_of_cause rfl]
    simp only [String.append_assoc]

end

/-- A directory with a manifest and no changelog. -/
def noChangelog : World where
  directory := "/"
  lookup _ := none
  files := Files.Tree.view ⟨[History.asciiFile "Cargo.toml" "version = \"1.0.0\"\n"]⟩ []
  openRepository _ _ := Change.Script.empty.repository

theorem verdict_noChangelog :
    verdict noChangelog .none = .error (.linkage (.missingFile "CHANGELOG.md")) := by
  decide +kernel

/-- The line about a missing changelog is not its wording alone. -/
theorem run_stderr_ne_noChangelog :
    (run noChangelog []).code = 1 ∧
      (run noChangelog []).stderr ≠ "[release-readiness] ERROR: Linkage error: " ++
        "missing required file: `CHANGELOG.md`\n" := by
  have hcode : (run noChangelog []).code = 1 := by decide +kernel
  obtain ⟨f, hf, -, h, -, -⟩ :=
    run_stderr_eq_iff (show Command.ofArguments [] = .run .none from rfl)
      (show noChangelog.isColoured = false from rfl) hcode
  cases verdict_noChangelog.symm.trans hf
  refine ⟨hcode, fun e => ?_⟩
  rcases (h.1 e).2 with ⟨fault, e⟩ | ⟨breach, e⟩ <;> cases e

/-- The line about a missing changelog says twice what is missing. -/
theorem run_stderr_noChangelog :
    (run noChangelog []).stderr = "[release-readiness] ERROR: Linkage error: " ++
      "missing required file: `CHANGELOG.md`: missing required file: `CHANGELOG.md`\n" := by
  decide +kernel

end CommandLine

end ReleaseGate
