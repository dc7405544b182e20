import ReleaseGate.CommandLine.Workspace
import ReleaseGate.Proofs.FailureLine
import ReleaseGate.Proofs.Headings

/-!
# The outcome of a run

What a run leaves behind tells its verdict: the exit code whether the gate gave a report, the one
line on the output stream which release it is about, and the error stream what kept the gate from
looking at history, behind what the run tells of its steps where it is asked to
(`run_tells_verdict`). That the line about the release is one line is no fact about versions, which
may run over line ends: a tag has to stand in a line of the changelog before the gate passes it
(`lf_not_mem_of_hasReleaseHeading`). A run that is cut off tells no verdict; in a workspace only a path
with the character NUL can do that (`exists_nul_of_isCutOff`).
-/

namespace ReleaseGate

namespace Text

theorem lf_not_mem_of_mem_segments {s l : List Char} (h : l ∈ segments s) : '\n' ∉ l := by
  induction s generalizing l with
  | nil => simp_all
  | cons c s ih =>
    unfold segments at h
    split at h
    · rcases List.mem_cons.1 h with rfl | h
      · exact List.not_mem_nil
      · exact ih h
    · next hc =>
      have hc : '\n' ≠ c := Ne.symm hc
      split at h
      · simp_all
      · next m ms hs =>
        have hm : '\n' ∉ m := ih (hs ▸ List.mem_cons_self)
        rcases List.mem_cons.1 h with rfl | h
        · simp [hc, hm]
        · exact ih (hs ▸ List.mem_cons_of_mem _ h)

theorem dropCr_subset (l : List Char) : dropCr l ⊆ l := by
  fun_induction dropCr l with
  | case1 => exact List.Subset.refl _
  | case2 => exact List.nil_subset _
  | case3 => exact List.Subset.refl _
  | case4 c d s ih => exact List.cons_subset_cons _ ih

/-- The lines given the pieces are among these, a carriage return at their ends apart. -/
theorem exists_subset_of_mem_linesOfSegments {ls : List (List Char)} {l : List Char}
    (h : l ∈ linesOfSegments ls) : ∃ m ∈ ls, l ⊆ m := by
  fun_induction linesOfSegments ls with
  | case1 => cases h
  | case2 => cases h
  | case3 last => exact ⟨last, List.mem_cons_self, List.mem_singleton.1 h ▸ List.Subset.refl _⟩
  | case4 m k ms ih =>
    rcases List.mem_cons.1 h with rfl | h
    · exact ⟨m, List.mem_cons_self, dropCr_subset m⟩
    · obtain ⟨n, hn, hs⟩ := ih h
      exact ⟨n, List.mem_cons_of_mem _ hn, hs⟩

theorem lf_not_mem_of_mem_lines {s l : List Char} (h : l ∈ lines s) : '\n' ∉ l := by
  obtain ⟨m, hm, hs⟩ := exists_subset_of_mem_linesOfSegments h
  exact fun hl => lf_not_mem_of_mem_segments hm (hs hl)

end Text

/-- **A tag that has a heading is written on one line.** -/
theorem Release.lf_not_mem_of_hasReleaseHeading {tag changelog : List Char}
    (h : hasReleaseHeading tag changelog = true) : '\n' ∉ tag := by
  obtain ⟨line, hline, hheading⟩ := List.any_eq_true.1 h
  obtain ⟨indent, hashes, rest, rfl, -⟩ := isHeading_iff.1 hheading
  intro hlf
  apply Text.lf_not_mem_of_mem_lines hline
  simp [hlf]

/-- A version need not: it runs to the next double quote. -/
theorem Release.declaredVersion?_twoLines :
    declaredVersion? "version = \"1\n2\"".toList = some "1\n2".toList := by decide

section

variable {files : Files.View} {root : String} {config : Config} {env : Change.Environment}
  {repo : Change.Repository} {d : Change.Detector} {a : Release.Artifacts} {schema : SchemaOutcome}
  {notices : List Notice}

/-- A schema check gives a notice exactly if it did not run, and then one. -/
theorem SchemaCheck.length_notices (h : SchemaCheck files config env repo d a schema notices) :
    notices.length = if schema = .skipped then 1 else 0 := by
  cases h <;> simp

/-- The tag of a report is written on one line. -/
theorem lf_not_mem_tag_of_runGate {r : Report} (h : runGate files root config env repo = .ok r) :
    '\n' ∉ r.tag.name.toList := by
  obtain ⟨-, release, -⟩ := runGate_eq_ok_iff.1 h
  obtain ⟨text, -, heading⟩ := release.heading
  exact Release.lf_not_mem_of_hasReleaseHeading heading

end

namespace CommandLine

/-- A run gives a report: the configuration can be loaded, and the gate, through the backend that
the configuration names, passes the release. -/
def World.Reports (w : World) (o : Options) (r : Report) : Prop :=
  ∃ config, Config.load w.files (w.root o) o.config = .ok config ∧
    runGate w.files (w.root o) config (.ofLookup w.lookup)
      (w.openRepository config.backend (w.root o)) = .ok r

variable {w : World} {o : Options} {args : List String}

theorem verdict_eq_ok_iff {r : Report} : verdict w o = .ok r ↔ w.Reports o r := by
  simp only [verdict, bind_eq_ok_iff, World.Reports]

theorem World.Reports.lf_not_mem_tag {r : Report} (h : w.Reports o r) : '\n' ∉ r.tag.name.toList := by
  obtain ⟨config, -, hgate⟩ := h
  exact lf_not_mem_tag_of_runGate hgate

theorem World.Reports.length_notices {r : Report} (h : w.Reports o r) :
    r.notices.length = if r.schema = .skipped then 1 else 0 := by
  obtain ⟨config, -, hgate⟩ := h
  exact (runGate_eq_ok_iff.1 hgate).2.2.length_notices

theorem run_of_reports {r : Report} (hargs : Command.ofArguments args = .run o)
    (hplain : w.isColoured = false) (hcut : isCutOff w o = false) (h : w.Reports o r) :
    run w args =
      ⟨0, "[release-readiness] OK (version " ++ r.tag.name ++ ")\n", w.logged (diagnostics w o) ++
        String.join (r.notices.map fun n => "[release-readiness] INFO: " ++ n.text ++ "\n")⟩ := by
  have success : lineMark ++ " OK (version " = "[release-readiness] OK (version " := by decide
  have info : lineMark ++ " INFO: " = "[release-readiness] INFO: " := by decide
  have close : (")" : String) ++ "\n" = ")\n" := by decide
  rw [run_of_not_isCutOff hargs hcut, verdict_eq_ok_iff.2 h, hplain]
  simp only [Outcome.ofVerdict, Outcome.after, Line.ofNotice, Line.print, Line.text, success, info,
    Bool.false_eq_true, if_false]
  rw [String.append_assoc, close]

/-- **Exit code and output tell the verdict** of a run that is not cut off. It exits with zero exactly
if it gives a report, and with one otherwise. Where it does, the output stream is the one line about
the tag, which holds no line feed, though a declared version may; the error stream is, behind what
the run tells of its steps, a line for each notice, of which there is one exactly if the schema check
did not run. Otherwise the output stream is empty. Nothing is told unless a variable asks for it. -/
theorem run_tells_verdict (hargs : Command.ofArguments args = .run o)
    (hplain : w.isColoured = false) (hcut : isCutOff w o = false) :
    ((run w args).code = 0 ↔ ∃ r, w.Reports o r) ∧
    ((run w args).code = 1 ↔ ¬∃ r, w.Reports o r) ∧
    (∀ r, w.Reports o r →
      (run w args).stdout = "[release-readiness] OK (version " ++ r.tag.name ++ ")\n" ∧
      '\n' ∉ r.tag.name.toList ∧
      (run w args).stderr = w.logged (diagnostics w o) ++
        String.join (r.notices.map fun n => "[release-readiness] INFO: " ++ n.text ++ "\n") ∧
      r.notices.length ≤ 1 ∧
      (r.schema ≠ .skipped → (run w args).stderr = w.logged (diagnostics w o))) ∧
    ((run w args).code = 1 → (run w args).stdout = "") ∧
    (w.lookup "RUST_LOG" = none → w.logged (diagnostics w o) = "") ∧
    ∃ manifest version, Release.declaredVersion? manifest = some version ∧ '\n' ∈ version := by
  have reported {r : Report} (h : w.Reports o r) := run_of_reports hargs hplain hcut h
  have failed (h : ¬∃ r, w.Reports o r) : (run w args).code = 1 ∧ (run w args).stdout = "" := by
    cases hv : verdict w o with
    | ok r => exact absurd ⟨r, verdict_eq_ok_iff.1 hv⟩ h
    | error f => simp [run_of_failure hargs hplain hcut hv]
  refine ⟨?_, ?_, fun r h => ?_, fun hc => ?_, fun h => World.logged_of_unset h _, _, _,
    Release.declaredVersion?_twoLines, by decide⟩
  · constructor
    · intro hc
      by_contra hn
      rw [(failed hn).1] at hc
      cases hc
    · rintro ⟨r, h⟩
      rw [reported h]
  · constructor
    · rintro hc ⟨r, h⟩
      rw [reported h] at hc
      cases hc
    · exact fun hn => (failed hn).1
  · have hlength := h.length_notices
    rw [reported h]
    refine ⟨rfl, h.lf_not_mem_tag, rfl, ?_, fun hran => ?_⟩
    · rw [hlength]
      split <;> decide
    · rw [if_neg hran, List.length_eq_zero_iff] at hlength
      rw [hlength]
      exact String.append_empty
  · by_cases h : ∃ r, w.Reports o r
    · obtain ⟨r, h⟩ := h
      rw [reported h] at hc
      cases hc
    · exact (failed h).2

/-- A release outside of any history. -/
def noHistory : World where
  directory := "/"
  lookup _ := none
  files := History.renamedFile.tree.view []
  openRepository _ _ := Change.Script.empty.repository

theorem reports_noHistory : noHistory.Reports .none ⟨"1.0.0", .skipped, [.noChangeRange]⟩ :=
  verdict_eq_ok_iff.1 (by decide +kernel)

theorem not_isCutOff_noHistory : isCutOff noHistory .none = false := by decide +kernel

/-- The release is confirmed on one stream, and the other one says that no history was found. -/
theorem run_tells_verdict_noHistory :
    (run noHistory []).code = 0 ∧
      (run noHistory []).stdout = "[release-readiness] OK (version v1.0.0)\n" ∧
      (run noHistory []).stderr = "[release-readiness] INFO: no diff range available; " ++
        "skipping schema-change gate\n" := by
  obtain ⟨code, -, output, -, quiet, -⟩ :=
    run_tells_verdict (show Command.ofArguments [] = .run .none from rfl)
      (show noHistory.isColoured = false from rfl) not_isCutOff_noHistory
  obtain ⟨hout, -, herr, -⟩ := output _ reports_noHistory
  rw [quiet rfl] at herr
  exact ⟨code.2 ⟨_, reports_noHistory⟩, hout, herr.trans (by decide)⟩

/-! ### Runs that tell more or nothing -/

/-- The release outside of any history, with a filter that is refused. -/
def refusedFilter : World :=
  { noHistory with
    lookup := fun name => if name = "RUST_LOG" then some "!cannot resolve 'x': y" else none }

/-- A release whose paths hold the character NUL, with a history that is reached by the library. -/
def nulPath : World :=
  .ofWorkspace
    { History.renamedFile with
      tree := ⟨History.asciiFile "release-readiness.toml"
        "[schema]\ndiff_paths = [\"\\u0000\"]\n[git]\nbackend = \"libgit2\"\n" ::
          History.renamedFile.tree.entries⟩ }
    fun _ => none

/-- A filter adds a line to the error stream of a run, and a path with NUL cuts it off. -/
theorem run_refusedFilter_nulPath :
    refusedFilter.Reports .none ⟨"1.0.0", .skipped, [.noChangeRange]⟩ ∧
      (run refusedFilter []).stderr =
        "ignoring `!cannot resolve 'x': y`: invalid filter directive\n" ++
          "[release-readiness] INFO: no diff range available; skipping schema-change gate\n" ∧
      (run nulPath []).code = 101 := by
  refine ⟨verdict_eq_ok_iff.1 (by decide +kernel), by decide +kernel, by decide +kernel⟩

/-! ### Runs that are cut off -/

/-- **Only a path with the character NUL cuts a run in a workspace off**, and only through the library. -/
theorem exists_nul_of_isCutOff {ws : History.Workspace} {lookup : String → Option String}
    {console : Console} (h : isCutOff (.ofWorkspace ws lookup console) o = true) :
    ∃ config, Config.load (ws.tree.view ws.cwd)
        ((World.ofWorkspace ws lookup console).root o) o.config = .ok config ∧
      config.backend = .library ∧ config.schema.diffPaths.any Files.hasNul = true := by
  unfold isCutOff at h
  split at h
  rotate_left
  · cases h
  next config hload =>
    refine ⟨config, hload, ?_⟩
    unfold gateAborts at h
    split at h
    rotate_left
    · cases h
    simp only [World.ofWorkspace, History.openRepository] at h
    cases hbackend : config.backend with
    | system =>
      rw [hbackend] at h
      cases h
    | library =>
      refine ⟨rfl, ?_⟩
      rw [hbackend] at h
      simp only at h
      split at h
      · exact (Bool.and_eq_true _ _ ▸ h : _ ∧ _).2
      · cases h

end CommandLine

end ReleaseGate
