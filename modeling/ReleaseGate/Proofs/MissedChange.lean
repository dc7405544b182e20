import ReleaseGate.Proofs.Backends
import ReleaseGate.Proofs.PathSelection

/-!
# Missed schema changes

Where the lines of a selected file that bear a marker differ between the two ends of a range, the
library's diff sets the detector off, and the gate asks for Schema Notes (`exists_signal_of_selected`).
The edit script of the file may be any one between its two contents: if it changed no line with a
marker, these lines would be the same on both sides.

So what is missed is a matter of selection. The library reads names of files and directories as
patterns, and passes over what it takes for a comment: no change is missed under some names exactly if
every file that one of them covers is selected (`missesNoChange_iff`). Names that it reads as they are
have this property, and a name with a `#` in front has not (`runGate_hashedName`).
-/

namespace ReleaseGate.History

open Text (Bytes)
open Text.Utf8 (decodeLossy)

/-! ### Lines that bear markers -/

/-- A line of a content as text: decoded with loss, without a carriage return at its end. -/
def lineText (line : Bytes) : List Char := Text.dropCr (decodeLossy (lineContent line))

/-- The lines of a file that bear a marker, in order. A file that is not there has no lines. -/
def markedLines (d : Change.Detector) (content : Option Bytes) : List (List Char) :=
  ((contentLines (content.getD [])).map lineText).filter d.isMarker

variable {d : Change.Detector}

/-- Where the lines that bear a marker differ, every script between the contents changes one. -/
theorem exists_isChanged_of_markedLines_ne {es : List (Edit Bytes)} {old new : Option Bytes}
    (hs : source es = contentLines (old.getD [])) (ht : target es = contentLines (new.getD []))
    (h : markedLines d old ≠ markedLines d new) :
    ∃ line, IsChanged es line ∧ bearsMarker d line = true := by
  by_contra hn
  have unmarked : ∀ line, IsChanged es line → bearsMarker d line = false := fun line hc =>
    Bool.eq_false_iff.2 fun hb => hn ⟨line, hc, hb⟩
  have same := filter_source_eq_filter_target (bearsMarker d) unmarked
  rw [hs, ht] at same
  have marked (ls : List Bytes) :
      (ls.map lineText).filter d.isMarker = (ls.filter (bearsMarker d)).map lineText :=
    List.filter_map
  exact h (by rw [markedLines, markedLines, marked, marked, same])

theorem source_script_library (settings : Settings) (old new : Bytes) :
    source ((Style.library settings).script old new) = contentLines old :=
  source_scriptOf _ _ _

theorem target_script_library (settings : Settings) (old new : Bytes) :
    target ((Style.library settings).script old new) = contentLines new :=
  target_scriptOf _ _ _

/-- A change of a path is shown by the contents there; one that is missing is shown as empty. -/
theorem contents?_of_changeAt? {base head : Snapshot} {path : String} {change : FileChange}
    (h : changeAt? base head path = some change) :
    change.contents? = some ((base.content? path).getD [], (head.content? path).getD []) := by
  unfold changeAt? at h
  split at h
  · cases h
  · next hb hh => cases h; simp [FileChange.contents?, hb, hh]
  · next hb hh => cases h; simp [FileChange.contents?, hb, hh]
  · next hb hh =>
    split at h
    · cases h
    · cases h
      simp [FileChange.contents?, hb, hh]

theorem isBinary_of_not_mem {content : Bytes} (h : 0 ∉ content) : isBinary content = false := by
  rw [isBinary, Bool.eq_false_iff, Ne, List.contains_iff_mem]
  exact fun hm => h (List.mem_of_mem_take hm)

/-- The library shows a marker for a selected text file whose lines that bear one differ. -/
theorem exists_showsMarker {settings : Settings} {base head : Snapshot} {paths : List String}
    {path : String} (hs : filterSelection paths path = true)
    (hb : 0 ∉ (base.content? path).getD []) (hh : 0 ∉ (head.content? path).getD [])
    (hne : markedLines d (base.content? path) ≠ markedLines d (head.content? path)) :
    ∃ change ∈ libraryChanges paths base head, ShowsMarker d (Style.library settings) change := by
  obtain ⟨change, hc⟩ := exists_changeAt? fun e => hne (congrArg (markedLines d) e)
  refine ⟨change, (mem_changes_iff _ _ _).2 ⟨path, ?_⟩, ?_⟩
  · rw [changeAt?_restrict, if_pos hs, hc]
  · obtain ⟨line, hl, hm⟩ := exists_isChanged_of_markedLines_ne
      (source_script_library settings _ _) (target_script_library settings _ _) hne
    exact ⟨_, _, contents?_of_changeAt? hc, isBinary_of_not_mem hb, isBinary_of_not_mem hh, line,
      hl, hm⟩

/-! ### The gate -/

/-- The content of the file at a path in the commit that a revision stands for. -/
def Branch.contentAt? (b : Branch) (rev path : String) : Option Bytes :=
  (b.snapshot? rev).bind fun s => s.content? path

/-- **A change of marked lines in a selected file** sets the detector off, and the gate, if it passes
the release, has found Schema Notes. -/
theorem exists_signal_of_selected {w : Workspace} {root : String} {c : Checkout}
    (hfound : w.discover? root = some c) {config : Config}
    (hvalid : Change.Detector.ofPatterns config.schema.extraPatterns = .ok d)
    {env : Change.Environment} {range : Change.Range}
    (hrange : Change.resolve? env (openRepository .library w root) = some range) {path : String}
    (hselected : filterSelection config.schema.diffPaths path = true)
    (hbase : 0 ∉ (c.branch.contentAt? range.base path).getD [])
    (hhead : 0 ∉ (c.branch.contentAt? range.head path).getD [])
    (hne : markedLines d (c.branch.contentAt? range.base path) ≠
      markedLines d (c.branch.contentAt? range.head path)) :
    ∃ text, (openRepository .library w root).diff range config.schema.diffPaths = .ok text ∧
      (d.firstSignal? text.toList).isSome ∧
      ∀ files r, runGate files root config env (openRepository .library w root) = .ok r →
        ∃ notes, r.schema = .documented range notes := by
  rw [openRepository_library hfound] at hrange ⊢
  obtain ⟨base, head, hb, hh⟩ := exists_snapshots_of_library hrange
  have content {rev : String} {s : Snapshot} (h : c.branch.snapshot? rev = some s) :
      c.branch.contentAt? rev path = s.content? path := by simp [Branch.contentAt?, h]
  rw [content hb] at hbase hne
  rw [content hh] at hhead hne
  obtain ⟨text, hdiff, haffected⟩ := exists_diff_library hb hh config.schema.diffPaths d
  have hsignal := haffected.2 (exists_showsMarker hselected hbase hhead hne)
  refine ⟨text, hdiff, hsignal, fun files r hr => ?_⟩
  obtain ⟨-, -, hs⟩ := runGate_eq_ok_iff.1 hr
  obtain ⟨-, rfl⟩ := Change.Detector.ofPatterns_eq_ok_iff.1 hvalid
  exact hs.exists_documented hrange hdiff hsignal

/-- Under some names of files and directories, no schema change is missed: whatever the history and
the range are, where the marked lines differ in a file that a name covers, the library gives a diff,
it sets the detector off, and the gate passes the release only with Schema Notes. -/
def MissesNoChange (paths : List String) : Prop :=
  ∀ (w : Workspace) (root : String) (c : Checkout) (config : Config) (d : Change.Detector)
    (env : Change.Environment) (range : Change.Range) (name path : String),
    w.discover? root = some c → config.schema.diffPaths = paths →
    Change.Detector.ofPatterns config.schema.extraPatterns = .ok d →
    Change.resolve? env (openRepository .library w root) = some range →
    name ∈ paths → Covers name path →
    0 ∉ (c.branch.contentAt? range.base path).getD [] →
    0 ∉ (c.branch.contentAt? range.head path).getD [] →
    markedLines d (c.branch.contentAt? range.base path) ≠
      markedLines d (c.branch.contentAt? range.head path) →
    (openRepository .library w root).aborts range paths = false ∧
      ∃ text, (openRepository .library w root).diff range paths = .ok text ∧
        (d.firstSignal? text.toList).isSome ∧
        ∀ files r, runGate files root config env (openRepository .library w root) = .ok r →
          ∃ notes, r.schema = .documented range notes

/-- Names without the character NUL do not cut the library off. -/
theorem aborts_library {c : Checkout} {paths : List String}
    (hnul : ∀ q ∈ paths, Files.hasNul q = false) (range : Change.Range) :
    (libraryRepository c).aborts range paths = false := by
  show (_ && paths.any Files.hasNul) = false
  rw [any_hasNul_eq_false_iff.2 hnul, Bool.and_false]

theorem missesNoChange_of_selected {paths : List String}
    (hnul : ∀ q ∈ paths, Files.hasNul q = false)
    (hselected : ∀ name ∈ paths, ∀ file, Covers name file → filterSelection paths file = true) :
    MissesNoChange paths := by
  rintro w root c config d env range name path hfound rfl hvalid hrange hname hcovers hbase hhead hne
  refine ⟨?_, exists_signal_of_selected hfound hvalid hrange (hselected name hname path hcovers)
    hbase hhead hne⟩
  rw [openRepository_library hfound]
  exact aborts_library hnul range

/-! ### A file with a marker is added -/

/-- A history whose last commit adds a file that declares a schema. -/
def addedHistory (path : String) : Checkout where
  top := []
  branch := ⟨[⟨"1", ⟨[]⟩⟩, ⟨"2", ⟨[(path, schemaFile)]⟩⟩], []⟩
  settings := .default

/-- A release with that history. -/
def addedFile (path : String) : Workspace :=
  { renamedFile with checkout := some (addedHistory path) }

/-- The settings of a run that limits the library's diff to some paths. -/
def libraryConfig (paths : List String) : Config :=
  { Config.default with
    schema := { SchemaSettings.default with diffPaths := paths }
    backend := .library }

section

variable (path : String)

theorem discover?_addedFile : (addedFile path).discover? "." = some (addedHistory path) := rfl

theorem resolve?_addedFile :
    Change.resolve? noPipeline (openRepository .library (addedFile path) ".") = some lastCommit :=
  rfl

theorem contentAt?_addedHistory :
    (addedHistory path).branch.contentAt? lastCommit.base path = none ∧
      (addedHistory path).branch.contentAt? lastCommit.head path = some schemaFile := by
  refine ⟨rfl, ?_⟩
  show List.lookup path [(path, schemaFile)] = some schemaFile
  simp

/-- What a rule without exception says of the added file. -/
theorem exists_signal_addedFile {paths : List String} (h : MissesNoChange paths) {name : String}
    (hname : name ∈ paths) (hcovers : Covers name path) :
    (openRepository .library (addedFile path) ".").aborts lastCommit paths = false ∧
      ∃ text, (openRepository .library (addedFile path) ".").diff lastCommit paths = .ok text ∧
        Change.Detector.isAffected ⟨[]⟩ text.toList = true := by
  obtain ⟨hbase, hhead⟩ := contentAt?_addedHistory path
  obtain ⟨aborts, text, hdiff, hsignal, -⟩ := h (addedFile path) "." (addedHistory path)
    (libraryConfig paths) ⟨[]⟩ noPipeline lastCommit name path (discover?_addedFile path) rfl rfl
    (resolve?_addedFile path) hname hcovers (by rw [hbase]; exact List.not_mem_nil)
    (by rw [hhead]; decide) (by rw [hbase, hhead]; decide +kernel)
  exact ⟨aborts, text, hdiff, hsignal⟩

/-- A file that is not selected leaves nothing to see. -/
theorem libraryChanges_addedFile {paths : List String} (h : filterSelection paths path = false) :
    libraryChanges paths ⟨[]⟩ ⟨[(path, schemaFile)]⟩ = [] := by
  rw [libraryChanges, List.eq_nil_iff_forall_not_mem]
  intro change hc
  obtain ⟨q, hq⟩ := (mem_changes_iff _ _ change).1 hc
  rw [changeAt?_restrict] at hq
  split at hq
  · next hsel =>
    have hne : ¬(q == path) = true := by
      rw [beq_iff_eq]
      rintro rfl
      rw [h] at hsel
      cases hsel
    simp [changeAt?, Snapshot.content?, List.lookup_cons, hne] at hq
  · cases hq

end

/-- **What is missed is what is not selected.** Under some names, no schema change is missed by the
library exactly if none of them holds the character NUL and each file that one of them covers is
selected; so none is missed under names that are read as they are. -/
theorem missesNoChange_iff (paths : List String) :
    (MissesNoChange paths ↔
      (∀ q ∈ paths, Files.hasNul q = false) ∧
        ∀ name ∈ paths, ∀ file, Covers name file → filterSelection paths file = true) ∧
    ((∀ q ∈ paths, IsPlainPath q) → MissesNoChange paths) := by
  refine ⟨⟨fun h => ⟨fun q hq => ?_, fun name hname file hcovers => ?_⟩,
    fun h => missesNoChange_of_selected h.1 h.2⟩, fun plain => ?_⟩
  · -- the added file has the name itself
    obtain ⟨aborts, -⟩ := exists_signal_addedFile q h hq (.inl rfl)
    have whole : paths.any Files.hasNul = false := aborts
    exact any_hasNul_eq_false_iff.1 whole q hq
  · by_contra hselected
    obtain ⟨-, text, hdiff, hsignal⟩ := exists_signal_addedFile file h hname hcovers
    obtain ⟨text', hdiff', haffected⟩ := exists_diff_library
      (show (addedHistory file).branch.snapshot? lastCommit.base = some ⟨[]⟩ from rfl)
      (show (addedHistory file).branch.snapshot? lastCommit.head = some ⟨[(file, schemaFile)]⟩
        from rfl) paths ⟨[]⟩
    rw [openRepository_library (discover?_addedFile file)] at hdiff
    cases hdiff.symm.trans hdiff'
    rw [haffected, libraryChanges_addedFile file (Bool.eq_false_iff.2 hselected)] at hsignal
    obtain ⟨change, hc, -⟩ := hsignal
    cases hc
  · exact missesNoChange_of_selected (fun q hq => (plain q hq).hasNul) fun name hname file hcovers =>
      filterSelection_of_covers plain hname hcovers

/-- A file that is added below `src` is not missed. -/
theorem missesNoChange_src :
    MissesNoChange ["src"] ∧
      ∃ text, (openRepository .library (addedFile "src/schema.rs") ".").diff lastCommit ["src"] =
          .ok text ∧
        Change.Detector.isAffected ⟨[]⟩ text.toList = true := by
  have none := (missesNoChange_iff ["src"]).2 (by decide)
  exact ⟨none, (exists_signal_addedFile _ none List.mem_cons_self (by decide)).2⟩

/-- A name with a `#` in front is passed over: of a change in a file below, the library shows nothing,
and the gate passes the release as unchanged. -/
theorem runGate_hashedName :
    IsPlainSpec "#gen" ∧ Covers "#gen" "#gen/schema.rs" ∧
      markedLines ⟨[]⟩ ((addedHistory "#gen/schema.rs").branch.contentAt? "HEAD~1" "#gen/schema.rs") ≠
        markedLines ⟨[]⟩ ((addedHistory "#gen/schema.rs").branch.contentAt? "HEAD" "#gen/schema.rs") ∧
      runGate ((addedFile "#gen/schema.rs").tree.view []) "." (libraryConfig ["#gen", "src"]) noPipeline
          (openRepository .library (addedFile "#gen/schema.rs") ".") =
        .ok ⟨"1.0.0", .unchanged lastCommit, []⟩ ∧
      ¬MissesNoChange ["#gen", "src"] := by
  have covers : Covers "#gen" "#gen/schema.rs" := by decide
  refine ⟨by decide, covers, by decide +kernel, by decide +kernel, fun h => ?_⟩
  obtain ⟨-, text, hdiff, hsignal⟩ := exists_signal_addedFile _ h List.mem_cons_self covers
  have empty : (openRepository .library (addedFile "#gen/schema.rs") ".").diff lastCommit
      ["#gen", "src"] = .ok "" := by decide +kernel
  cases hdiff.symm.trans empty
  exact absurd hsignal (by decide)

end ReleaseGate.History
