import ReleaseGate.Proofs.Declarations
import ReleaseGate.Proofs.HistoryFailures
import ReleaseGate.Proofs.LineEnds
import ReleaseGate.Proofs.TreeChanges

/-!
# Remedies

A failure about a link or a policy names what is missing, and so what to do: to create a file, or to
put a line at the front of one (`Failure.remedy?`). A remedy does no harm (`Applied.improves`): the
version stays, and what a check before the schema rule accepted is accepted still, even where two
configured paths lead to one file (`Passes.of_improves`). And it does what it is for: the check that
failed accepts the file or the line (`Passes.of_remedy`).
-/

namespace ReleaseGate

/-- What is to be done about a failure. Paths are relative to the root. -/
inductive Remedy
  /-- Create an empty file. -/
  | create (path : String)
  /-- Put a line at the front of a file. -/
  | insert (path line : String)
  deriving DecidableEq, Repr

/-- A failure about a link or a policy. -/
def Failure.IsBreach (f : Failure) : Prop :=
  (∃ violation, f = .linkage violation) ∨ ∃ breach, f = .policy breach

/-- What a failure asks for. -/
def Failure.remedy? : Failure → Option Remedy
  | .linkage (.missingFile path) => some (.create path)
  | .linkage (.missingChangelogHeading changelog tag) => some (.insert changelog ("## " ++ tag))
  | .linkage (.missingIndexLink index link) => some (.insert index link)
  | .linkage (.missingReleaseNotes path) => some (.create path)
  | .policy (.noSchemaNotes changelog _ _) => some (.insert changelog "### Schema Notes")
  | _ => none

/-- A remedy was applied to a tree. -/
def Remedy.Applied (cwd : Files.Place) (root : String) : Remedy → Files.Tree → Files.Tree → Prop
  | .create path, t, t' => t.Creates t' cwd (Files.join root path)
  | .insert path line, t, t' => t.insertLine? cwd (Files.join root path) line = some t'

/-- A changelog can be created beside the manifest. -/
example :
    let t : Files.Tree := ⟨[History.asciiFile "Cargo.toml" "version = \"1.0.0\"\n"]⟩
    Remedy.Applied [] "." (.create "CHANGELOG.md") t (t.put ["CHANGELOG.md".toList] (.file [])) :=
  Files.Tree.creates_put (by decide) (by decide +kernel)

/-! ### No harm -/

/-- One line, which does not start like a declaration. -/
structure IsInert (line : String) : Prop where
  lf_not_mem : '\n' ∉ line.toList
  head_ne : line.toList.head? ≠ some 'v'

/-- A view that shows what another one shows, where files may have got inert lines at their
front. -/
structure Files.View.Improves (v v' : View) : Prop where
  isFile : ∀ {path}, v.isFile path = true → v'.isFile path = true
  read : ∀ {path text}, v.read path = .ok text → v'.read path = .ok text ∨
    ∃ line, IsInert line ∧ v'.read path = .ok (line ++ "\n" ++ text)

theorem toList_line_append (line text : String) :
    (line ++ "\n" ++ text).toList = line.toList ++ '\n' :: text.toList := by simp

namespace Files.View.Improves

variable {v v' : View} (h : v.Improves v')

include h

/-- What an inert line at the front does not undo is kept. -/
theorem exists_read {p : List Char → Prop}
    (hp : ∀ line text : List Char, '\n' ∉ line → line.head? ≠ some 'v' → p text →
      p (line ++ '\n' :: text))
    {path text : String} (hr : v.read path = .ok text) (ht : p text.toList) :
    ∃ text', v'.read path = .ok text' ∧ p text'.toList := by
  rcases h.read hr with hr' | ⟨line, inert, hr'⟩
  · exact ⟨text, hr', ht⟩
  · refine ⟨_, hr', ?_⟩
    rw [toList_line_append]
    exact hp _ _ inert.lf_not_mem inert.head_ne ht

theorem readVersion_eq {root manifest version : String}
    (hv : readVersion v root manifest = .ok version) :
    readVersion v' root manifest = .ok version := by
  obtain ⟨text, hr, hd⟩ := readVersion_eq_ok_iff.1 hv
  refine readVersion_eq_ok_iff.2
    (h.exists_read (p := fun s => Release.declaredVersion? s = some version.toList) ?_ hr hd)
  intro line text lf head hd
  rw [Release.declaredVersion?_append_lf lf head, hd]

end Files.View.Improves

theorem Release.hasReleaseHeading_append_lf (tag : List Char) {line : List Char}
    (lf : '\n' ∉ line) (text : List Char) :
    hasReleaseHeading tag (line ++ '\n' :: text) =
      (isHeading tag (Text.dropCr line) || hasReleaseHeading tag text) := by
  rw [hasReleaseHeading, Text.lines_append_lf lf, List.any_cons, hasReleaseHeading]

section

variable {root : String} {config : Config} {env : Change.Environment} {repo : Change.Repository}
  {version : String}

/-- **A check on the documents accepts an improved view.** -/
theorem Passes.of_improves {v v' : Files.View} (h : v.Improves v') {c : Check}
    (hc : c < .schemaNotes) (hp : Passes v root config env repo version c) :
    Passes v' root config env repo version c := by
  have keepsAny {path : String} (hr : ∃ text, v.read path = .ok text) :
      ∃ text, v'.read path = .ok text := by
    obtain ⟨text, hr⟩ := hr
    obtain ⟨text', hr', -⟩ := h.exists_read (p := fun _ => True) (fun _ _ _ _ _ => trivial) hr trivial
    exact ⟨text', hr'⟩
  cases c with
  | patterns => exact hp
  | version => exact h.readVersion_eq hp
  | changelog => exact keepsAny hp
  | heading =>
    obtain ⟨text, hr, hh⟩ := hp
    refine h.exists_read (p := fun s => Release.hasReleaseHeading _ s = true) ?_ hr hh
    intro line text lf _ hh
    rw [Release.hasReleaseHeading_append_lf _ lf, hh, Bool.or_true]
  | index => exact keepsAny hp
  | link =>
    obtain ⟨text, hr, hl⟩ := hp
    refine h.exists_read (p := fun s => _ <:+: s) ?_ hr hl
    intro line text _ _ hl
    exact hl.trans ((List.suffix_cons _ _).trans (List.suffix_append _ _)).isInfix
  | releaseNotes => exact h.isFile hp
  | changes => exact hp
  | schemaNotes => cases Nat.lt_irrefl _ hc

end

/-- A remedy that asks for a line asks for an inert one. -/
def Remedy.IsInert : Remedy → Prop
  | .create _ => True
  | .insert _ line => ReleaseGate.IsInert line

theorem Remedy.Applied.improves {cwd : Files.Place} {root : String} {remedy : Remedy}
    {t t' : Files.Tree} (h : remedy.Applied cwd root t t') (inert : remedy.IsInert) :
    (t.view cwd).Improves (t'.view cwd) := by
  cases remedy with
  | create path => exact ⟨h.1.isFile, fun hr => .inl (h.1.read hr)⟩
  | insert path line =>
    constructor
    · intro other hf
      rw [Files.Tree.isFile_insertLine? h, hf]
    · intro other text hr
      exact (Files.Tree.read_insertLine?_or h hr).imp_right fun hr' => ⟨line, inert, hr'⟩

/-! ### What the checks ask for -/

/-- What a check asks for where it fails about a link or a policy. -/
def Check.remedy? (paths : PathSettings) (version : String) : Check → Option Remedy
  | .patterns | .version | .changes => none
  | .changelog => some (.create paths.changelog)
  | .heading => some (.insert paths.changelog (Release.Tag.changelogHeading ⟨version⟩))
  | .index => some (.create paths.releaseIndex)
  | .link => some (.insert paths.releaseIndex (Release.Tag.indexLink ⟨version⟩))
  | .releaseNotes =>
    some (.create (Release.notesPath paths.releaseNotesDir (Release.Tag.notesFile ⟨version⟩)))
  | .schemaNotes => some (.insert paths.changelog "### Schema Notes")

/-- The version is free of the characters that end lines. -/
def IsOneLine (version : String) : Prop := '\n' ∉ version.toList ∧ '\r' ∉ version.toList

theorem Check.isInert_of_remedy? {paths : PathSettings} {version : String} {c : Check}
    {remedy : Remedy} (hline : IsOneLine version) (h : c.remedy? paths version = some remedy) :
    remedy.IsInert := by
  cases c with
  | patterns => cases h
  | version => cases h
  | changes => cases h
  | changelog => cases h; trivial
  | index => cases h; trivial
  | releaseNotes => cases h; trivial
  | schemaNotes =>
    cases h
    exact ⟨by decide, by decide⟩
  | heading =>
    cases h
    exact ⟨Release.Tag.not_mem_changelogHeading (by decide) hline.1,
      by simp [Release.Tag.changelogHeading]⟩
  | link =>
    cases h
    exact ⟨Release.Tag.not_mem_indexLink (by decide) hline.1, by simp [Release.Tag.indexLink_eq]⟩

section

variable {t : Files.Tree} {cwd : Files.Place} {root : String} {config : Config}
  {env : Change.Environment} {repo : Change.Repository} {version : String} {c : Check} {f : Failure}

/-- **A failure asks for what the check asks for**, unless a file could not be read, or the
configuration or the manifest is at fault, or the diff handed the failure on. -/
theorem FailsAt.cases_remedy (h : FailsAt (t.view cwd) root config env repo version c f)
    (hc : c ≠ .changes) :
    (¬Check.version < c ∧ ∃ fault, f = .config fault) ∨ (∃ cause, f = .io cause) ∨
      ∃ remedy, f.remedy? = some remedy ∧ c.remedy? config.paths version = some remedy := by
  have document {path : String} (h : Release.readArtifact (t.view cwd)
      (.of root config.paths ⟨version⟩) path = .error f) :
      (∃ cause, f = .io cause) ∨ f.remedy? = some (.create path) :=
    (Release.isMissing_or_isIo_of_readArtifact h).symm.imp_right (congrArg Failure.remedy?)
  obtain ⟨before, h⟩ := h
  cases h with
  | badPattern hd => exact .inl ⟨by decide, isConfig_of_detectorOf hd⟩
  | noVersion hv =>
    exact (isConfig_or_isIo_of_readVersion hv).imp (fun h => ⟨by decide, h⟩) .inl
  | noChangelog h => exact .inr ((document h).imp_right fun h => ⟨_, h, rfl⟩)
  | noHeading hr hh => exact .inr (.inr ⟨_, rfl, rfl⟩)
  | noIndex h => exact .inr ((document h).imp_right fun h => ⟨_, h, rfl⟩)
  | noLink hr hl => exact .inr (.inr ⟨_, rfl, rfl⟩)
  | noReleaseNotes hn => exact .inr (.inr ⟨_, rfl, rfl⟩)
  | noDiff hr hdiff hv => exact absurd rfl hc
  | undocumented haffected h =>
    have linked := isLinked_of_passes fun b hb => before b (Nat.lt_trans hb (by decide))
    obtain ⟨-, ⟨-, rfl⟩ | ⟨cause, -, -, rfl⟩⟩ :=
      (Release.requireSchemaNotes_eq_error_iff_of_isLinked (t.view_coherent cwd) linked).1 h
    · exact .inr (.inr ⟨_, rfl, rfl⟩)
    · exact .inr (.inl ⟨cause, rfl⟩)

theorem FailsAt.remedy?_eq (h : FailsAt (t.view cwd) root config env repo version c f)
    (hc : c ≠ .changes) {remedy : Remedy} (hf : f.remedy? = some remedy) :
    c.remedy? config.paths version = some remedy := by
  rcases h.cases_remedy hc with ⟨-, fault, rfl⟩ | ⟨cause, rfl⟩ | ⟨remedy', hf', hr⟩
  · cases hf
  · cases hf
  · rw [hr, ← hf', hf]

end

/-! ### What it is for -/

namespace Release

theorem isHeading_changelogHeading (tag : List Char) :
    isHeading tag ("## ".toList ++ tag) = true := by
  have strip : Text.stripStart? ("## ".toList ++ tag) ("## ".toList ++ tag) = some [] :=
    Text.stripStart?_eq_some_iff.2 (List.append_nil _).symm
  -- two hashes and a blank: no indentation, and no third hash to drop
  have indent : ("## ".toList ++ tag).takeWhile Text.isIndent = [] := rfl
  have rest : ("## ".toList ++ tag).dropWhile Text.isIndent = "## ".toList ++ tag := rfl
  have hashes : dropThirdHash ("## ".toList ++ tag) = "## ".toList ++ tag := rfl
  simp only [isHeading, indent, rest, hashes, strip, tagEnds, List.length_nil, Nat.zero_le,
    decide_true, Bool.and_self]

theorem stripFolded?_append {words pre : List Char} (h : stripFolded? words pre = some [])
    (rest : List Char) : stripFolded? words (pre ++ rest) = some rest := by
  induction words generalizing pre with
  | nil =>
    cases h
    rfl
  | cons w words ih =>
    cases pre with
    | nil => cases h
    | cons c pre =>
      rw [stripFolded?] at h
      rw [List.cons_append, stripFolded?]
      split at h
      · next hw => rw [if_pos hw, ih h]
      · cases h

theorem hasSchemaNotes_of_front {s : List Char} (h : notesAtFront s = true) :
    hasSchemaNotes s = true := by
  cases s with
  | nil => cases h
  | cons c s => rw [hasSchemaNotes, notesFrom, h, Bool.true_and, Bool.true_or]

theorem hasSchemaNotes_notes_append (text : List Char) :
    hasSchemaNotes ("### Schema Notes".toList ++ '\n' :: text) = true := by
  have words : startsWithWords ("Schema Notes".toList ++ '\n' :: text) = true := by
    rw [startsWithWords, stripFolded?_append (by decide +kernel)]
    rfl
  -- the hashes and the blank before the words are read off
  have front : notesAtFront ("### Schema Notes".toList ++ '\n' :: text) = true := words
  exact hasSchemaNotes_of_front front

/-- A document has Schema Notes once their heading is its first line. -/
theorem hasNotes_of_insertLine? {t t' : Files.Tree} {cwd : Files.Place} {path text : String}
    (h : t.insertLine? cwd path "### Schema Notes" = some t')
    (hr : (t.view cwd).read path = .ok text) : HasNotes (t'.view cwd) path := by
  refine ⟨_, Files.Tree.read_insertLine? h hr, ?_⟩
  rw [toList_line_append, hasSchemaNotes_notes_append]

end Release

section

variable {t t' : Files.Tree} {cwd : Files.Place} {root : String} {config : Config}
  {env : Change.Environment} {repo : Change.Repository} {version : String} {c : Check}
  {remedy : Remedy}

theorem passes_releaseNotes_iff {files : Files.View} :
    Passes files root config env repo version .releaseNotes ↔
      files.isFile (Files.join root
        (Release.notesPath config.paths.releaseNotesDir (Release.Tag.notesFile ⟨version⟩))) = true :=
  Iff.rfl

/-- **A check accepts what it asked for**, once the checks before it accept. -/
theorem Passes.of_remedy (hline : IsOneLine version)
    (before : ∀ b, b < c → Passes (t.view cwd) root config env repo version b)
    (hr : c.remedy? config.paths version = some remedy) (h : remedy.Applied cwd root t t') :
    Passes (t'.view cwd) root config env repo version c := by
  cases c with
  | patterns => cases hr
  | version => cases hr
  | changes => cases hr
  | changelog =>
    cases hr
    exact ⟨"", h.read⟩
  | heading =>
    cases hr
    obtain ⟨text, hread⟩ := before .changelog (by decide)
    refine ⟨_, Files.Tree.read_insertLine? h hread, ?_⟩
    have lf := Release.Tag.not_mem_changelogHeading (by decide) hline.1
    have cr := Release.Tag.not_mem_changelogHeading (by decide) hline.2
    rw [toList_line_append, Release.hasReleaseHeading_append_lf _ lf, Text.dropCr_eq_self cr,
      Release.Tag.changelogHeading, String.toList_append, Release.isHeading_changelogHeading,
      Bool.true_or]
  | index =>
    cases hr
    exact ⟨"", h.read⟩
  | link =>
    cases hr
    obtain ⟨text, hread⟩ := before .index (by decide)
    refine ⟨_, Files.Tree.read_insertLine? h hread, ?_⟩
    rw [toList_line_append]
    exact (List.prefix_append _ _).isInfix
  | releaseNotes =>
    cases hr
    exact passes_releaseNotes_iff.2 h.isFile
  | schemaNotes =>
    cases hr
    obtain ⟨text, hread⟩ := before .changelog (by decide)
    have notes := Release.hasNotes_of_insertLine? h hread
    exact fun _ => ⟨_, Release.requireSchemaNotes_eq_ok_iff.2 (.inl ⟨rfl, notes⟩)⟩

/-- After a remedy every check up to the one that failed accepts, with the version as it was. -/
theorem passes_of_remedy (hline : IsOneLine version)
    (before : ∀ b, b < c → Passes (t.view cwd) root config env repo version b)
    (hr : c.remedy? config.paths version = some remedy) (h : remedy.Applied cwd root t t') :
    ∀ b, ¬c < b → Passes (t'.view cwd) root config env repo version b := by
  intro b hb
  rcases Check.lt_trichotomy b c with hlt | rfl | hlt
  · have hlast : b < .schemaNotes := by
      rw [Check.lt_iff] at hlt ⊢
      have : c.place ≤ 8 := by cases c <;> decide
      exact Nat.lt_of_lt_of_le hlt this
    exact Passes.of_improves (h.improves (Check.isInert_of_remedy? hline hr)) hlast (before b hlt)
  · exact Passes.of_remedy hline before hr h
  · exact absurd hlt hb

end

end ReleaseGate
