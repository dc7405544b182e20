import Mathlib.Data.List.Basic
import ReleaseGate.Change.Scripted
import ReleaseGate.Diagnostics
import ReleaseGate.Proofs.Backends
import ReleaseGate.Proofs.Observations

/-!
# Relocation

A repository may lie anywhere. Paths that stay below a root lead to the same files below every root
with the same content (`Files.Tree.SameBelow`), and a failure names a document by its path below the
root, so the gate gives the same answer (`runGate_relocate`).

* A joined path goes first where the root leads and then on from there (`locate_join`); what stands
  where is told by the names from there on alone (`SameBelow.nodeBelow`).
* The gate at a root is the gate on the view from there, without a root (`runGate_below`).
-/

namespace ReleaseGate

namespace Files

/-! ### Joined paths -/

section Join

variable {root path : String}

theorem join_empty (path : String) : join "" path = path := by
  unfold join
  split
  · rfl
  · rw [if_pos (by decide), String.empty_append]

/-- A path that is not absolute is set behind the root, with a `/` between if there is none. -/
theorem toList_join (root : String) (h : isAbsolute path = false) :
    (join root path).toList = root.toList ++ path.toList ∧
        (root.toList = [] ∨ ∃ r, root.toList = r ++ ['/']) ∨
      (join root path).toList = root.toList ++ '/' :: path.toList ∧ root.toList ≠ [] := by
  unfold join
  rw [h, if_neg Bool.false_ne_true]
  split_ifs with hroot
  · rw [Bool.or_eq_true, beq_iff_eq, beq_iff_eq] at hroot
    exact .inl ⟨String.toList_append,
      hroot.symm.imp_right fun hlast => List.getLast?_eq_some_iff.1 hlast⟩
  · rw [Bool.or_eq_true, beq_iff_eq, beq_iff_eq, not_or] at hroot
    refine .inr ⟨?_, hroot.2⟩
    rw [String.toList_append, String.toList_append, List.append_assoc]
    rfl

theorem isAbsolute_join (h : isAbsolute path = false) :
    isAbsolute (join root path) = isAbsolute root := by
  rcases toList_join root h with ⟨hjoin, -⟩ | ⟨hjoin, hroot⟩
  · unfold isAbsolute at h ⊢
    rw [hjoin]
    cases root.toList with
    | nil => exact h
    | cons c s => rfl
  · unfold isAbsolute
    rw [hjoin]
    obtain ⟨c, s, hroot⟩ := List.exists_cons_of_ne_nil hroot
    rw [hroot]
    rfl

theorem components_append (s r : List Char) :
    components (s ++ '/' :: r) = components s ++ components r := by
  rw [components, pieces_append, List.filter_append]
  rfl

/-- The components of a joined path are those of the root and then those of the path. -/
theorem components_join (h : isAbsolute path = false) :
    components (join root path).toList = components root.toList ++ components path.toList := by
  rcases toList_join root h with ⟨hjoin, hroot | ⟨r, hroot⟩⟩ | ⟨hjoin, -⟩
  · rw [hjoin, hroot]
    rfl
  · rw [hjoin, hroot, List.append_assoc, List.singleton_append, components_append,
      components_append r [], show components [] = [] from rfl, List.append_nil]
  · rw [hjoin, components_append]

theorem endsInSlash_join (h : isAbsolute path = false) (hne : path.toList ≠ []) :
    endsInSlash (join root path).toList = endsInSlash path.toList := by
  obtain ⟨s, c, hpath⟩ := (List.eq_nil_or_concat' path.toList).resolve_left hne
  unfold endsInSlash
  rcases toList_join root h with ⟨hjoin, -⟩ | ⟨hjoin, -⟩
  · rw [hjoin, hpath, ← List.append_assoc, List.getLast?_concat, List.getLast?_concat]
  · rw [hjoin, hpath, ← List.cons_append, ← List.append_assoc, List.getLast?_concat,
      List.getLast?_concat]

theorem mem_join_iff (h : isAbsolute path = false) {c : Char} (hc : c ≠ '/') :
    c ∈ (join root path).toList ↔ c ∈ root.toList ∨ c ∈ path.toList := by
  rcases toList_join root h with ⟨hjoin, -⟩ | ⟨hjoin, -⟩
  · rw [hjoin, List.mem_append]
  · rw [hjoin, List.mem_append, List.mem_cons, or_iff_right hc]

end Join

/-- A path that stays below the place where it starts. -/
structure IsInner (path : String) : Prop where
  nonempty : path.toList ≠ []
  relative : isAbsolute path = false
  noAscent : ['.', '.'] ∉ components path.toList

theorem isInner_iff (path : String) :
    IsInner path ↔
      path.toList ≠ [] ∧ isAbsolute path = false ∧ ['.', '.'] ∉ components path.toList :=
  ⟨fun ⟨n, r, a⟩ => ⟨n, r, a⟩, fun ⟨n, r, a⟩ => ⟨n, r, a⟩⟩

instance (path : String) : Decidable (IsInner path) := decidable_of_iff _ (isInner_iff path).symm

namespace Tree

/-! ### Below a place -/

/-- Names are followed one stretch after the other. -/
theorem walk_append (t : Tree) (place : Place) (xs ys : List Name) :
    t.walk place (xs ++ ys) = (t.walk place xs).bind fun found => t.walk found ys := by
  induction xs generalizing place with
  | nil => rfl
  | cons name xs ih =>
    rw [List.cons_append, walk, walk]
    cases t.node? place with
    | none => rfl
    | some n =>
      cases n with
      | file => rfl
      | directory =>
        simp only
        split_ifs
        · exact ih place
        · exact ih place.dropLast
        · rfl
        · cases t.node? (place ++ [name]) with
          | none => rfl
          | some n => exact ih (place ++ [name])

/-- Two places, each in its own file system, with the same below them. -/
def SameBelow (t : Tree) (p : Place) (t' : Tree) (p' : Place) : Prop :=
  ∀ rel, t.node? (p ++ rel) = t'.node? (p' ++ rel)

/-- A path leads to a place. -/
structure LeadsTo (t : Tree) (cwd : Place) (path : String) (p : Place) : Prop where
  noNul : '\x00' ∉ path.toList
  walks : t.walk (if isAbsolute path then [] else cwd) (components path.toList) = .ok p

/-- What stands at a path that is followed from a place. -/
def nodeBelow (t : Tree) (p : Place) (path : String) : Except ReadFailure Node :=
  if path.toList.contains '\x00' then .error .nulInPath
  else
    match t.walk p (components path.toList) with
    | .error cause => .error cause
    | .ok place =>
      match t.node? place with
      | none => .error .missing
      | some (.file content) =>
        if endsInSlash path.toList then .error .notDirectory else .ok (.file content)
      | some .directory => .ok .directory

variable {t t' : Tree} {cwd cwd' p p' : Place} {root root' path path' : String}

/-- **A path below a root is followed from where the root leads.** -/
theorem LeadsTo.locate_join (hroot : t.LeadsTo cwd root p) (hrel : isAbsolute path = false)
    (hne : path.toList ≠ []) (fits : byteLength (join root path).toList < maxPath) :
    (t.locate cwd (join root path)).map Prod.snd = t.nodeBelow p path := by
  have hnul : (join root path).toList.contains '\x00' = path.toList.contains '\x00' := by
    rw [Bool.eq_iff_iff, List.contains_iff_mem, List.contains_iff_mem,
      mem_join_iff hrel (by decide), or_iff_right hroot.noNul]
  have hjoin : (join root path).toList ≠ [] := by
    rcases toList_join root hrel with ⟨hjoin, -⟩ | ⟨hjoin, -⟩ <;> simp [hjoin, hne]
  rw [locate, nodeBelow, hnul, isAbsolute_join hrel, components_join hrel, walk_append, hroot.walks,
    endsInSlash_join hrel hne, if_neg hjoin, if_neg (Nat.not_le.2 fits)]
  simp only [Except.bind]
  split
  · rfl
  rcases t.walk p (components path.toList) with cause | place
  · rfl
  rcases hnode : t.node? place with _ | content | _
  · simp only [hnode]
    rfl
  · simp only [hnode]
    cases endsInSlash path.toList <;> rfl
  · simp only [hnode]
    rfl

/-- **Walks below two places with the same below them go in step**: they fail with the same cause or
find places that are told by the same names. Without steps up neither leaves its place. -/
theorem SameBelow.walk (same : SameBelow t p t' p') {names : List Name}
    (hnames : ['.', '.'] ∉ names) (rel : Place) :
    ∃ r : Except ReadFailure Place,
      t.walk (p ++ rel) names = r.map (p ++ ·) ∧ t'.walk (p' ++ rel) names = r.map (p' ++ ·) := by
  induction names generalizing rel with
  | nil => exact ⟨.ok rel, rfl, rfl⟩
  | cons name names ih =>
    obtain ⟨hname, hnames⟩ := not_or.1 (mt List.mem_cons.2 hnames)
    rw [Tree.walk, Tree.walk, same rel, List.append_assoc, List.append_assoc, same (rel ++ [name])]
    cases t'.node? (p' ++ rel) with
    | none => exact ⟨.error .missing, rfl, rfl⟩
    | some n =>
      cases n with
      | file => exact ⟨.error .notDirectory, rfl, rfl⟩
      | directory =>
        simp only [if_neg (Ne.symm hname)]
        split_ifs
        · exact ih hnames rel
        · exact ⟨.error .nameTooLong, rfl, rfl⟩
        · cases t'.node? (p' ++ (rel ++ [name])) with
          | none => exact ⟨.error .missing, rfl, rfl⟩
          | some n => exact ih hnames (rel ++ [name])

/-- **Paths that stay below lead to the same.** -/
theorem SameBelow.nodeBelow (same : SameBelow t p t' p')
    (hpath : ['.', '.'] ∉ components path.toList) : t.nodeBelow p path = t'.nodeBelow p' path := by
  obtain ⟨r, hwalk, hwalk'⟩ := same.walk hpath []
  rw [List.append_nil] at hwalk hwalk'
  rw [Tree.nodeBelow, Tree.nodeBelow, hwalk, hwalk']
  cases r with
  | error cause => rfl
  | ok rel => simp only [Except.map, same rel]

/-- Two paths at which the same stands: they fail with the same cause or find the same node. -/
theorem locate_cases
    (h : (t.locate cwd path).map Prod.snd = (t'.locate cwd' path').map Prod.snd) :
    (∃ cause, t.locate cwd path = .error cause ∧ t'.locate cwd' path' = .error cause) ∨
      ∃ place place' n, t.locate cwd path = .ok (place, n) ∧
        t'.locate cwd' path' = .ok (place', n) := by
  rcases hl : t.locate cwd path with cause | ⟨place, n⟩ <;>
    rcases hl' : t'.locate cwd' path' with cause' | ⟨place', n'⟩ <;> rw [hl, hl'] at h <;> cases h
  · exact .inl ⟨cause, rfl, rfl⟩
  · exact .inr ⟨place, place', n, rfl, rfl⟩

/-- What is read from a path is told by what stands there. -/
theorem read_congr
    (h : (t.locate cwd path).map Prod.snd = (t'.locate cwd' path').map Prod.snd) :
    (t.view cwd).read path = (t'.view cwd').read path' := by
  rcases locate_cases h with ⟨cause, hl, hl'⟩ | ⟨place, place', n, hl, hl'⟩
  · simp only [view, readText, hl, hl']
  · cases n <;> simp only [view, readText, hl, hl']

theorem isFile_congr
    (h : (t.locate cwd path).map Prod.snd = (t'.locate cwd' path').map Prod.snd) :
    (t.view cwd).isFile path = (t'.view cwd').isFile path' := by
  rcases locate_cases h with ⟨cause, hl, hl'⟩ | ⟨place, place', n, hl, hl'⟩
  · simp only [view, hl, hl']
  · cases n <;> simp only [view, hl, hl']

end Tree

/-- The view from a root. -/
def View.below (v : View) (root : String) : View where
  read path := v.read (join root path)
  isFile path := v.isFile (join root path)
  occupied path := v.occupied (join root path)

end Files

/-! ### The gate below a root -/

/-- The paths of the documents, as the settings and the version tell them. -/
def artifactPaths (files : Files.View) (root : String) (paths : PathSettings) : List String :=
  [paths.manifest, paths.changelog, paths.releaseIndex] ++
    match readVersion files root paths.manifest with
    | .ok version => [(Release.Artifacts.of root paths ⟨version⟩).releaseNotes]
    | .error _ => []

theorem gatePaths_eq (files : Files.View) (root : String) (paths : PathSettings) :
    gatePaths files root paths = (artifactPaths files root paths).map (Files.join root) := rfl

section Below

variable (files : Files.View) (root : String)

theorem readVersion_below (manifest : String) :
    readVersion files root manifest = readVersion (files.below root) "" manifest := by
  rw [readVersion, readVersion, Files.join_empty]
  rfl

theorem artifactPaths_below (paths : PathSettings) :
    artifactPaths files root paths = artifactPaths (files.below root) "" paths := by
  rw [artifactPaths, artifactPaths, readVersion_below]
  rfl

namespace Release

variable (paths : PathSettings) (tag : Tag)

theorem readArtifact_below (path : String) :
    readArtifact files (.of root paths tag) path =
      readArtifact (files.below root) (.of "" paths tag) path := by
  rw [readArtifact, readArtifact, Artifacts.resolve, Artifacts.resolve, Artifacts.of, Artifacts.of,
    Files.join_empty]
  rfl

theorem checkLinkage_below :
    checkLinkage files tag (.of root paths tag) =
      checkLinkage (files.below root) tag (.of "" paths tag) := by
  have notes : files.isFile ((Artifacts.of root paths tag).resolve
        (Artifacts.of root paths tag).releaseNotes) =
      (files.below root).isFile ((Artifacts.of "" paths tag).resolve
        (Artifacts.of "" paths tag).releaseNotes) :=
    (congrArg (files.below root).isFile (Files.join_empty _)).symm
  rw [checkLinkage, checkLinkage, readArtifact_below files root, readArtifact_below files root,
    notes]
  rfl

theorem firstWithNotes_below (documents : List String) :
    firstWithNotes files (.of root paths tag) documents =
      firstWithNotes (files.below root) (.of "" paths tag) documents := by
  induction documents with
  | nil => rfl
  | cons path documents ih => rw [firstWithNotes, firstWithNotes, readArtifact_below, ih]

theorem requireSchemaNotes_below :
    requireSchemaNotes files tag (.of root paths tag) =
      requireSchemaNotes (files.below root) tag (.of "" paths tag) := by
  rw [requireSchemaNotes, requireSchemaNotes, firstWithNotes_below]
  rfl

end Release

/-- **The gate at a root is the gate without a root on the view from there.** -/
theorem runGate_below (config : Config) (env : Change.Environment) (repo : Change.Repository) :
    runGate files root config env repo = runGate (files.below root) "" config env repo := by
  simp only [runGate, checkSchema, readVersion_below files root,
    Release.checkLinkage_below files root, Release.requireSchemaNotes_below files root]

theorem gateAborts_below (config : Config) (env : Change.Environment) (repo : Change.Repository) :
    gateAborts files root config env repo = gateAborts (files.below root) "" config env repo := by
  simp only [gateAborts, diffRange?, readVersion_below files root,
    Release.checkLinkage_below files root]

theorem gateDiagnostics_below (config : Config) (env : Change.Environment)
    (repo : Change.Repository) :
    gateDiagnostics files root config env repo =
      gateDiagnostics (files.below root) "" config env repo := by
  simp only [gateDiagnostics, readVersion_below files root, Release.checkLinkage_below files root]

end Below

open Files Files.Tree in
/-- **The gate may be moved.** Take two roots, in one file system or in two, with the same below
them, and settings whose documents, the release notes of the version among them, have paths that
stay below a root and are not too long behind either. Then the gate gives the same answer at both,
every failure with its texts included, whatever the pipeline and the history are. -/
theorem runGate_relocate {t t' : Tree} {cwd cwd' p p' : Place} {root root' : String}
    {config : Config} (hroot : t.LeadsTo cwd root p) (hroot' : t'.LeadsTo cwd' root' p')
    (same : SameBelow t p t' p')
    (inner : ∀ path ∈ artifactPaths (t.view cwd) root config.paths, IsInner path)
    (fits : ∀ path ∈ gatePaths (t.view cwd) root config.paths, byteLength path.toList < maxPath)
    (fits' : ∀ path ∈ gatePaths (t'.view cwd') root' config.paths, byteLength path.toList < maxPath)
    (env : Change.Environment) (repo : Change.Repository) :
    runGate (t.view cwd) root config env repo = runGate (t'.view cwd') root' config env repo := by
  -- the manifest is read alike, so both roots have the same version and the same documents
  have alike {path : String} (hpath : IsInner path)
      (hfits : byteLength (join root path).toList < maxPath)
      (hfits' : byteLength (join root' path).toList < maxPath) :
      (t.locate cwd (join root path)).map Prod.snd =
        (t'.locate cwd' (join root' path)).map Prod.snd := by
    rw [hroot.locate_join hpath.relative hpath.nonempty hfits,
      hroot'.locate_join hpath.relative hpath.nonempty hfits', same.nodeBelow hpath.noAscent]
  have manifest : config.paths.manifest ∈ artifactPaths (t.view cwd) root config.paths :=
    List.mem_cons_self
  have hversion : readVersion (t.view cwd) root config.paths.manifest =
      readVersion (t'.view cwd') root' config.paths.manifest := by
    rw [readVersion, readVersion, read_congr (alike (inner _ manifest)
      (fits _ (List.mem_map_of_mem manifest)) (fits' _ (List.mem_map_of_mem List.mem_cons_self)))]
  have documents : artifactPaths (t.view cwd) root config.paths =
      artifactPaths (t'.view cwd') root' config.paths := by
    rw [artifactPaths, artifactPaths, hversion]
    rfl
  rw [runGate_below, runGate_below (t'.view cwd')]
  refine runGate_congr env repo (seenAlike_of_gatePaths ?_)
  rw [gatePaths_eq, ← artifactPaths_below, List.forall_mem_map]
  intro path hpath
  have hpath' : path ∈ artifactPaths (t'.view cwd') root' config.paths := documents ▸ hpath
  have h := alike (inner path hpath) (fits _ (List.mem_map_of_mem hpath))
    (fits' _ (List.mem_map_of_mem hpath'))
  rw [join_empty]
  exact ⟨read_congr h, isFile_congr h⟩

open History (noPipeline) in
/-- Two directories with the same manifest, told by an absolute path and from inside. -/
theorem runGate_relocate_twins :
    let manifest : Files.Node := .file ("version = \"1.0.0\"\n".toList.map History.byte)
    let t : Files.Tree := ⟨[(["a".toList], .directory), (["b".toList], .directory),
      (["a".toList, "Cargo.toml".toList], manifest),
      (["b".toList, "Cargo.toml".toList], manifest)]⟩
    let unknown := Change.Script.repository .empty
    runGate (t.view []) "/a" .default noPipeline unknown =
        .error (.linkage (.missingFile "CHANGELOG.md")) ∧
      runGate (t.view ["b".toList]) "../b/." .default noPipeline unknown =
        .error (.linkage (.missingFile "CHANGELOG.md")) := by
  intro manifest t unknown
  have same : t.SameBelow ["a".toList] t ["b".toList] := by
    intro rel
    cases rel with
    | nil => rfl
    | cons name rel => simp [Files.Tree.node?, t, List.lookup_cons]
  have answer : runGate (t.view []) "/a" .default noPipeline unknown =
      .error (.linkage (.missingFile "CHANGELOG.md")) := by
    decide +kernel
  refine ⟨answer, Eq.trans (Eq.symm ?_) answer⟩
  exact runGate_relocate ⟨by decide, by decide⟩ ⟨by decide, by decide⟩ same (by decide +kernel)
    (by decide +kernel) (by decide +kernel) _ _

end ReleaseGate
