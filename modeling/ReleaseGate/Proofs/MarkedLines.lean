import ReleaseGate.CommandLine.Reads
import ReleaseGate.Proofs.Outcome

/-!
# The mark on every line

Output is written line by line, and the mark is put before a message, not before each of its lines.
A message quotes texts from outside as they are: paths, patterns and revisions, a version, and what
version control says. So every line about the release bears the mark exactly if no text that is
quoted goes on, after a line feed of its own, without the mark. What a run tells of its steps, and what
is written where it is cut off, is not the program's own and bears what it bears
(`isMarked_run_iff`).

* `quotes` lists the texts that a message quotes, and nothing else of a message can break a line
  (`Failure.continuesMarked_chain_iff`, `Notice.continuesMarked_text_iff`). What the reader of a
  pattern or of a configuration says of one that it refuses is quoted like the rest;
* `Quotable` and `World.Quotable` list where these texts come from: the flows from the settings, the
  manifest, the environment and version control into messages.
-/

namespace ReleaseGate

/-- What every line of output starts with. -/
def lineStart : String := "[release-readiness] "

/-- Every line of a text starts with the mark. -/
def IsMarked (text : String) : Prop := ∀ l ∈ Text.lines text.toList, lineStart.toList <+: l

/-- Every line of a text but the first starts with the mark. -/
def ContinuesMarked (s : List Char) : Prop := ∀ l ∈ (Text.segments s).tail, lineStart.toList <+: l

instance (text : String) : Decidable (IsMarked text) :=
  List.decidableBAll _ (Text.lines text.toList)

instance (s : List Char) : Decidable (ContinuesMarked s) :=
  List.decidableBAll _ (Text.segments s).tail

/-! ### Lines of texts put together -/

namespace Text

theorem segments_cons_of_ne {c : Char} (hc : c ≠ '\n') {s l : List Char} {ls : List (List Char)}
    (h : segments s = l :: ls) : segments (c :: s) = (c :: l) :: ls := by
  simp [segments, hc, h]

theorem segments_of_lf_not_mem {s : List Char} (h : '\n' ∉ s) : segments s = [s] := by
  induction s with
  | nil => rfl
  | cons c s ih =>
    rw [List.mem_cons, not_or] at h
    exact segments_cons_of_ne (Ne.symm h.1) (ih h.2)

/-- Two texts meet in the last line of the one and the first line of the other. -/
theorem segments_append {s t l m : List Char} {ls ms : List (List Char)}
    (hs : segments s = ls ++ [l]) (ht : segments t = m :: ms) :
    segments (s ++ t) = ls ++ (l ++ m) :: ms := by
  induction s generalizing ls l with
  | nil =>
    cases ls with
    | nil =>
      obtain ⟨rfl, -⟩ := List.cons.inj hs
      exact ht
    | cons k ks => simp at hs
  | cons c s ih =>
    by_cases hc : c = '\n'
    · subst hc
      rw [segments_lf] at hs
      cases ls with
      | nil => exact absurd (List.cons.inj hs).2 (segments_ne_nil s)
      | cons k ks =>
        obtain ⟨hk, hs⟩ := List.cons.inj hs
        rw [List.cons_append, segments_lf, ih hs, List.cons_append, hk]
    · cases hseg : segments s with
      | nil => exact absurd hseg (segments_ne_nil s)
      | cons k ks =>
        rw [segments_cons_of_ne hc hseg] at hs
        cases ls with
        | nil =>
          obtain ⟨rfl, rfl⟩ := List.cons.inj hs
          exact segments_cons_of_ne hc (@ih k [] hseg)
        | cons j js =>
          obtain ⟨rfl, rfl⟩ := List.cons.inj hs
          exact segments_cons_of_ne hc (@ih l (k :: js) hseg)

theorem linesOfSegments_append (ls : List (List Char)) {ms : List (List Char)} (h : ms ≠ []) :
    linesOfSegments (ls ++ ms) = ls.map dropCr ++ linesOfSegments ms := by
  induction ls with
  | nil => rfl
  | cons l ls ih =>
    rw [List.cons_append, linesOfSegments_cons (by simp [h]), ih, List.map_cons, List.cons_append]

/-- The lines before a line feed are all pieces of the text there; the others are read by
themselves. -/
theorem lines_append_cons_lf (s t : List Char) :
    lines (s ++ '\n' :: t) = (segments s).map dropCr ++ lines t := by
  obtain ⟨ls, l, hs⟩ := List.eq_nil_or_concat (segments s) |>.resolve_left (segments_ne_nil s)
  rw [List.concat_eq_append] at hs
  rw [lines, segments_append hs (segments_lf t), hs, List.append_nil, List.append_cons,
    linesOfSegments_append _ (segments_ne_nil t), lines]

theorem lines_append_end (s : List Char) : lines (s ++ ['\n']) = (segments s).map dropCr := by
  rw [lines_append_cons_lf]
  exact List.append_nil _

end Text

theorem prefix_append_cons_iff {p : List Char} {c : Char} (hc : c ∉ p) (s t : List Char) :
    p <+: s ++ c :: t ↔ p <+: s := by
  refine ⟨fun h => ?_, fun h => h.trans (List.prefix_append _ _)⟩
  rcases List.prefix_or_prefix_of_prefix h (List.prefix_append s (c :: t)) with h' | ⟨q, rfl⟩
  · exact h'
  · cases q with
    | nil => simp
    | cons d q =>
      obtain ⟨rfl, -⟩ := List.cons_prefix_cons.1 ((List.prefix_append_right_inj s).1 h)
      exact absurd (List.mem_append_right s List.mem_cons_self) hc

theorem continuesMarked_of_lf_not_mem {s : List Char} (h : '\n' ∉ s) : ContinuesMarked s := by
  simp [ContinuesMarked, Text.segments_of_lf_not_mem h]

/-- A front without line feeds does not matter. -/
theorem continuesMarked_append_iff {s : List Char} (h : '\n' ∉ s) (t : List Char) :
    ContinuesMarked (s ++ t) ↔ ContinuesMarked t := by
  cases ht : Text.segments t with
  | nil => exact absurd ht (Text.segments_ne_nil t)
  | cons m ms =>
    have hs : Text.segments s = [] ++ [s] := Text.segments_of_lf_not_mem h
    rw [ContinuesMarked, ContinuesMarked, Text.segments_append hs ht, ht]
    rfl

/-- Words that keep a text apart from what follows it: they start with a character that the mark
does not have, and hold no line feed. -/
structure Separates (words : List Char) : Prop where
  solid : words ≠ []
  fresh : ∀ c ∈ words.head?, c ∉ lineStart.toList
  oneLine : '\n' ∉ words

/-- Texts that are kept apart go on by themselves. -/
theorem continuesMarked_append_append_iff {words : List Char} (h : Separates words)
    (s t : List Char) :
    ContinuesMarked (s ++ (words ++ t)) ↔ ContinuesMarked s ∧ ContinuesMarked t := by
  obtain ⟨c, words, rfl⟩ := List.exists_cons_of_ne_nil h.solid
  have hc : c ∉ lineStart.toList := h.fresh c rfl
  obtain ⟨ls, l, hs⟩ := List.eq_nil_or_concat (Text.segments s) |>.resolve_left
    (Text.segments_ne_nil s)
  rw [List.concat_eq_append] at hs
  cases ht : Text.segments t with
  | nil => exact absurd ht (Text.segments_ne_nil t)
  | cons m ms =>
    have hwords : Text.segments (c :: words) = [] ++ [c :: words] :=
      Text.segments_of_lf_not_mem h.oneLine
    rw [ContinuesMarked, ContinuesMarked, ContinuesMarked,
      Text.segments_append hs (Text.segments_append hwords ht), hs, ht]
    cases ls with
    | nil => simp
    | cons k ks =>
      -- the last line of the one text keeps its start, and ends with the words
      simp only [List.cons_append, List.tail_cons, List.forall_mem_append,
        List.forall_mem_cons, List.not_mem_nil, false_implies, implies_true, and_true,
        prefix_append_cons_iff hc, and_assoc]

theorem continuesMarked_append_end_iff {words : List Char} (h : Separates words) (s : List Char) :
    ContinuesMarked (s ++ words) ↔ ContinuesMarked s := by
  have := continuesMarked_append_append_iff h s []
  rw [List.append_nil] at this
  rw [this, and_iff_left (continuesMarked_of_lf_not_mem List.not_mem_nil)]

/-- A line of output bears the mark throughout exactly if its message goes on with the mark. -/
theorem isMarked_print_iff {l : Line} {kind message : String} (hkind : '\n' ∉ kind.toList)
    (h : l.text = lineStart ++ kind ++ message) :
    IsMarked (l.print false) ↔ ContinuesMarked message.toList := by
  have hprint : (l.print false).toList =
      (lineStart.toList ++ kind.toList) ++ message.toList ++ ['\n'] := by
    simp [Line.print, h]
  have cr : '\r' ∉ lineStart.toList := by simp [lineStart]
  have front : '\n' ∉ lineStart.toList ++ kind.toList := by simp [lineStart, hkind]
  rw [IsMarked, hprint, Text.lines_append_end, List.forall_mem_map]
  simp only [Text.prefix_dropCr_iff cr]
  -- the first piece starts with the mark, whatever the message is
  cases hm : Text.segments message.toList with
  | nil => exact absurd hm (Text.segments_ne_nil _)
  | cons m ms =>
    have hs : Text.segments (lineStart.toList ++ kind.toList) =
        [] ++ [lineStart.toList ++ kind.toList] :=
      Text.segments_of_lf_not_mem front
    rw [ContinuesMarked, Text.segments_append hs hm, hm, List.nil_append, List.forall_mem_cons,
      List.append_assoc]
    simp

/-- Behind whole lines, a text is marked by itself. -/
theorem isMarked_append_iff {s : String} (h : IsWholeLines s) (t : String) :
    IsMarked (s ++ t) ↔ IsMarked s ∧ IsMarked t := by
  rcases h with rfl | ⟨lines, rfl⟩
  · rw [String.empty_append, and_iff_right (by decide)]
  · have hlf : ("\n" : String).toList = ['\n'] := rfl
    simp only [IsMarked, String.toList_append, hlf, List.append_assoc, List.singleton_append,
      Text.lines_append_cons_lf, List.forall_mem_append]
    simp [Text.lines, Text.linesOfSegments]

/-! ### What messages quote -/

/-- The texts that the wording of a broken link quotes. -/
def LinkageViolation.quotes : LinkageViolation → List String
  | missingFile path => [path]
  | missingChangelogHeading changelog tag => [changelog, tag]
  | missingIndexLink index link => [index, link]
  | missingReleaseNotes path => [path]

/-- The texts that the wording of a fault quotes; the last one of a pattern or a document that
cannot be read is what its reader says of it. -/
def ConfigFault.quotes (w : Wording) : ConfigFault → List String
  | missingManifest path => [path]
  | noVersion path => [path]
  | badPattern pattern => [pattern, w.pattern pattern]
  | unreadable path _ => [path]
  | malformed path text => [path, w.document text]
  | stated text => [text]

/-- The texts that the wording of a broken policy quotes. -/
def PolicyBreach.quotes : PolicyBreach → List String
  | noSchemaNotes changelog notes tag => [changelog, notes, tag]
  | stated text => [text]

/-- The texts that the wording of a failure quotes. -/
def Failure.quotes (w : Wording) : Failure → List String
  | config fault => fault.quotes w
  | linkage violation => violation.quotes
  | policy breach => breach.quotes
  | git text => [text]
  | gitCommand text => [text]
  | io _ => []

/-- The text that the wording of a notice quotes: a range and, in brackets, what was wrong. -/
def Notice.quotes : Notice → List String
  | noChangeRange => []
  | diffUnavailable range reason => [range ++ " (" ++ reason]

/-! ### What breaks a line of a message -/

theorem LinkageViolation.continuesMarked_message_iff (v : LinkageViolation) :
    ContinuesMarked v.message.toList ↔ ∀ q ∈ v.quotes, ContinuesMarked q.toList := by
  have close : Separates "`".toList := by constructor <;> simp [lineStart]
  cases v with
  | missingFile path =>
    unfold message
    simp only [String.toList_append, List.append_assoc]
    rw [continuesMarked_append_iff (by simp : '\n' ∉ "missing required file: `".toList),
      continuesMarked_append_end_iff close]
    simp [quotes]
  | missingChangelogHeading changelog tag =>
    have words : Separates "` is missing a release heading for `".toList := by
      constructor <;> simp [lineStart]
    unfold message
    simp only [String.toList_append, List.append_assoc]
    rw [continuesMarked_append_iff close.oneLine, continuesMarked_append_append_iff words,
      continuesMarked_append_end_iff close]
    simp [quotes]
  | missingIndexLink index link =>
    have words : Separates "` is missing the current version link `".toList := by
      constructor <;> simp [lineStart]
    unfold message
    simp only [String.toList_append, List.append_assoc]
    rw [continuesMarked_append_iff close.oneLine, continuesMarked_append_append_iff words,
      continuesMarked_append_end_iff close]
    simp [quotes]
  | missingReleaseNotes path =>
    unfold message
    simp only [String.toList_append, List.append_assoc]
    rw [continuesMarked_append_iff
        (by simp : '\n' ∉ "missing versioned release notes file: `".toList),
      continuesMarked_append_end_iff close]
    simp [quotes]

theorem lf_not_mem_message (cause : Files.ReadFailure) : '\n' ∉ cause.message.toList := by
  cases cause <;> decide +kernel

theorem ConfigFault.continuesMarked_message_iff (w : Wording) (fault : ConfigFault) :
    ContinuesMarked (fault.message w).toList ↔ ∀ q ∈ fault.quotes w, ContinuesMarked q.toList := by
  cases fault with
  | missingManifest path =>
    unfold message
    rw [String.toList_append,
      continuesMarked_append_iff (by simp : '\n' ∉ "missing required file: ".toList)]
    simp [quotes]
  | noVersion path =>
    unfold message
    rw [String.toList_append, continuesMarked_append_iff
      (by simp : '\n' ∉ "could not parse package version from ".toList)]
    simp [quotes]
  | badPattern pattern =>
    have words : Separates "': ".toList := by constructor <;> simp [lineStart]
    unfold message
    simp only [String.toList_append, List.append_assoc]
    rw [continuesMarked_append_iff (by simp : '\n' ∉ "invalid schema pattern '".toList),
      continuesMarked_append_append_iff words]
    simp [quotes]
  | unreadable path cause =>
    have words : Separates ": ".toList := by constructor <;> simp [lineStart]
    unfold message
    simp only [String.toList_append, List.append_assoc]
    rw [continuesMarked_append_iff (by simp : '\n' ∉ "cannot read config file ".toList),
      continuesMarked_append_append_iff words,
      and_iff_left (continuesMarked_of_lf_not_mem (lf_not_mem_message cause))]
    simp [quotes]
  | malformed path text =>
    have words : Separates ": ".toList := by constructor <;> simp [lineStart]
    unfold message
    simp only [String.toList_append, List.append_assoc]
    rw [continuesMarked_append_iff (by simp : '\n' ∉ "invalid config file ".toList),
      continuesMarked_append_append_iff words]
    simp [quotes]
  | stated text =>
    unfold message
    simp [quotes]

theorem PolicyBreach.continuesMarked_message_iff (breach : PolicyBreach) :
    ContinuesMarked breach.message.toList ↔ ∀ q ∈ breach.quotes, ContinuesMarked q.toList := by
  cases breach with
  | noSchemaNotes changelog notes tag =>
    have front : '\n' ∉
        "schema-like constants changed, but no `Schema Notes` section was found in `".toList := by simp
    have or : Separates "` or `".toList := by constructor <;> simp [lineStart]
    have for_ : Separates "` for `".toList := by constructor <;> simp [lineStart]
    have remedy : Separates ("`. Add a `### Schema Notes` (or `## Schema Notes`) ".toList ++
        "section describing compatibility impact.".toList) := by constructor <;> simp [lineStart]
    unfold message
    simp only [String.toList_append, List.append_assoc]
    rw [continuesMarked_append_iff front, continuesMarked_append_append_iff or,
      continuesMarked_append_append_iff for_, continuesMarked_append_end_iff remedy]
    simp [quotes]
  | stated text =>
    unfold message
    simp [quotes]

namespace Failure

theorem continuesMarked_message_iff (w : Wording) (f : Failure) :
    ContinuesMarked (f.message w).toList ↔ ∀ q ∈ f.quotes w, ContinuesMarked q.toList := by
  have front : '\n' ∉ f.heading.toList := by cases f <;> simp [heading]
  rw [message, String.toList_append, continuesMarked_append_iff front]
  cases f with
  | config fault => exact fault.continuesMarked_message_iff w
  | linkage violation => exact violation.continuesMarked_message_iff
  | policy breach => exact breach.continuesMarked_message_iff
  | git text => simp [detail, quotes]
  | gitCommand text => simp [detail, quotes]
  | io cause => simp [detail, quotes, continuesMarked_of_lf_not_mem (lf_not_mem_message cause)]

/-- The failure behind a failure quotes nothing else. -/
theorem continuesMarked_cause {w : Wording} {f : Failure} {text : String}
    (h : f.cause? = some text) (hf : ContinuesMarked (f.message w).toList) :
    ContinuesMarked text.toList := by
  rw [continuesMarked_message_iff] at hf
  cases f with
  | linkage violation =>
    cases h
    exact violation.continuesMarked_message_iff.2 hf
  | git text =>
    cases h
    exact hf _ List.mem_cons_self
  | io cause =>
    cases h
    exact continuesMarked_of_lf_not_mem (lf_not_mem_message cause)
  | _ => cases h

/-- **Nothing but what it quotes** breaks a line of a failure's wording. -/
theorem continuesMarked_chain_iff (w : Wording) (f : Failure) :
    ContinuesMarked (f.chain w).toList ↔ ∀ q ∈ f.quotes w, ContinuesMarked q.toList := by
  have colon : Separates ": ".toList := by constructor <;> simp [lineStart]
  rw [← continuesMarked_message_iff]
  cases hc : f.cause? with
  | none => rw [chain_of_no_cause hc]
  | some text =>
    rw [chain_of_cause hc, String.toList_append, String.toList_append, List.append_assoc,
      continuesMarked_append_append_iff colon]
    exact and_iff_left_of_imp (continuesMarked_cause hc)

end Failure

/-- **Nothing but what it quotes** breaks a line of a notice's wording. -/
theorem Notice.continuesMarked_text_iff (n : Notice) :
    ContinuesMarked n.text.toList ↔ ∀ q ∈ n.quotes, ContinuesMarked q.toList := by
  cases n with
  | noChangeRange =>
    have whole : '\n' ∉ "no diff range available; skipping schema-change gate".toList := by simp
    exact iff_of_true (continuesMarked_of_lf_not_mem whole) (List.forall_mem_nil _)
  | diffUnavailable range reason =>
    have front : '\n' ∉ "failed to inspect git diff for ".toList := by simp
    have close : Separates "); skipping schema-change gate".toList := by
      constructor <;> simp [lineStart]
    have joined : (Notice.text (.diffUnavailable range reason)).toList =
        "failed to inspect git diff for ".toList ++ ((range ++ " (" ++ reason).toList ++
          "); skipping schema-change gate".toList) := by
      unfold Notice.text
      simp only [String.toList_append, List.append_assoc]
    rw [joined, continuesMarked_append_iff front, continuesMarked_append_end_iff close]
    simp [quotes]

/-! ### Where the quoted texts come from -/

section

variable (files : Files.View) (root : String) (config : Config) (env : Change.Environment)
  (repo : Change.Repository) (wording : Wording)

/-- The texts that the gate may quote. -/
inductive Quotable : String → Prop
  | setting {text} (h : text ∈ config.paths.manifest :: config.paths.changelog ::
      config.paths.releaseIndex :: config.schema.extraPatterns) : Quotable text
  /-- What the reader of patterns says of one. -/
  | explanation {pattern} (h : pattern ∈ config.schema.extraPatterns) :
    Quotable (wording.pattern pattern)
  /-- The tag of the declared version, its link, and the path of its release notes. -/
  | version {version text} (hversion : readVersion files root config.paths.manifest = .ok version)
    (h : text ∈ [Release.Tag.name ⟨version⟩, Release.Tag.indexLink ⟨version⟩,
      (Release.Artifacts.of root config.paths ⟨version⟩).releaseNotes]) : Quotable text
  /-- The revisions of a range, and how version control fails on it. -/
  | noDiff {range f} (hrange : Change.resolve? env repo = some range)
    (hdiff : repo.diff range config.schema.diffPaths = .error f) :
    Quotable (range.text ++ " (" ++ f.message)
  /-- What any other failure of a diff quotes. -/
  | diffFailure {range f text} (hrange : Change.resolve? env repo = some range)
    (hdiff : repo.diff range config.schema.diffPaths = .error f) (h : text ∈ f.quotes wording) :
    Quotable text

end

section

variable {files : Files.View} {root : String} {config : Config} {env : Change.Environment}
  {repo : Change.Repository} {wording : Wording} {f : Failure} {q : String}

theorem Quotable.of_mem_paths
    (h : q ∈ [config.paths.manifest, config.paths.changelog, config.paths.releaseIndex]) :
    Quotable files root config env repo wording q :=
  .setting (List.mem_append_left config.schema.extraPatterns h)

theorem Change.Detector.mem_of_ofPatterns_eq_error {patterns : List String} {p : String}
    (h : ofPatterns patterns = .error p) : p ∈ patterns := by
  unfold ofPatterns firstInvalid? at h
  split at h
  · next hfind =>
    cases h
    exact List.mem_of_find?_eq_some hfind
  · cases h

theorem quotable_of_detectorOf (h : detectorOf config = .error f) (hq : q ∈ f.quotes wording) :
    Quotable files root config env repo wording q := by
  unfold detectorOf at h
  split at h
  · cases h
  · next p hp =>
    cases h
    have hmem : p ∈ config.schema.extraPatterns := Change.Detector.mem_of_ofPatterns_eq_error hp
    rcases List.mem_pair.1 hq with rfl | rfl
    · exact .setting (by simp [hmem])
    · exact .explanation hmem

theorem quotable_of_readVersion (h : readVersion files root config.paths.manifest = .error f)
    (hq : q ∈ f.quotes wording) : Quotable files root config env repo wording q := by
  rcases readVersion_eq_error_iff.1 h with ⟨-, rfl⟩ | ⟨cause, -, -, rfl⟩ | ⟨text, -, -, rfl⟩
  · cases List.mem_singleton.1 hq
    exact .of_mem_paths (by simp)
  · cases hq
  · cases List.mem_singleton.1 hq
    exact .of_mem_paths (by simp)

theorem quotable_of_readArtifact {a : Release.Artifacts} {path : String}
    (h : Release.readArtifact files a path = .error f)
    (hpath : Quotable files root config env repo wording path) (hq : q ∈ f.quotes wording) :
    Quotable files root config env repo wording q := by
  rcases Release.isMissing_or_isIo_of_readArtifact h with rfl | ⟨cause, rfl⟩
  · cases List.mem_singleton.1 hq
    exact hpath
  · cases hq

/-- **What a failure of the gate quotes** comes from the settings, the version or version control. -/
theorem quotable_of_runGate (h : runGate files root config env repo = .error f)
    (hq : q ∈ f.quotes wording) : Quotable files root config env repo wording q := by
  obtain ⟨version, c, before, h⟩ := runGate_eq_error_iff.1 h
  have changelog : Quotable files root config env repo wording config.paths.changelog :=
    .of_mem_paths (by simp)
  have index : Quotable files root config env repo wording config.paths.releaseIndex :=
    .of_mem_paths (by simp)
  have declared {text : String} (hc : Check.version < c)
      (h : text ∈ [Release.Tag.name ⟨version⟩, Release.Tag.indexLink ⟨version⟩,
        (Release.Artifacts.of root config.paths ⟨version⟩).releaseNotes]) :
      Quotable files root config env repo wording text :=
    .version (before .version hc) h
  cases h with
  | badPattern h => exact quotable_of_detectorOf h hq
  | noVersion h => exact quotable_of_readVersion h hq
  | noChangelog h => exact quotable_of_readArtifact h changelog hq
  | noHeading =>
    rcases List.mem_pair.1 hq with rfl | rfl
    · exact changelog
    · exact declared (by decide) (by simp)
  | noIndex h => exact quotable_of_readArtifact h index hq
  | noLink =>
    rcases List.mem_pair.1 hq with rfl | rfl
    · exact index
    · exact declared (by decide) (by simp)
  | noReleaseNotes =>
    cases List.mem_singleton.1 hq
    exact declared (by decide) (by simp)
  | noDiff hrange hdiff => exact .diffFailure hrange hdiff hq
  | undocumented _ h =>
    have notes : Quotable files root config env repo wording
        (Release.Artifacts.of root config.paths ⟨version⟩).releaseNotes :=
      declared (by decide) (by simp)
    rcases Release.requireSchemaNotes_eq_error_iff.1 h with h | ⟨-, h | ⟨-, rfl⟩⟩
    · exact quotable_of_readArtifact h changelog hq
    · exact quotable_of_readArtifact h notes hq
    · simp only [Failure.quotes, PolicyBreach.quotes, List.mem_cons, List.not_mem_nil,
        or_false] at hq
      rcases hq with rfl | rfl | rfl
      · exact changelog
      · exact notes
      · exact declared (by decide) (by simp)

/-- **What a notice quotes** is the range, and how version control fails on it. -/
theorem quotable_of_notice {r : Report} (h : runGate files root config env repo = .ok r)
    {n : Notice} (hn : n ∈ r.notices) (hq : q ∈ n.quotes) :
    Quotable files root config env repo wording q := by
  obtain ⟨-, -, schema⟩ := runGate_eq_ok_iff.1 h
  generalize r.notices = notices at schema hn
  generalize r.schema = outcome at schema
  cases schema with
  | noRange =>
    cases List.mem_singleton.1 hn
    cases hq
  | noDiff hrange hdiff =>
    cases List.mem_singleton.1 hn
    cases List.mem_singleton.1 hq
    exact .noDiff hrange hdiff
  | _ => cases hn

end

namespace CommandLine

/-! ### The lines of a run -/

/-- The texts that a verdict quotes. -/
def quotesOf (wording : Wording) : Except Failure Report → List String
  | .ok r => r.notices.flatMap Notice.quotes
  | .error f => f.quotes wording

/-- The texts that a run may quote. -/
inductive World.Quotable (w : World) (o : Options) : String → Prop
  | configFile : Quotable w o (configPath (w.root o) o)
  /-- What the reader of configurations says of the file. -/
  | explanation {text} (h : w.files.read (configPath (w.root o) o) = .ok text) :
    Quotable w o (w.console.wording.document text)
  | gate {config text} (hload : Config.load w.files (w.root o) o.config = .ok config)
    (h : ReleaseGate.Quotable w.files (w.root o) config (.ofLookup w.lookup)
      (w.openRepository config.backend (w.root o)) w.console.wording text) : Quotable w o text

variable {w : World} {o : Options} {args : List String} {q : String}

theorem World.quotable_of_load {f : Failure}
    (h : Config.load w.files (w.root o) o.config = .error f)
    (hq : q ∈ f.quotes w.console.wording) : w.Quotable o q := by
  have ofFile (h : Config.readFile w.files (configPath (w.root o) o) = .error f) :
      w.Quotable o q := by
    unfold Config.readFile at h
    split at h
    · cases h
      cases List.mem_singleton.1 hq
      exact .configFile
    · next text hread =>
      split at h
      · cases h
      · cases h
        rcases List.mem_pair.1 hq with rfl | rfl
        · exact .configFile
        · exact .explanation hread
  unfold configPath at ofFile
  cases hpath : o.config with
  | some path =>
    rw [hpath] at h ofFile
    exact ofFile h
  | none =>
    rw [hpath] at h ofFile
    simp only [Config.load] at h
    split at h
    · exact ofFile h
    · cases h

theorem World.quotable_of_mem_quotesOf (hq : q ∈ quotesOf w.console.wording (verdict w o)) :
    w.Quotable o q := by
  cases hv : verdict w o with
  | ok r =>
    rw [hv] at hq
    obtain ⟨n, hn, hq⟩ := List.mem_flatMap.1 hq
    obtain ⟨config, hload, hgate⟩ := verdict_eq_ok_iff.1 hv
    exact .gate hload (quotable_of_notice hgate hn hq)
  | error f =>
    rw [hv] at hq
    rcases bind_eq_error_iff.1 hv with h | ⟨config, hload, hgate⟩
    · exact quotable_of_load h hq
    · exact .gate hload (quotable_of_runGate hgate hq)

theorem isMarked_ofNotice_iff (n : Notice) :
    IsMarked ((Line.ofNotice n).print false) ↔ ∀ q ∈ n.quotes, ContinuesMarked q.toList := by
  have kind : '\n' ∉ "INFO: ".toList := by simp
  rw [← n.continuesMarked_text_iff]
  exact isMarked_print_iff kind rfl

theorem isMarked_error_iff (wording : Wording) (f : Failure) :
    IsMarked ((Line.error (f.chain wording)).print false) ↔
      ∀ q ∈ f.quotes wording, ContinuesMarked q.toList := by
  have kind : '\n' ∉ "ERROR: ".toList := by simp
  rw [← f.continuesMarked_chain_iff]
  exact isMarked_print_iff kind rfl

theorem isMarked_success {tag : String} (h : '\n' ∉ tag.toList) :
    IsMarked ((Line.success tag).print false) := by
  have kind : '\n' ∉ "OK (version ".toList := by simp
  have close : '\n' ∉ (tag ++ ")").toList := by simp [h]
  refine (isMarked_print_iff kind ?_).2 (continuesMarked_of_lf_not_mem close)
  simp only [Line.text, String.append_assoc]
  rfl

theorem isWholeLines_logged (w : World) (steps : List Diagnostic) :
    IsWholeLines (w.logged steps) := by
  unfold World.logged
  split
  · exact w.console.log_lines _ _
  · exact .inl rfl

/-- The lines of a verdict bear the mark exactly if what it quotes goes on with the mark. -/
theorem isMarked_ofVerdict_iff :
    IsMarked (Outcome.ofVerdict false w.console.wording (verdict w o)).stderr ↔
      ∀ q ∈ quotesOf w.console.wording (verdict w o), ContinuesMarked q.toList := by
  have empty : IsMarked "" := by decide
  cases hv : verdict w o with
  | ok r =>
    have hlength := (verdict_eq_ok_iff.1 hv).length_notices
    simp only [Outcome.ofVerdict, quotesOf]
    cases hn : r.notices with
    | nil => simpa using empty
    | cons n rest =>
      cases rest with
      | nil => simpa using isMarked_ofNotice_iff n
      | cons =>
        rw [hn] at hlength
        split at hlength <;> simp at hlength
  | error f => exact isMarked_error_iff _ f

/-- **The mark on every line.** Every line of the output stream bears the mark. Every line of the
error stream does so exactly if those do that the run tells of its steps, and each text that its
verdict quotes goes on, after a line feed of its own, with the mark; a run that is cut off writes
another's text in place of a verdict. And a verdict quotes nothing but the options, the settings and
what is said of them, the declared version and what is said of the changes. -/
theorem isMarked_run_iff (hargs : Command.ofArguments args = .run o)
    (hplain : w.isColoured = false) :
    IsMarked (run w args).stdout ∧
      (IsMarked (run w args).stderr ↔
        IsMarked (w.logged (diagnostics w o)) ∧
          if isCutOff w o then IsMarked w.console.abortText
          else ∀ q ∈ quotesOf w.console.wording (verdict w o), ContinuesMarked q.toList) ∧
      ∀ q ∈ quotesOf w.console.wording (verdict w o), w.Quotable o q := by
  have empty : IsMarked "" := by decide
  have logged := isMarked_append_iff (isWholeLines_logged w (diagnostics w o))
  refine ⟨?_, ?_, fun q => World.quotable_of_mem_quotesOf⟩
  · cases hcut : isCutOff w o with
    | true =>
      rw [run_of_isCutOff hargs hcut]
      exact empty
    | false =>
      rw [run_of_not_isCutOff hargs hcut, hplain]
      cases hv : verdict w o with
      | ok r => exact isMarked_success (verdict_eq_ok_iff.1 hv).lf_not_mem_tag
      | error f => exact empty
  · cases hcut : isCutOff w o with
    | true =>
      rw [run_of_isCutOff hargs hcut]
      exact logged _
    | false =>
      rw [run_of_not_isCutOff hargs hcut, hplain]
      exact (logged _).trans (and_congr_right' isMarked_ofVerdict_iff)

/-- A directory in which the configuration names a manifest whose path goes over two lines. -/
def brokenPath : World where
  directory := "/"
  lookup _ := none
  files := Files.Tree.view
    ⟨[History.asciiFile "release-readiness.toml" "[paths]\nmanifest = \"a\\nb\"\n"]⟩ []
  openRepository _ _ := Change.Script.empty.repository

/-- The path is quoted, and its second line goes on without the mark. -/
theorem isMarked_run_iff_brokenPath :
    verdict brokenPath .none = .error (.config (.missingManifest "a\nb")) ∧
      ¬ContinuesMarked "a\nb".toList ∧ ¬IsMarked (run brokenPath []).stderr := by
  have hv : verdict brokenPath .none = .error (.config (.missingManifest "a\nb")) := by
    decide +kernel
  have hq : ¬ContinuesMarked "a\nb".toList := by decide +kernel
  have hcut : isCutOff brokenPath .none = false := by decide +kernel
  obtain ⟨-, h, -⟩ :=
    @isMarked_run_iff brokenPath _ _ (show Command.ofArguments [] = .run .none from rfl) rfl
  rw [hv, hcut] at h
  exact ⟨hv, hq, fun marked => hq ((h.1 marked).2 _ (List.mem_singleton.2 rfl))⟩

/-- The message about such a path is printed on two lines, and the second one bears no mark. -/
theorem run_stderr_brokenPath :
    Command.ofArguments [] = .run .none ∧ brokenPath.isColoured = false ∧
      (run brokenPath []).stderr =
        "[release-readiness] ERROR: Configuration error: missing required file: a\nb\n" ∧
      "b".toList ∈ Text.lines (run brokenPath []).stderr.toList ∧
      ¬IsMarked (run brokenPath []).stderr := by
  decide +kernel

end CommandLine

end ReleaseGate
