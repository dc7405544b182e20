import ReleaseGate.Change.Patch
import ReleaseGate.Change.Signal

/-!
# Reading a patch

A patch is written out line by line, and the reader of signals sees nothing but these lines: a
removed line `-- x` is written like the header `--- x`. Only the bit of memory that the reader
carries from line to line tells them apart.

* `FilePatch.WellFormed` is the form of a file's patch;
* `placedLines` lists the lines of a patch, each with whether it stands in the body of a hunk;
* `Readable inHunk xs` is the invariant: a reader whose bit is `inHunk` may meet the placed lines
  `xs`. Each kind of line keeps it (`signals_of_isBody` and its neighbours), so a whole run does
  (`firstSignalAmong_of_readable`), and well-formed patches are readable
  (`readable_placedLines`);
* `firstSignal?_renderPatch` is the result: the first signal is the first changed line of a body
  that carries a marker, with its number among all lines.
-/

namespace ReleaseGate

namespace Text

theorem dropCr_cons {c : Char} (h : c ≠ '\r') (s : List Char) :
    dropCr (c :: s) = c :: dropCr s := by
  cases s <;> simp [dropCr, h]

/-- A line that starts with a carriage return keeps it or was nothing else. -/
theorem dropCr_cr_cons (s : List Char) :
    dropCr ('\r' :: s) = [] ∨ dropCr ('\r' :: s) = '\r' :: dropCr s := by
  cases s with
  | nil => exact .inl rfl
  | cons c s => exact .inr rfl

/-- The carriage return at the end of a line is not part of what the line starts with. -/
theorem prefix_dropCr_iff {p : List Char} (hp : '\r' ∉ p) (l : List Char) :
    p <+: dropCr l ↔ p <+: l := by
  induction p generalizing l with
  | nil => simp
  | cons a p ih =>
    have ha : a ≠ '\r' := fun e => hp (e ▸ List.mem_cons_self)
    have hp' : '\r' ∉ p := fun m => hp (List.mem_cons_of_mem _ m)
    cases l with
    | nil => simp [dropCr]
    | cons c s =>
      by_cases hc : c = '\r'
      · subst hc
        rcases dropCr_cr_cons s with h | h <;> simp [h, ha]
      · rw [dropCr_cons hc, List.cons_prefix_cons, List.cons_prefix_cons, ih hp']

theorem startsWith_dropCr {p : List Char} (hp : '\r' ∉ p) (l : List Char) :
    startsWith p (dropCr l) = startsWith p l := by
  rw [Bool.eq_iff_iff, startsWith_iff, startsWith_iff, prefix_dropCr_iff hp]

end Text

namespace Change

/-! ### Well-formed patches -/

/-- A line that may stand among the headers of a file: it starts like no line that has a meaning of
its own, or it names the old or the new file. -/
def IsHeader (line : List Char) : Prop :=
  (¬ ['+'] <+: line ∧ ¬ ['-'] <+: line ∧ ¬ "@@".toList <+: line ∧ ¬ "diff ".toList <+: line) ∨
    "---".toList <+: line ∨ "+++".toList <+: line

instance (line : List Char) : Decidable (IsHeader line) :=
  inferInstanceAs (Decidable (_ ∨ _))

/-- A line of the body of a hunk: a sign and any content. -/
def IsBody (line : List Char) : Prop := ∃ sign ∈ ['+', '-', ' ', '\\'], [sign] <+: line

instance (line : List Char) : Decidable (IsBody line) :=
  decidable_of_iff (['+', '-', ' ', '\\'].any fun sign => [sign] <+: line) (by simp [IsBody])

/-- The form of the patch of a file. Nothing is said of what follows the fronts of its lines. -/
structure FilePatch.WellFormed (p : FilePatch (List Char)) : Prop where
  opening : "diff ".toList <+: p.opening
  headers : ∀ l ∈ p.headers, IsHeader l
  headings : ∀ h ∈ p.hunks, "@@".toList <+: h.heading
  bodies : ∀ h ∈ p.hunks, ∀ l ∈ h.body, IsBody l
  noLf : ∀ l ∈ p.lines, '\n' ∉ l

theorem FilePatch.wellFormed_iff (p : FilePatch (List Char)) :
    p.WellFormed ↔ "diff ".toList <+: p.opening ∧ (∀ l ∈ p.headers, IsHeader l) ∧
      (∀ h ∈ p.hunks, "@@".toList <+: h.heading) ∧ (∀ h ∈ p.hunks, ∀ l ∈ h.body, IsBody l) ∧
      ∀ l ∈ p.lines, '\n' ∉ l :=
  ⟨fun ⟨o, hs, gs, bs, n⟩ => ⟨o, hs, gs, bs, n⟩, fun ⟨o, hs, gs, bs, n⟩ => ⟨o, hs, gs, bs, n⟩⟩

instance (p : FilePatch (List Char)) : Decidable p.WellFormed :=
  decidable_of_iff _ p.wellFormed_iff.symm

variable {Line : Type}

/-- The lines of a hunk, each with whether it stands in the body. -/
def Hunk.placed (h : Hunk Line) : List (Bool × Line) :=
  (false, h.heading) :: h.body.map (true, ·)

/-- The lines of a file's patch, each with whether it stands in the body of a hunk. -/
def FilePatch.placed (p : FilePatch Line) : List (Bool × Line) :=
  (false, p.opening) :: p.headers.map (false, ·) ++ p.hunks.flatMap Hunk.placed

/-- The lines of a patch, each with whether it stands in the body of a hunk. -/
def placedLines (ps : List (FilePatch Line)) : List (Bool × Line) := ps.flatMap FilePatch.placed

theorem Hunk.map_placed (h : Hunk Line) : h.placed.map (·.2) = h.lines := by
  simp [placed, lines, Function.comp_def]

theorem FilePatch.map_placed (p : FilePatch Line) : p.placed.map (·.2) = p.lines := by
  simp [placed, lines, List.map_flatMap, Hunk.map_placed, Function.comp_def]

theorem map_placedLines (ps : List (FilePatch Line)) :
    (placedLines ps).map (·.2) = patchLines ps := by
  simp [placedLines, patchLines, List.map_flatMap, FilePatch.map_placed]

/-- Whether a line of a body is an added or removed one whose content carries a marker. The
carriage return at its end is no part of the content. -/
def Detector.marksLine (d : Detector) : List Char → Bool
  | sign :: content => (sign == '+' || sign == '-') && d.isMarker (Text.dropCr content)
  | [] => false

/-! ### One line -/

theorem opensFile_dropCr (l : List Char) : opensFile (Text.dropCr l) = opensFile l :=
  Text.startsWith_dropCr (by decide) l

theorem opensHunk_dropCr (l : List Char) : opensHunk (Text.dropCr l) = opensHunk l :=
  Text.startsWith_dropCr (by decide) l

theorem namesFile_dropCr (l : List Char) : namesFile (Text.dropCr l) = namesFile l := by
  rw [namesFile, namesFile, Text.startsWith_dropCr (by decide), Text.startsWith_dropCr (by decide)]

/-- Two fronts of a line with different first characters exclude each other. -/
theorem startsWith_cons_eq_false {a c : Char} (p s : List Char) (h : a ≠ c) :
    Text.startsWith (a :: p) (c :: s) = false := by
  simp [Text.startsWith, Text.stripStart?, h]

variable (d : Detector)

/-- The line that opens a file is no signal and leaves the hunk. -/
theorem signals_of_opening {l : List Char} (h : "diff ".toList <+: l) (inHunk : Bool) :
    d.signals inHunk (Text.dropCr l) = false ∧ hunkAfter inHunk (Text.dropCr l) = false := by
  have ho : opensFile (Text.dropCr l) = true := by
    rw [opensFile_dropCr]
    exact Text.startsWith_iff.2 h
  simp [Detector.signals, hunkAfter, ho]

/-- The heading of a hunk is no signal and enters the hunk. -/
theorem signals_of_heading {l : List Char} (h : "@@".toList <+: l) (inHunk : Bool) :
    d.signals inHunk (Text.dropCr l) = false ∧ hunkAfter inHunk (Text.dropCr l) = true := by
  have hh : opensHunk (Text.dropCr l) = true := by
    rw [opensHunk_dropCr]
    exact Text.startsWith_iff.2 h
  have ho : opensFile (Text.dropCr l) = false := by
    obtain ⟨s, rfl⟩ := h
    rw [opensFile_dropCr]
    exact startsWith_cons_eq_false _ _ (by decide)
  simp [Detector.signals, hunkAfter, hh, ho]

/-- Outside of hunks a header is no signal, and the reader stays outside. -/
theorem signals_of_isHeader {l : List Char} (h : IsHeader l) :
    d.signals false (Text.dropCr l) = false ∧ hunkAfter false (Text.dropCr l) = false := by
  rcases h with ⟨hp, hm, hh, ho⟩ | hn
  · have ho' : opensFile (Text.dropCr l) = false := by
      rwa [opensFile_dropCr, opensFile, ← Bool.not_eq_true, Text.startsWith_iff]
    have hh' : opensHunk (Text.dropCr l) = false := by
      rwa [opensHunk_dropCr, opensHunk, ← Bool.not_eq_true, Text.startsWith_iff]
    have hc : changedContent? (Text.dropCr l) = none := by
      rw [← Text.prefix_dropCr_iff (by decide)] at hp hm
      cases hl : Text.dropCr l with
      | nil => rfl
      | cons c s =>
        rw [hl] at hp hm
        have : ¬(c = '+' ∨ c = '-') := by
          rintro (rfl | rfl)
          · exact hp ⟨s, rfl⟩
          · exact hm ⟨s, rfl⟩
        simpa [changedContent?] using this
    simp [Detector.signals, hunkAfter, ho', hh', hc]
  · have hn' : namesFile (Text.dropCr l) = true := by
      rw [namesFile_dropCr, namesFile, Bool.or_eq_true, Text.startsWith_iff, Text.startsWith_iff]
      exact hn.symm
    have hf : opensFile l = false ∧ opensHunk l = false := by
      rcases hn with ⟨s, rfl⟩ | ⟨s, rfl⟩ <;>
        exact ⟨startsWith_cons_eq_false _ _ (by decide), startsWith_cons_eq_false _ _ (by decide)⟩
    simp [Detector.signals, hunkAfter, opensFile_dropCr, opensHunk_dropCr, hf, hn']

/-- Inside a hunk a line of its body is a signal exactly if it is changed and carries a marker,
whatever its text starts with, and the reader stays inside. -/
theorem signals_of_isBody {l : List Char} (h : IsBody l) :
    d.signals true (Text.dropCr l) = d.marksLine l ∧ hunkAfter true (Text.dropCr l) = true := by
  obtain ⟨sign, hs, content, rfl⟩ := h
  have hne : sign ≠ '\r' ∧ 'd' ≠ sign ∧ '@' ≠ sign := by
    simp only [List.mem_cons, List.not_mem_nil, or_false] at hs
    rcases hs with rfl | rfl | rfl | rfl <;> decide
  have ho : opensFile (sign :: content) = false := startsWith_cons_eq_false _ _ hne.2.1
  have hh : opensHunk (sign :: content) = false := startsWith_cons_eq_false _ _ hne.2.2
  have hl : Text.dropCr (sign :: content) = sign :: Text.dropCr content := Text.dropCr_cons hne.1 _
  constructor
  · rw [List.singleton_append, Detector.signals, opensFile_dropCr, opensHunk_dropCr, ho, hh, hl]
    by_cases hc : sign = '+' ∨ sign = '-' <;> simp [changedContent?, Detector.marksLine, hc]
  · simp [hunkAfter, opensFile_dropCr, opensHunk_dropCr, ho, hh]

/-! ### A run over the lines -/

/-- Placed lines that a reader may meet whose bit of memory is the given one. -/
inductive Readable : (inHunk : Bool) → List (Bool × List Char) → Prop
  | nil (inHunk : Bool) : Readable inHunk []
  | opening {inHunk : Bool} {l : List Char} {xs : List (Bool × List Char)} :
    "diff ".toList <+: l → Readable false xs → Readable inHunk ((false, l) :: xs)
  | header {l : List Char} {xs : List (Bool × List Char)} :
    IsHeader l → Readable false xs → Readable false ((false, l) :: xs)
  | heading {inHunk : Bool} {l : List Char} {xs : List (Bool × List Char)} :
    "@@".toList <+: l → Readable true xs → Readable inHunk ((false, l) :: xs)
  | body {l : List Char} {xs : List (Bool × List Char)} :
    IsBody l → Readable true xs → Readable true ((true, l) :: xs)

/-- The first changed line of a body that carries a marker, among placed lines that are numbered
from `first` on. -/
def Detector.firstMarked? (first : Nat) (xs : List (Bool × List Char)) : Option Signal :=
  ((xs.zipIdx first).find? fun x => x.1.1 && d.marksLine x.1.2).map fun x =>
    ⟨x.2, Text.dropCr x.1.2⟩

theorem Detector.firstMarked?_cons (first : Nat) (x : Bool × List Char)
    (xs : List (Bool × List Char)) :
    d.firstMarked? first (x :: xs) =
      if x.1 && d.marksLine x.2 then some ⟨first, Text.dropCr x.2⟩
      else d.firstMarked? (first + 1) xs := by
  rw [firstMarked?, List.zipIdx_cons, List.find?_cons]
  cases x.1 && d.marksLine x.2 <;> simp [firstMarked?]

/-- A reader that meets readable lines finds the first changed line of a body that carries a
marker. -/
theorem firstSignalAmong_of_readable {inHunk : Bool} {xs : List (Bool × List Char)}
    (h : Readable inHunk xs) (seen : Nat) :
    d.firstSignalAmong inHunk seen (xs.map fun x => Text.dropCr x.2) =
      d.firstMarked? (seen + 1) xs := by
  -- the induction is on the invariant: its index is the bit that the reader carries
  induction h generalizing seen with
  | nil b => rfl
  | @opening b l xs hl _ ih =>
    obtain ⟨hs, ha⟩ := signals_of_opening d hl b
    simp [Detector.firstSignalAmong, Detector.firstMarked?_cons, hs, ha, ih]
  | header hl _ ih =>
    obtain ⟨hs, ha⟩ := signals_of_isHeader d hl
    simp [Detector.firstSignalAmong, Detector.firstMarked?_cons, hs, ha, ih]
  | @heading b l xs hl _ ih =>
    obtain ⟨hs, ha⟩ := signals_of_heading d hl b
    simp [Detector.firstSignalAmong, Detector.firstMarked?_cons, hs, ha, ih]
  | body hl _ ih =>
    obtain ⟨hs, ha⟩ := signals_of_isBody d hl
    simp [Detector.firstSignalAmong, Detector.firstMarked?_cons, hs, ha, ih]

/-! ### Well-formed patches are readable -/

/-- A body may be followed by whatever a reader may meet inside a hunk. -/
theorem readable_body {body : List (List Char)} {xs : List (Bool × List Char)}
    (h : ∀ l ∈ body, IsBody l) (hx : Readable true xs) :
    Readable true (body.map (true, ·) ++ xs) := by
  induction body with
  | nil => exact hx
  | cons l ls ih =>
    exact .body (h l List.mem_cons_self) (ih fun m hm => h m (List.mem_cons_of_mem _ hm))

/-- Headers may be followed by whatever a reader may meet outside of hunks. -/
theorem readable_headers {headers : List (List Char)} {xs : List (Bool × List Char)}
    (h : ∀ l ∈ headers, IsHeader l) (hx : Readable false xs) :
    Readable false (headers.map (false, ·) ++ xs) := by
  induction headers with
  | nil => exact hx
  | cons l ls ih =>
    exact .header (h l List.mem_cons_self) (ih fun m hm => h m (List.mem_cons_of_mem _ hm))

/-- Hunks may be followed by lines that may be met both inside and outside of hunks: there need not
be any hunk. -/
theorem readable_hunks {hunks : List (Hunk (List Char))} {xs : List (Bool × List Char)}
    (hh : ∀ h ∈ hunks, "@@".toList <+: h.heading) (hb : ∀ h ∈ hunks, ∀ l ∈ h.body, IsBody l)
    (hx : ∀ b, Readable b xs) (inHunk : Bool) :
    Readable inHunk (hunks.flatMap Hunk.placed ++ xs) := by
  induction hunks generalizing inHunk with
  | nil => exact hx inHunk
  | cons k ks ih =>
    rw [List.flatMap_cons, List.append_assoc, Hunk.placed, List.cons_append]
    refine .heading (hh k List.mem_cons_self) (readable_body (hb k List.mem_cons_self) ?_)
    exact ih (fun h hm => hh h (List.mem_cons_of_mem _ hm))
      (fun h hm => hb h (List.mem_cons_of_mem _ hm)) true

/-- A reader may meet a well-formed patch whether or not it stands in a hunk. -/
theorem readable_placedLines {ps : List (FilePatch (List Char))} (h : ∀ p ∈ ps, p.WellFormed)
    (inHunk : Bool) : Readable inHunk (placedLines ps) := by
  induction ps generalizing inHunk with
  | nil => exact .nil inHunk
  | cons p ps ih =>
    have hp : p.WellFormed := h p List.mem_cons_self
    rw [placedLines, List.flatMap_cons, FilePatch.placed, List.append_assoc, List.cons_append]
    refine .opening hp.opening (readable_headers hp.headers ?_)
    exact readable_hunks hp.headings hp.bodies
      (fun b => ih (fun q hq => h q (List.mem_cons_of_mem _ hq)) b) false

/-- A well-formed patch that was written out is read back line by line. -/
theorem lines_renderPatch {ps : List (FilePatch (List Char))} (h : ∀ p ∈ ps, p.WellFormed) :
    Text.lines (renderPatch ps) = (placedLines ps).map fun x => Text.dropCr x.2 := by
  have hl : ∀ l ∈ patchLines ps, '\n' ∉ l := by
    intro l hl
    obtain ⟨p, hp, hlp⟩ := List.mem_flatMap.1 hl
    exact (h p hp).noLf l hlp
  rw [renderPatch, Text.lines_unlines hl, ← map_placedLines, List.map_map]
  rfl

theorem Detector.isSome_firstMarked? (first : Nat) (xs : List (Bool × List Char)) :
    (d.firstMarked? first xs).isSome ↔ ∃ x ∈ xs, x.1 = true ∧ d.marksLine x.2 = true := by
  induction xs generalizing first with
  | nil => simp [firstMarked?]
  | cons x xs ih =>
    simp only [List.mem_cons, exists_eq_or_imp, ← ih (first + 1), firstMarked?_cons]
    by_cases h : x.1 = true ∧ d.marksLine x.2 = true <;> simp [h]

theorem mem_placedLines_true_iff {ps : List (FilePatch Line)} {l : Line} :
    (true, l) ∈ placedLines ps ↔ ∃ p ∈ ps, ∃ h ∈ p.hunks, l ∈ h.body := by
  simp [placedLines, FilePatch.placed, Hunk.placed]

/-- A well-formed patch touches a schema exactly if a line of a body carries a marker. -/
theorem isAffected_renderPatch {ps : List (FilePatch (List Char))} (h : ∀ p ∈ ps, p.WellFormed) :
    d.isAffected (renderPatch ps) = true ↔
      ∃ p ∈ ps, ∃ k ∈ p.hunks, ∃ l ∈ k.body, d.marksLine l = true := by
  rw [Detector.isAffected, Detector.firstSignal?, lines_renderPatch h,
    firstSignalAmong_of_readable d (readable_placedLines h false), Detector.isSome_firstMarked?]
  constructor
  · rintro ⟨⟨_, l⟩, hx, rfl, hl⟩
    obtain ⟨p, hp, k, hk, hm⟩ := mem_placedLines_true_iff.1 hx
    exact ⟨p, hp, k, hk, l, hm, hl⟩
  · rintro ⟨p, hp, k, hk, l, hm, hl⟩
    exact ⟨(true, l), mem_placedLines_true_iff.2 ⟨p, hp, k, hk, hm⟩, rfl, hl⟩

/-- **The reader finds in a well-formed patch exactly what stands there**: the first added or
removed line of a body that carries a marker, with its number among all lines of the patch, and
nothing where there is no such line. -/
theorem firstSignal?_renderPatch (ps : List (FilePatch (List Char)))
    (h : ∀ p ∈ ps, p.WellFormed) :
    d.firstSignal? (renderPatch ps) =
      (((placedLines ps).zipIdx 1).find? fun x => x.1.1 && d.marksLine x.1.2).map fun x =>
        ⟨x.2, Text.dropCr x.1.2⟩ := by
  rw [Detector.firstSignal?, lines_renderPatch h]
  exact firstSignalAmong_of_readable d (readable_placedLines h false) 0

/-- A removed line `-- schema_version` of a file whose very headers look like it. -/
theorem firstSignal?_renderPatch_dashes :
    let p : FilePatch (List Char) :=
      { opening := "diff --git a/schema_version b/schema_version".toList
        headers := ["--- schema_version".toList, "+++ schema_version".toList]
        hunks := [⟨"@@ -1,0 +1 @@".toList, ["+diff SCHEMA".toList]⟩,
          ⟨"@@ -7 +7 @@ schema_version".toList,
            ["+++ fn".toList, "--- schema_version\r".toList, "\\ schema_version".toList]⟩] }
    (∀ q ∈ [p], q.WellFormed) ∧
      (⟨[]⟩ : Detector).firstSignal? (renderPatch [p]) =
        some ⟨8, "--- schema_version".toList⟩ := by
  refine ⟨by decide, ?_⟩
  rw [firstSignal?_renderPatch ⟨[]⟩ _ (by decide)]
  decide

end Change

end ReleaseGate
