import ReleaseGate.History.Checkout
import ReleaseGate.Proofs.ChangedLines
import ReleaseGate.Proofs.PatchReading

/-!
# The text of a patch

From the changes of files to what the reader of signals sees of them, for both ways in which
history is reached.

* Decoding a patch as a whole and line by line gives the same text: every line ends with a line
  feed (`textOfWhole_eq`, `textOfPieces_eq`).
* The patch of a changed file is well formed, whatever the file is called (`wellFormed_filePatch`).
* So a detector is set off by a patch exactly if one of the lines that the edit scripts delete or
  insert bears a marker (`isAffected_textOfWhole_iff`, `isAffected_textOfPieces_iff`).
-/

namespace ReleaseGate.History

open Text (Bytes)
open Text.Utf8 (decodeLossy encode)

/-! ### Decoded lines -/

/-- A line of a patch as text. -/
def RawLine.text (l : RawLine) : List Char := l.sign.toList ++ decodeLossy l.content

/-- The signs of lines of content. -/
def RawLine.Signed (l : RawLine) : Prop := l.sign = none ∨ l.sign = some '-' ∨ l.sign = some '+'

theorem RawLine.decodeLossy_bytes {l : RawLine} (h : l.Signed) : decodeLossy l.bytes = l.text := by
  obtain ⟨sign, content⟩ := l
  rcases h with h | h | h <;> cases h <;>
    simp [RawLine.bytes, RawLine.text, Text.Utf8.decodeLossy_cons_of_lt, byte]

/-- A patch that is decoded line by line is its decoded lines, written out. -/
theorem textOfPieces_eq (ls : List RawLine) :
    (textOfPieces ls).toList = Text.unlines (ls.map RawLine.text) := by
  have h (l : RawLine) :
      l.sign.toList ++ decodeLossy (l.content ++ [lineFeed]) = l.text ++ ['\n'] := by
    rw [Text.Utf8.decodeLossy_append (by decide), RawLine.text, List.append_assoc]
    rfl
  simp only [textOfPieces, String.toList_ofList, h, Text.unlines, List.flatMap_map]

/-- A patch that is decoded as a whole is its decoded lines, written out. -/
theorem textOfWhole_eq {ls : List RawLine} (h : ∀ l ∈ ls, l.Signed) :
    (textOfWhole ls).toList = Text.unlines (ls.map RawLine.text) := by
  rw [textOfWhole, String.toList_ofList]
  -- the bytes may be cut at every line feed, and the sign of a line is an ASCII byte
  induction ls with
  | nil => rfl
  | cons l ls ih =>
    have hl : l.Signed := h l List.mem_cons_self
    have e : patchBytes (l :: ls) = l.bytes ++ lineFeed :: patchBytes ls := by simp [patchBytes]
    rw [e, Text.Utf8.decodeLossy_append (by decide), RawLine.decodeLossy_bytes hl,
      Text.Utf8.decodeLossy_cons_of_lt (by decide), ih fun m hm => h m (List.mem_cons_of_mem _ hm),
      Text.unlines, Text.unlines, List.map_cons, List.flatMap_cons, List.append_assoc]
    rfl

/-! ### Lines that are no content -/

theorem RawLine.text_plainLine (s : String) : (plainLine s).text = decodeLossy (encode s) := rfl

theorem lf_not_mem_text_plainLine {s : String} (h : '\n' ∉ s.toList) :
    '\n' ∉ (plainLine s).text :=
  Text.Utf8.lf_not_mem_decodeLossy (Text.Utf8.lf_not_mem_encode h)

theorem prefix_text_plainLine {p : String} (hp : Text.Utf8.IsAscii p) (s : String) :
    p.toList <+: (plainLine (p ++ s)).text := by
  rw [RawLine.text_plainLine, Text.Utf8.decodeLossy_encode_append hp]
  exact List.prefix_append _ _

/-- Five characters tell whether a line is a header. -/
theorem isHeader_of_front {p line : List Char} (h : p <+: line) (hl : 5 ≤ p.length)
    (hp : Change.IsHeader p) : Change.IsHeader line := by
  have shorter {q : List Char} (hq : q.length ≤ 5) (hn : ¬q <+: p) : ¬q <+: line := fun hq' =>
    hn (List.prefix_of_prefix_length_le hq' h (Nat.le_trans hq hl))
  rcases hp with ⟨h₁, h₂, h₃, h₄⟩ | hp | hp
  · exact .inl ⟨shorter (by decide) h₁, shorter (by decide) h₂, shorter (by decide) h₃,
      shorter (by decide) h₄⟩
  · exact .inr (.inl (hp.trans h))
  · exact .inr (.inr (hp.trans h))

/-- A line that may stand among the headers of a patch once it is decoded. -/
structure IsHeaderLine (l : RawLine) : Prop where
  header : Change.IsHeader l.text
  noLf : '\n' ∉ l.text
  signed : l.Signed

theorem isHeaderLine_plainLine {p : String} (hp : Text.Utf8.IsAscii p)
    (hl : 5 ≤ p.toList.length) (hh : Change.IsHeader p.toList) {s : String}
    (hs : '\n' ∉ (p ++ s).toList) : IsHeaderLine (plainLine (p ++ s)) :=
  ⟨isHeader_of_front (prefix_text_plainLine hp s) hl hh, lf_not_mem_text_plainLine hs, .inl rfl⟩

/-! ### Names -/

/-- A way to write paths that keeps them on one line. -/
def Style.KeepsLine (style : Style) : Prop := ∀ path, '\n' ∉ (style.quote path).toList

theorem lf_not_mem_escapeByte (b : UInt8) : '\n' ∉ escapeByte b := by
  have hd : ∀ k < 8, '\n' ≠ Char.ofNat ('0'.toNat + k) := by decide
  have hb : b.toNat < 256 := b.toNat_lt
  unfold escapeByte escapeLetter?
  split_ifs <;> simp only [List.mem_cons, List.not_mem_nil, or_false, not_or] <;>
    refine ⟨by decide, ?_⟩ <;> try decide
  simp only [octal, List.map_cons, List.map_nil, List.mem_cons, List.not_mem_nil, or_false, not_or]
  exact ⟨hd _ (by omega), hd _ (by omega), hd _ (by omega)⟩

/-- A path in which every line feed is special is written on one line. -/
theorem lf_not_mem_quotePath {special : UInt8 → Bool} (h : special 10 = true) (path : String) :
    '\n' ∉ (quotePath special path).toList := by
  have hlf : (encode (String.singleton '\n')).any special = true := by
    have e : encode (String.singleton '\n') = [10] := by
      rw [Text.Utf8.encode_eq_flatMap]
      decide
    rw [e, List.any_cons, h, Bool.true_or]
  have plain {c : Char} (hc : ¬(encode (String.singleton c)).any special = true) : c ≠ '\n' :=
    fun e => hc (e ▸ hlf)
  rw [quotePath]
  simp only
  split
  · rw [String.toList_ofList, List.mem_append, List.mem_cons, List.mem_flatMap]
    rintro ((e | ⟨c, -, hm⟩) | hm)
    · exact absurd e (by decide)
    · split at hm
      · obtain ⟨b, -, hb⟩ := List.mem_flatMap.1 hm
        exact lf_not_mem_escapeByte b hb
      · next hc => exact plain hc (List.mem_singleton.1 hm).symm
    · exact absurd hm (by decide)
  · next hn =>
    intro hm
    exact hn (List.any_eq_true.2 ⟨'\n', hm, hlf⟩)

theorem keepsLine_program (settings : Settings) : (Style.program settings).KeepsLine :=
  lf_not_mem_quotePath (by decide)

theorem keepsLine_library (settings : Settings) : (Style.library settings).KeepsLine := by
  intro path
  have h : '\n' ∉ (quotePath isSpecialOrForeign path).toList :=
    lf_not_mem_quotePath (by decide) path
  show '\n' ∉ (libraryQuote path).toList
  unfold libraryQuote
  split
  · next hp =>
    rw [Bool.and_eq_true, decide_eq_true_eq, decide_eq_true_eq] at hp
    rw [hp.2] at h
    simpa using h
  · exact h

/-! ### The patch of a file -/

theorem lf_not_mem_toDigits (n : Nat) : '\n' ∉ Nat.toDigits 10 n := fun h =>
  absurd (Nat.isDigit_of_mem_toDigits (by decide) (by decide) h) (by decide)

theorem lf_not_mem_spanText (before length : Nat) : '\n' ∉ (spanText before length).toList := by
  unfold spanText
  split_ifs <;> simp [lf_not_mem_toDigits]

theorem lf_not_mem_suffix (a : Annotations) (before : List Bytes) :
    lineFeed ∉ a.suffix before := by
  have hcontext := a.context_oneLine before
  unfold Annotations.suffix
  split
  · exact List.not_mem_nil
  · rw [List.mem_cons, not_or]
    exact ⟨by decide, hcontext⟩

/-- What follows a heading does not reach into it. -/
theorem decodeLossy_append_suffix (bs : Bytes) (a : Annotations) (before : List Bytes) :
    decodeLossy (bs ++ a.suffix before) = decodeLossy bs ++ decodeLossy (a.suffix before) := by
  unfold Annotations.suffix
  split
  · rw [List.append_nil, Text.Utf8.decodeLossy_nil, List.append_nil]
  · exact Text.Utf8.decodeLossy_append (by decide) _ _

/-- The heading of a hunk on a line of its own. -/
theorem hunkOf_heading_text (style : Style) (old : List Bytes) (s : Stretch Bytes) :
    "@@".toList <+: (style.hunkOf old s).heading.text ∧
      '\n' ∉ (style.hunkOf old s).heading.text := by
  have e : hunkHeading s = "@@ -" ++ (spanText s.oldBefore s.removed.length ++ " +" ++
      spanText s.newBefore s.inserted.length ++ " @@") := by
    simp [hunkHeading, String.append_assoc]
  have htext : (style.hunkOf old s).heading.text = (plainLine (hunkHeading s)).text ++
      decodeLossy (style.annotations.suffix (old.take s.oldBefore)) :=
    decodeLossy_append_suffix _ _ _
  rw [htext]
  constructor
  · rw [e]
    have front := prefix_text_plainLine (p := "@@ -") (by decide)
    exact (List.IsPrefix.trans (by decide) (front _)).trans (List.prefix_append _ _)
  · rw [List.mem_append, not_or]
    constructor
    · apply lf_not_mem_text_plainLine
      simp [e, lf_not_mem_spanText]
    · exact Text.Utf8.lf_not_mem_decodeLossy (lf_not_mem_suffix _ _)

/-- The lines of the body of a hunk: those of contents with their signs, and the one that says that
a last line has no line feed. -/
theorem mem_contentLine_iff (sign : Char) (line : Bytes) (l : RawLine) :
    l ∈ contentLine sign line ↔
      l = ⟨some sign, lineContent line⟩ ∨
        l = noNewlineLine ∧ line.getLast? ≠ some lineFeed := by
  unfold contentLine lineContent
  split <;> simp_all

theorem noNewlineLine_text :
    noNewlineLine.text = "\\ No newline at end of file".toList := by
  have := Text.Utf8.decodeLossy_encode_append
    (p := "\\ No newline at end of file") (by decide) ""
  simpa [noNewlineLine, RawLine.text_plainLine, Text.Utf8.encode_eq_flatMap] using this

/-- A line of the body of a hunk once it is decoded. -/
structure IsBodyLine (l : RawLine) : Prop where
  body : Change.IsBody l.text
  noLf : '\n' ∉ l.text
  signed : l.Signed

theorem isBodyLine_of_mem_hunkOf {style : Style} {old new : Bytes} {t : Stretch Bytes}
    (ht : t ∈ stretches (style.script old new)) {lines : List Bytes} {l : RawLine}
    (hl : l ∈ (style.hunkOf lines t).body) :
    IsBodyLine l := by
  have signed (sign : Char) (hs : sign = '-' ∨ sign = '+') (line : Bytes)
      (hline : IsChanged (style.script old new) line) (hm : l ∈ contentLine sign line) :
      IsBodyLine l := by
    rcases (mem_contentLine_iff sign line l).1 hm with rfl | ⟨rfl, -⟩
    · have hlf : '\n' ∉ decodeLossy (lineContent line) :=
        Text.Utf8.lf_not_mem_decodeLossy (lineFeed_not_mem_of_isChanged hline)
      rcases hs with rfl | rfl
      · exact ⟨⟨'-', by decide, _, rfl⟩, by simpa [RawLine.text] using hlf, .inr (.inl rfl)⟩
      · exact ⟨⟨'+', by decide, _, rfl⟩, by simpa [RawLine.text] using hlf, .inr (.inr rfl)⟩
    · exact ⟨by rw [noNewlineLine_text]; decide, by rw [noNewlineLine_text]; decide, .inl rfl⟩
  rcases List.mem_append.1 hl with hl | hl <;> obtain ⟨line, hline, hm⟩ := List.mem_flatMap.1 hl
  · exact signed '-' (.inl rfl) line ((mem_stretches_iff _ _).1 ⟨t, ht, .inl hline⟩) hm
  · exact signed '+' (.inr rfl) line ((mem_stretches_iff _ _).1 ⟨t, ht, .inr hline⟩) hm

theorem lf_not_mem_headerName {style : Style} {name : String} (h : '\n' ∉ name.toList) :
    '\n' ∉ (style.headerName name).toList := by
  unfold Style.headerName
  split <;> simp [h]

theorem isHeaderLine_comparison (style : Style) {oldName newName : String}
    (ho : '\n' ∉ oldName.toList) (hn : '\n' ∉ newName.toList) (old new : Bytes) {l : RawLine}
    (hl : l ∈ (style.comparison oldName newName old new).1) : IsHeaderLine l := by
  unfold Style.comparison at hl
  split_ifs at hl
  · rw [List.mem_singleton.1 hl, String.append_assoc, String.append_assoc, String.append_assoc]
    exact isHeaderLine_plainLine (by decide) (by decide) (by decide) (by simp [ho, hn])
  · simp only at hl
    split at hl
    · cases hl
    · simp only [List.mem_cons, List.not_mem_nil, or_false] at hl
      rcases hl with rfl | rfl
      · refine ⟨.inr (.inl ?_), lf_not_mem_text_plainLine ?_, .inl rfl⟩
        · exact List.IsPrefix.trans (by decide) (prefix_text_plainLine (p := "--- ") (by decide) _)
        · simp [lf_not_mem_headerName ho]
      · refine ⟨.inr (.inr ?_), lf_not_mem_text_plainLine ?_, .inl rfl⟩
        · exact List.IsPrefix.trans (by decide) (prefix_text_plainLine (p := "+++ ") (by decide) _)
        · simp [lf_not_mem_headerName hn]

theorem comparison_hunks (style : Style) (oldName newName : String) (old new : Bytes) :
    (style.comparison oldName newName old new).2 =
      if isBinary old || isBinary new then [] else style.hunks old new := by
  unfold Style.comparison
  split_ifs
  · rfl
  · simp only
    split <;> simp_all

/-- The two contents that a changed file is shown by: a file that moved as it was is not shown. -/
def FileChange.contents? : FileChange → Option (Bytes × Bytes)
  | .added _ content => some ([], content)
  | .deleted _ content => some (content, [])
  | .modified _ old new => some (old, new)
  | .moved _ _ _ old new _ => if old = new then none else some (old, new)

/-- The hunks of a changed file: none for contents that are no text. -/
theorem filePatch_hunks (style : Style) (c : FileChange) :
    (style.filePatch c).hunks =
      match c.contents? with
      | none => []
      | some (old, new) => if isBinary old || isBinary new then [] else style.hunks old new := by
  cases c with
  | added path content => exact comparison_hunks style _ _ _ _
  | deleted path content => exact comparison_hunks style _ _ _ _
  | modified path old new => exact comparison_hunks style _ _ _ _
  | moved how source target old new score =>
    by_cases h : old = new
    · simp [Style.filePatch, FileChange.contents?, h]
    · simp only [Style.filePatch, FileChange.contents?, h, if_false]
      exact comparison_hunks style _ _ _ _

theorem isHeaderLine_indexLines {style : Style} {old new : Option Bytes} {l : RawLine}
    (hl : l ∈ style.indexLines old new) : IsHeaderLine l := by
  obtain ⟨text, htext, rfl⟩ := List.mem_map.1 hl
  have hlf := style.annotations.index_oneLine old new text (Option.mem_toList.1 htext)
  exact isHeaderLine_plainLine (by decide) (by decide) (by decide) (by simp [hlf])

theorem isHeaderLine_headers {style : Style} (hk : style.KeepsLine) (c : FileChange) {l : RawLine}
    (hl : l ∈ (style.filePatch c).headers) : IsHeaderLine l := by
  have noFile_lf : '\n' ∉ noFile.toList := by decide
  cases c with
  | added path content =>
    rcases List.mem_cons.1 hl with rfl | hl
    · exact isHeaderLine_plainLine (p := "new file mode 100644") (s := "") (by decide) (by decide)
        (by decide) (by decide)
    · rcases List.mem_append.1 hl with hl | hl
      · exact isHeaderLine_indexLines hl
      · exact isHeaderLine_comparison style noFile_lf (hk _) _ _ hl
  | deleted path content =>
    rcases List.mem_cons.1 hl with rfl | hl
    · exact isHeaderLine_plainLine (p := "deleted file mode 100644") (s := "") (by decide)
        (by decide) (by decide) (by decide)
    · rcases List.mem_append.1 hl with hl | hl
      · exact isHeaderLine_indexLines hl
      · exact isHeaderLine_comparison style (hk _) noFile_lf _ _ hl
  | modified path old new =>
    rcases List.mem_append.1 hl with hl | hl
    · exact isHeaderLine_indexLines hl
    · exact isHeaderLine_comparison style (hk _) (hk _) _ _ hl
  | moved how source target old new score =>
    change l ∈ [_, _, _] ++ (if old = new then ([], [])
      else (style.indexLines old new ++
          (style.comparison (style.oldName source) (style.newName target) old new).1,
        (style.comparison (style.oldName source) (style.newName target) old new).2)).1 at hl
    rcases List.mem_append.1 hl with hl | hl
    · simp only [List.mem_cons, List.not_mem_nil, or_false] at hl
      rcases hl with rfl | rfl | rfl
      · rw [String.append_assoc]
        exact isHeaderLine_plainLine (by decide) (by decide) (by decide)
          (by simp [lf_not_mem_toDigits])
      · have hp : Text.Utf8.IsAscii (how.word ++ " from ") ∧
            5 ≤ (how.word ++ " from ").toList.length ∧
            Change.IsHeader (how.word ++ " from ").toList := by cases how <;> decide
        refine isHeaderLine_plainLine hp.1 hp.2.1 hp.2.2 ?_
        rw [String.toList_append, List.mem_append, not_or]
        exact ⟨by cases how <;> decide, hk source⟩
      · have hp : Text.Utf8.IsAscii (how.word ++ " to ") ∧
            5 ≤ (how.word ++ " to ").toList.length ∧
            Change.IsHeader (how.word ++ " to ").toList := by cases how <;> decide
        refine isHeaderLine_plainLine hp.1 hp.2.1 hp.2.2 ?_
        rw [String.toList_append, List.mem_append, not_or]
        exact ⟨by cases how <;> decide, hk target⟩
    · split_ifs at hl
      · cases hl
      · rcases List.mem_append.1 hl with hl | hl
        · exact isHeaderLine_indexLines hl
        · exact isHeaderLine_comparison style (hk _) (hk _) _ _ hl

theorem opening_text {style : Style} (hk : style.KeepsLine) (old new : String) :
    "diff ".toList <+: (style.opening old new).text ∧ '\n' ∉ (style.opening old new).text := by
  have e : style.opening old new =
      plainLine ("diff --git " ++ (style.oldName old ++ " " ++ style.newName new)) := by
    simp [Style.opening, String.append_assoc]
  rw [e]
  constructor
  · exact List.IsPrefix.trans (by decide) (prefix_text_plainLine (p := "diff --git ") (by decide) _)
  · apply lf_not_mem_text_plainLine
    have ho : '\n' ∉ (style.oldName old).toList := hk _
    have hn : '\n' ∉ (style.newName new).toList := hk _
    simp [ho, hn]

theorem exists_opening (style : Style) (c : FileChange) :
    ∃ old new, (style.filePatch c).opening = style.opening old new := by
  cases c <;> exact ⟨_, _, rfl⟩

/-- The hunks of a changed file come from the stretches of a script. -/
theorem exists_stretch_of_mem_hunks {style : Style} {c : FileChange} {k : Change.Hunk RawLine}
    (h : k ∈ (style.filePatch c).hunks) :
    ∃ old new lines, ∃ t ∈ stretches (style.script old new), k = style.hunkOf lines t := by
  rw [filePatch_hunks] at h
  cases hc : c.contents? with
  | none => simp [hc] at h
  | some p =>
    obtain ⟨old, new⟩ := p
    simp only [hc] at h
    split at h
    · cases h
    · rw [Style.hunks_eq] at h
      obtain ⟨t, ht, rfl⟩ := List.mem_map.1 h
      exact ⟨old, new, _, t, ht, rfl⟩

/-- **The patch of a changed file is well formed**, whatever the file and its lines are. -/
theorem wellFormed_filePatch {style : Style} (hk : style.KeepsLine) (c : FileChange) :
    ((style.filePatch c).map RawLine.text).WellFormed := by
  obtain ⟨old, new, hopen⟩ := exists_opening style c
  have hopening := opening_text hk old new
  have heading {k : Change.Hunk RawLine} (h : k ∈ (style.filePatch c).hunks) :
      "@@".toList <+: k.heading.text ∧ '\n' ∉ k.heading.text := by
    obtain ⟨_, _, lines, t, -, rfl⟩ := exists_stretch_of_mem_hunks h
    exact hunkOf_heading_text style lines t
  have body {k : Change.Hunk RawLine} (h : k ∈ (style.filePatch c).hunks) {l : RawLine}
      (hl : l ∈ k.body) : IsBodyLine l := by
    obtain ⟨_, _, _, t, ht, rfl⟩ := exists_stretch_of_mem_hunks h
    exact isBodyLine_of_mem_hunkOf ht hl
  -- one goal for each field of the form; lines of the decoded patch are decoded lines
  refine ⟨?_, ?_, ?_, ?_, ?_⟩
  · rw [Change.FilePatch.map, hopen]
    exact hopening.1
  · intro l hl
    obtain ⟨r, hr, rfl⟩ := List.mem_map.1 hl
    exact (isHeaderLine_headers hk c hr).header
  · intro h hh
    obtain ⟨k, hk, rfl⟩ := List.mem_map.1 hh
    exact (heading hk).1
  · intro h hh l hl
    obtain ⟨k, hk, rfl⟩ := List.mem_map.1 hh
    obtain ⟨r, hr, rfl⟩ := List.mem_map.1 hl
    exact (body hk hr).body
  · intro l hl
    rw [Change.FilePatch.lines_map] at hl
    obtain ⟨r, hr, rfl⟩ := List.mem_map.1 hl
    rcases List.mem_append.1 hr with hr | hr
    · rcases List.mem_cons.1 hr with rfl | hr
      · rw [hopen]
        exact hopening.2
      · exact (isHeaderLine_headers hk c hr).noLf
    · obtain ⟨k, hk, hr⟩ := List.mem_flatMap.1 hr
      rcases List.mem_cons.1 hr with rfl | hr
      · exact (heading hk).2
      · exact (body hk hr).noLf

theorem signed_of_mem_lines {style : Style} (hk : style.KeepsLine) {c : FileChange} {l : RawLine}
    (hl : l ∈ (style.filePatch c).lines) : l.Signed := by
  rcases List.mem_append.1 hl with hl | hl
  · rcases List.mem_cons.1 hl with rfl | hl
    · obtain ⟨old, new, hopen⟩ := exists_opening style c
      rw [hopen]
      exact .inl rfl
    · exact (isHeaderLine_headers hk c hl).signed
  · obtain ⟨k, hkm, hl⟩ := List.mem_flatMap.1 hl
    obtain ⟨_, _, _, t, ht, rfl⟩ := exists_stretch_of_mem_hunks hkm
    rcases List.mem_cons.1 hl with rfl | hl
    · exact .inl rfl
    · exact (isBodyLine_of_mem_hunkOf ht hl).signed

theorem signed_of_mem_patchLines {style : Style} (hk : style.KeepsLine) {cs : List FileChange}
    {l : RawLine} (hl : l ∈ Change.patchLines (cs.map style.filePatch)) : l.Signed := by
  obtain ⟨p, hp, hl⟩ := List.mem_flatMap.1 hl
  obtain ⟨c, -, rfl⟩ := List.mem_map.1 hp
  exact signed_of_mem_lines hk hl

/-! ### What sets a detector off -/

variable (d : Change.Detector)

/-- A changed file shows a marker: it is text, and a line that its script deletes or inserts bears
one. -/
def ShowsMarker (style : Style) (c : FileChange) : Prop :=
  ∃ old new, c.contents? = some (old, new) ∧ isBinary old = false ∧ isBinary new = false ∧
    ∃ line, IsChanged (style.script old new) line ∧ bearsMarker d line = true

theorem marksLine_content {sign : Char} (h : sign = '-' ∨ sign = '+') (line : Bytes) :
    d.marksLine (RawLine.text ⟨some sign, lineContent line⟩) = bearsMarker d line := by
  rcases h with rfl | rfl <;> rfl

/-- A line of the body of a hunk carries a marker exactly if a changed line bears one. -/
theorem exists_marksLine_hunkOf_iff (style : Style) (old : List Bytes) (t : Stretch Bytes) :
    (∃ l ∈ (style.hunkOf old t).body, d.marksLine l.text = true) ↔
      ∃ line, (line ∈ t.removed ∨ line ∈ t.inserted) ∧ bearsMarker d line = true := by
  have side {sign : Char} (hs : sign = '-' ∨ sign = '+') (lines : List Bytes) :
      (∃ l ∈ lines.flatMap (contentLine sign), d.marksLine l.text = true) ↔
        ∃ line ∈ lines, bearsMarker d line = true := by
    constructor
    · rintro ⟨l, hl, hm⟩
      obtain ⟨line, hline, hl⟩ := List.mem_flatMap.1 hl
      rcases (mem_contentLine_iff sign line l).1 hl with rfl | ⟨rfl, -⟩
      · exact ⟨line, hline, by rwa [marksLine_content d hs] at hm⟩
      · rw [noNewlineLine_text] at hm
        cases hm
    · rintro ⟨line, hline, hm⟩
      have hl := (mem_contentLine_iff sign line ⟨some sign, lineContent line⟩).2 (.inl rfl)
      refine ⟨_, List.mem_flatMap.2 ⟨line, hline, hl⟩, ?_⟩
      rwa [marksLine_content d hs]
  simp only [Style.hunkOf, List.mem_append, or_and_right, exists_or, side (.inl rfl), side (.inr rfl)]

theorem exists_marksLine_filePatch_iff (style : Style) (c : FileChange) :
    (∃ k ∈ (style.filePatch c).hunks, ∃ l ∈ k.body, d.marksLine l.text = true) ↔
      ShowsMarker d style c := by
  rw [filePatch_hunks]
  cases hc : c.contents? with
  | none => simp [ShowsMarker, hc]
  | some p =>
    obtain ⟨old, new⟩ := p
    by_cases hb : isBinary old = true ∨ isBinary new = true
    · rcases hb with hb | hb <;> simp [ShowsMarker, hc, hb]
    · rw [not_or, Bool.not_eq_true, Bool.not_eq_true] at hb
      have h : (∃ k ∈ style.hunks old new, ∃ l ∈ k.body, d.marksLine l.text = true) ↔
          ∃ line, IsChanged (style.script old new) line ∧ bearsMarker d line = true := by
        simp only [Style.hunks_eq, List.mem_map, exists_exists_and_eq_and,
          exists_marksLine_hunkOf_iff, ← mem_stretches_iff]
        constructor
        · rintro ⟨t, ht, line, hline, hm⟩
          exact ⟨line, ⟨t, ht, hline⟩, hm⟩
        · rintro ⟨line, ⟨t, ht, hline⟩, hm⟩
          exact ⟨t, ht, line, hline, hm⟩
      simp [ShowsMarker, hc, hb, h]

/-- The patch of some changed files, as its decoded lines written out. -/
def patchText (style : Style) (cs : List FileChange) : List Char :=
  Change.renderPatch ((cs.map style.filePatch).map (Change.FilePatch.map RawLine.text))

theorem isAffected_patchText_iff {style : Style} (hk : style.KeepsLine) (cs : List FileChange) :
    d.isAffected (patchText style cs) = true ↔ ∃ c ∈ cs, ShowsMarker d style c := by
  rw [patchText, Change.isAffected_renderPatch]
  · simp only [List.mem_map, exists_exists_and_eq_and, Change.FilePatch.map, Change.Hunk.map,
      exists_marksLine_filePatch_iff]
  · intro p hp
    simp only [List.map_map, List.mem_map] at hp
    obtain ⟨c, -, rfl⟩ := hp
    exact wellFormed_filePatch hk c

/-- **A patch that is decoded line by line** sets a detector off exactly if a changed file shows a
marker. -/
theorem isAffected_textOfPieces_iff {style : Style} (hk : style.KeepsLine) (cs : List FileChange) :
    d.isAffected (textOfPieces (Change.patchLines (cs.map style.filePatch))).toList = true ↔
      ∃ c ∈ cs, ShowsMarker d style c := by
  rw [textOfPieces_eq, ← Change.patchLines_map]
  exact isAffected_patchText_iff d hk cs

/-- **A patch that is decoded as a whole** sets a detector off in the same cases. -/
theorem isAffected_textOfWhole_iff {style : Style} (hk : style.KeepsLine) (cs : List FileChange) :
    d.isAffected (textOfWhole (Change.patchLines (cs.map style.filePatch))).toList = true ↔
      ∃ c ∈ cs, ShowsMarker d style c := by
  rw [textOfWhole_eq fun l => signed_of_mem_patchLines hk, ← Change.patchLines_map]
  exact isAffected_patchText_iff d hk cs

end ReleaseGate.History
