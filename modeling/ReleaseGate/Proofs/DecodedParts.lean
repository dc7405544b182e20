import ReleaseGate.Proofs.Backends

/-!
# Decoding in parts

Byte sequences that meet at an ASCII byte may be decoded one by one (`decodeLossy_flatten`): such a
byte is never taken into an invalid part, so nothing is merged or split at the seam.

The library hands a patch over in parts, each of which is decoded by itself behind its sign. A part
ends with a line feed, or the next one begins with one, so the text is that of the whole patch
(`textOfParts_eq`). Where the program prints the same bytes, it gives the same text.
-/

namespace ReleaseGate

namespace Text.Utf8

/-! ### Seams -/

/-- The first byte is an ASCII one. -/
def StartsAscii (bs : Bytes) : Prop := ∃ b ∈ bs.head?, b < 0x80

/-- The last byte is an ASCII one. -/
def EndsAscii (bs : Bytes) : Prop := ∃ b ∈ bs.getLast?, b < 0x80

/-- Byte sequences that follow one another with an ASCII byte on one side of the seam. -/
def MeetAtAscii (as bs : Bytes) : Prop := EndsAscii as ∨ StartsAscii bs

instance : DecidablePred StartsAscii := fun bs =>
  inferInstanceAs (Decidable (∃ b ∈ bs.head?, b < 0x80))

instance : DecidablePred EndsAscii := fun bs =>
  inferInstanceAs (Decidable (∃ b ∈ bs.getLast?, b < 0x80))

instance : DecidableRel MeetAtAscii := fun as bs =>
  inferInstanceAs (Decidable (EndsAscii as ∨ StartsAscii bs))

theorem StartsAscii.append {bs : Bytes} (h : StartsAscii bs) (rest : Bytes) :
    StartsAscii (bs ++ rest) := by
  obtain ⟨b, hb, hlt⟩ := h
  exact ⟨b, by rw [List.head?_append, Option.mem_def.1 hb, Option.some_or]; rfl, hlt⟩

theorem MeetAtAscii.append {as bs : Bytes} (h : MeetAtAscii as bs) (rest : Bytes) :
    MeetAtAscii as (bs ++ rest) :=
  h.imp_right fun starts => starts.append rest

/-- **Two byte sequences that meet at an ASCII byte** may be decoded one by one. -/
theorem MeetAtAscii.decodeLossy_append {as bs : Bytes} (h : MeetAtAscii as bs) :
    decodeLossy (as ++ bs) = decodeLossy as ++ decodeLossy bs := by
  rcases h with ⟨x, hx, hlt⟩ | ⟨x, hx, hlt⟩
  · obtain ⟨rest, rfl⟩ := List.getLast?_eq_some_iff.1 hx
    rw [List.append_assoc, List.singleton_append, Utf8.decodeLossy_append hlt,
      Utf8.decodeLossy_append hlt rest [], decodeLossy_cons_of_lt hlt, decodeLossy_cons_of_lt hlt,
      decodeLossy_nil, List.append_assoc, List.singleton_append]
  · obtain ⟨rest, rfl⟩ := List.head?_eq_some_iff.1 hx
    exact Utf8.decodeLossy_append hlt as rest

/-- **Any number of byte sequences** that meet at ASCII bytes may be decoded one by one. -/
theorem decodeLossy_flatten {pieces : List Bytes} (h : pieces.IsChain MeetAtAscii) :
    decodeLossy pieces.flatten = pieces.flatMap decodeLossy := by
  induction pieces with
  | nil => rfl
  | cons p rest ih =>
    cases rest with
    | nil => simp
    | cons q rest =>
      obtain ⟨hpq, h⟩ := List.isChain_cons_cons.1 h
      have seam : MeetAtAscii p (q :: rest).flatten := hpq.append rest.flatten
      rw [List.flatten_cons, seam.decodeLossy_append, ih h]
      rfl

theorem isChain_of_startsAscii {pieces : List Bytes} (h : ∀ p ∈ pieces.tail, StartsAscii p) :
    pieces.IsChain MeetAtAscii := by
  induction pieces with
  | nil => exact .nil
  | cons p rest ih =>
    cases rest with
    | nil => exact .singleton p
    | cons q rest =>
      refine List.isChain_cons_cons.2 ⟨.inr (h q List.mem_cons_self), ih fun r hr => ?_⟩
      exact h r (List.mem_cons_of_mem q hr)

theorem isChain_of_endsAscii {pieces : List Bytes} (h : ∀ p ∈ pieces.dropLast, EndsAscii p) :
    pieces.IsChain MeetAtAscii := by
  induction pieces with
  | nil => exact .nil
  | cons p rest ih =>
    cases rest with
    | nil => exact .singleton p
    | cons q rest =>
      rw [List.dropLast_cons_cons, List.forall_mem_cons] at h
      exact List.isChain_cons_cons.2 ⟨.inl h.1, ih h.2⟩

end Text.Utf8

namespace History

open Text (Bytes)
open Text.Utf8 (decodeLossy StartsAscii EndsAscii MeetAtAscii)
open Change (Range)

/-! ### Parts of a patch -/

/-- A part of a patch as the library hands it over: a line of content without its sign, or something
else, whole. -/
structure Part where
  /-- What the part is. For a line of content this is its sign. -/
  origin : Char
  content : Bytes

/-- The sign that a part is written with. -/
def Part.sign? (p : Part) : Option Char :=
  if p.origin = '+' ∨ p.origin = '-' ∨ p.origin = ' ' then some p.origin else none

/-- The bytes of a part as they stand in the patch. -/
def Part.bytes (p : Part) : Bytes := p.sign?.toList.map byte ++ p.content

/-- The text of a part that is decoded by itself. -/
def Part.text (p : Part) : List Char := p.sign?.toList ++ decodeLossy p.content

/-- The patch that parts make up. -/
def bytesOfParts (ps : List Part) : Bytes := ps.flatMap Part.bytes

/-- The text of parts that are decoded one by one. -/
def textOfParts (ps : List Part) : String := String.ofList (ps.flatMap Part.text)

theorem Part.decodeLossy_bytes (p : Part) : decodeLossy p.bytes = p.text := by
  rw [Part.bytes, Part.text, Part.sign?]
  split
  · next h =>
    rcases h with h | h | h <;> rw [h] <;> exact Text.Utf8.decodeLossy_cons_of_lt (by decide) _
  · rfl

/-- **Parts that meet at ASCII bytes** have the text of the whole patch. -/
theorem textOfParts_eq {ps : List Part} (h : (ps.map Part.bytes).IsChain MeetAtAscii) :
    textOfParts ps = String.ofList (decodeLossy (bytesOfParts ps)) := by
  rw [bytesOfParts, List.flatMap_def, Text.Utf8.decodeLossy_flatten h, List.flatMap_map,
    textOfParts]
  simp only [Part.decodeLossy_bytes]

/-! ### The patches of both ways -/

theorem textOfPieces_eq_textOfWhole {ls : List RawLine} (h : ∀ l ∈ ls, l.Signed) :
    textOfPieces ls = textOfWhole ls :=
  String.toList_injective ((textOfPieces_eq ls).trans (textOfWhole_eq h).symm)

/-- The lines of a decoded patch are its lines, decoded. -/
theorem lines_textOfWhole {style : Style} (hk : style.KeepsLine) (cs : List FileChange) :
    Text.lines (textOfWhole (Change.patchLines (cs.map style.filePatch))).toList =
      (Change.patchLines (cs.map style.filePatch)).map fun l => Text.dropCr l.text := by
  rw [textOfWhole_eq fun l => signed_of_mem_patchLines hk, Text.lines_unlines, List.map_map]
  · rfl
  · intro text ht
    obtain ⟨l, hl, rfl⟩ := List.mem_map.1 ht
    obtain ⟨p, hp, hl⟩ := List.mem_flatMap.1 hl
    obtain ⟨c, -, rfl⟩ := List.mem_map.1 hp
    refine (wellFormed_filePatch hk c).noLf _ ?_
    rw [Change.FilePatch.lines_map]
    exact List.mem_map_of_mem hl

/-- The lines of the library's patch between two snapshots. -/
def libraryLines (c : Checkout) (paths : List String) (base head : Snapshot) : List RawLine :=
  Change.patchLines ((libraryChanges paths base head).map (Style.library c.settings).filePatch)

/-- The lines of the program's patch between two snapshots. -/
def programLines (c : Checkout) (selected : String → Bool) (base head : Snapshot) : List RawLine :=
  Change.patchLines ((programChanges c selected base head).map (Style.program c.settings).filePatch)

section

variable {c : Checkout} {range : Range} {base head : Snapshot}
  (hb : c.branch.snapshot? range.base = some base) (hh : c.branch.snapshot? range.head = some head)

include hb hh

/-- **The library's text is that of the whole patch.** -/
theorem diff_library_eq (paths : List String) :
    (libraryRepository c).diff range paths = .ok (textOfWhole (libraryLines c paths base head)) := by
  have signed : ∀ l ∈ libraryLines c paths base head, l.Signed := fun l =>
    signed_of_mem_patchLines (keepsLine_library c.settings)
  rw [← textOfPieces_eq_textOfWhole signed]
  simp only [libraryRepository, libraryDiff, librarySnapshot, hb, hh]
  rfl

theorem diff_program_eq {w : Workspace} {root : String} {place : Files.Place}
    (hdir : w.directory? root = some place) (hfound : w.discover? root = some c)
    (hids : c.branch.PlainIds) {paths : List String} {selected : String → Bool}
    (hs : selection ⟨c.top, place.drop c.top.length⟩ paths = .ok selected) :
    (programRepository w root).diff range paths =
      .ok (textOfWhole (programLines c selected base head)) := by
  have h := programDiff_eq hdir hfound hids hb hh paths
  simp only [programRepository, h, hs, Except.map, programLines]

end

/-- **To decode a patch in parts is to decode it whole.**

* Byte sequences of which each but the first starts with an ASCII byte, or each but the last ends
  with one, are decoded one by one to the text of all of them.
* So are parts, each decoded by itself behind its sign, that meet at ASCII bytes.
* The library's diff is the text of its whole patch, whatever parts it hands over, and the lines of
  this text are the decoded lines of the patch.
* Where the program's patch of the same range has the same bytes, its diff is the same text. -/
theorem diff_decoded_in_parts :
    (∀ pieces : List Bytes,
      ((∀ p ∈ pieces.tail, StartsAscii p) ∨ ∀ p ∈ pieces.dropLast, EndsAscii p) →
      pieces.flatMap decodeLossy = decodeLossy pieces.flatten) ∧
    (∀ ps : List Part, (ps.map Part.bytes).IsChain MeetAtAscii →
      textOfParts ps = String.ofList (decodeLossy (bytesOfParts ps))) ∧
    ∀ (c : Checkout) (range : Range) (base head : Snapshot) (paths : List String),
      c.branch.snapshot? range.base = some base → c.branch.snapshot? range.head = some head →
      let lines := libraryLines c paths base head
      let text := String.ofList (decodeLossy (patchBytes lines))
      (libraryRepository c).diff range paths = .ok text ∧
        Text.lines text.toList = (lines.map fun l => Text.dropCr l.text) ∧
        (∀ ps : List Part, (ps.map Part.bytes).IsChain MeetAtAscii →
          bytesOfParts ps = patchBytes lines → textOfParts ps = text) ∧
        ∀ (w : Workspace) (root : String) (place : Files.Place) (selected : String → Bool),
          w.directory? root = some place → w.discover? root = some c → c.branch.PlainIds →
          selection ⟨c.top, place.drop c.top.length⟩ paths = .ok selected →
          patchBytes (programLines c selected base head) = patchBytes lines →
          (programRepository w root).diff range paths = .ok text := by
  refine ⟨?_, fun ps => textOfParts_eq, ?_⟩
  · intro pieces h
    refine (Text.Utf8.decodeLossy_flatten ?_).symm
    exact h.elim Text.Utf8.isChain_of_startsAscii Text.Utf8.isChain_of_endsAscii
  · intro c range base head paths hb hh lines text
    refine ⟨diff_library_eq hb hh paths, lines_textOfWhole (keepsLine_library c.settings) _, ?_, ?_⟩
    · intro ps chain same
      rw [textOfParts_eq chain, same]
    · intro w root place selected hdir hfound hids hs same
      rw [diff_program_eq hb hh hdir hfound hids hs, textOfWhole, same]

/-- What patches note of the history below. -/
def brokenNotes : Annotations :=
  { Annotations.none with
    index? := fun _ _ => some "8e40e7b..809fe41 100644"
    index_oneLine := by
      rintro _ _ text ⟨⟩
      decide }

/-- A history in which a file that breaks off within a character becomes one that breaks off within
a line as well. -/
def brokenHistory : Checkout :=
  { top := []
    branch := ⟨[⟨"1", ⟨[("src/a", [0xC3, 10])]⟩⟩, ⟨"2", ⟨[("src/a", [0xE2, 0x82])]⟩⟩], []⟩
    settings := { Settings.default with programNotes := brokenNotes, libraryNotes := brokenNotes } }

/-- The library's parts of this change. -/
def brokenParts : List Part :=
  [⟨'F', ("diff --git a/src/a b/src/a\nindex 8e40e7b..809fe41 100644\n" ++
      "--- a/src/a\n+++ b/src/a\n").toList.map byte⟩,
    ⟨'H', "@@ -1 +1 @@\n".toList.map byte⟩, ⟨'-', [0xC3, 10]⟩, ⟨'+', [0xE2, 0x82]⟩,
    ⟨'<', "\n\\ No newline at end of file\n".toList.map byte⟩]

theorem bytesOfParts_brokenParts :
    bytesOfParts brokenParts = patchBytes (libraryLines brokenHistory ["src"]
      ⟨[("src/a", [0xC3, 10])]⟩ ⟨[("src/a", [0xE2, 0x82])]⟩) := by
  decide +kernel

/-- The program's patch of this change has the same bytes. -/
theorem patchBytes_brokenHistory :
    ∃ selected, selection ⟨[], []⟩ ["src"] = .ok selected ∧
      patchBytes (programLines brokenHistory selected ⟨[("src/a", [0xC3, 10])]⟩
        ⟨[("src/a", [0xE2, 0x82])]⟩) = bytesOfParts brokenParts := by
  have h : ((selection ⟨[], []⟩ ["src"]).map fun selected =>
      patchBytes (programLines brokenHistory selected ⟨[("src/a", [0xC3, 10])]⟩
        ⟨[("src/a", [0xE2, 0x82])]⟩)) = .ok (bytesOfParts brokenParts) := by
    decide +kernel
  cases hs : selection ⟨[], []⟩ ["src"] with
  | error => rw [hs] at h; cases h
  | ok selected =>
    rw [hs] at h
    exact ⟨selected, rfl, Except.ok.inj h⟩

/-- A byte that needs another is replaced alone, before a line feed, a sign or the end of its part;
both ways give the text of the parts. -/
theorem diff_decoded_in_parts_brokenHistory :
    let text := "diff --git a/src/a b/src/a\nindex 8e40e7b..809fe41 100644\n" ++
      "--- a/src/a\n+++ b/src/a\n@@ -1 +1 @@\n-\ufffd\n+\ufffd\n\\ No newline at end of file\n"
    [[0x41, 0xE2, 0x82], [0x42, 0xC3], [10]].flatMap decodeLossy =
        decodeLossy [0x41, 0xE2, 0x82, 0x42, 0xC3, 10] ∧
      textOfParts brokenParts = text ∧
      (libraryRepository brokenHistory).diff lastCommit ["src"] = .ok text ∧
      (programRepository ⟨⟨[([historyDir], .directory)]⟩, [], some brokenHistory⟩ ".").diff
        lastCommit ["src"] = .ok text := by
  intro text
  obtain ⟨pieces, -, diffs⟩ := diff_decoded_in_parts
  obtain ⟨library, -, ofParts, program⟩ :=
    diffs brokenHistory lastCommit _ _ ["src"] rfl rfl
  obtain ⟨selected, hs, same⟩ := patchBytes_brokenHistory
  have chain : (brokenParts.map Part.bytes).IsChain MeetAtAscii := by decide +kernel
  have whole : String.ofList (decodeLossy (bytesOfParts brokenParts)) = text := by decide +kernel
  rw [bytesOfParts_brokenParts] at whole same
  refine ⟨pieces [[0x41, 0xE2, 0x82], [0x42, 0xC3], [10]] (.inl (by decide)), ?_, ?_, ?_⟩
  · exact (ofParts brokenParts chain bytesOfParts_brokenParts).trans whole
  · exact library.trans (congrArg _ whole)
  · refine (program _ _ [] selected (by rfl) (by rfl) (by decide) hs same).trans ?_
    exact congrArg _ whole

end History

end ReleaseGate
