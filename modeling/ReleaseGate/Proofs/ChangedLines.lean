import ReleaseGate.Change.Marker
import ReleaseGate.History.FilePatch
import ReleaseGate.Proofs.Decoding

/-!
# Changed lines

What an edit script between two contents changes, line by line. A script may be any one between
the two: lines of which it changes none stand on both sides in the same order
(`filter_source_eq_filter_target`).
-/

namespace ReleaseGate.History

open Text (Bytes)
open Text.Utf8 (decodeLossy)

/-! ### Changed lines of a script -/

section Scripts

variable {α : Type}

/-- A line that a script deletes or inserts. -/
def IsChanged (es : List (Edit α)) (a : α) : Prop := .delete a ∈ es ∨ .insert a ∈ es

theorem isChanged_cons_keep (a : α) (es : List (Edit α)) (c : α) :
    IsChanged (.keep a :: es) c ↔ IsChanged es c := by
  simp [IsChanged]

theorem isChanged_cons_delete (a : α) (es : List (Edit α)) (c : α) :
    IsChanged (.delete a :: es) c ↔ c = a ∨ IsChanged es c := by
  simp [IsChanged, or_assoc]

theorem isChanged_cons_insert (a : α) (es : List (Edit α)) (c : α) :
    IsChanged (.insert a :: es) c ↔ c = a ∨ IsChanged es c := by
  simp [IsChanged, or_left_comm]

theorem mem_stretchesFrom_iff (s : Stretch α) (es : List (Edit α)) (a : α) :
    (∃ t ∈ stretchesFrom s es, a ∈ t.removed ∨ a ∈ t.inserted) ↔
      (a ∈ s.removed ∨ a ∈ s.inserted) ∨ IsChanged es a := by
  have finished (s : Stretch α) :
      (∃ t ∈ s.finished, a ∈ t.removed ∨ a ∈ t.inserted) ↔ a ∈ s.removed ∨ a ∈ s.inserted := by
    unfold Stretch.finished
    split <;> simp_all
  induction es generalizing s with
  | nil => simp [stretchesFrom, finished, IsChanged]
  | cons e es ih =>
    cases e with
    | delete b => simp only [stretchesFrom, ih, IsChanged]; simp; tauto
    | insert b => simp only [stretchesFrom, ih, IsChanged]; simp; tauto
    | keep b =>
      simp only [stretchesFrom, List.mem_append, or_and_right, exists_or, ih, finished, IsChanged]
      simp

/-- The stretches of a script hold its changed lines and no others. -/
theorem mem_stretches_iff (es : List (Edit α)) (a : α) :
    (∃ t ∈ stretches es, a ∈ t.removed ∨ a ∈ t.inserted) ↔ IsChanged es a := by
  simp [stretches, mem_stretchesFrom_iff]

theorem mem_source_of_delete {es : List (Edit α)} {a : α} (h : .delete a ∈ es) : a ∈ source es := by
  induction es with
  | nil => cases h
  | cons e es ih =>
    cases e with
    | keep b => exact List.mem_cons_of_mem _ (ih (by simpa using h))
    | delete b =>
      rcases List.mem_cons.1 h with e | h
      · cases e
        exact List.mem_cons_self
      · exact List.mem_cons_of_mem _ (ih h)
    | insert b => exact ih (by simpa using h)

theorem mem_target_of_insert {es : List (Edit α)} {a : α} (h : .insert a ∈ es) : a ∈ target es := by
  induction es with
  | nil => cases h
  | cons e es ih =>
    cases e with
    | keep b => exact List.mem_cons_of_mem _ (ih (by simpa using h))
    | delete b => exact ih (by simpa using h)
    | insert b =>
      rcases List.mem_cons.1 h with e | h
      · cases e
        exact List.mem_cons_self
      · exact List.mem_cons_of_mem _ (ih h)

/-- Lines of which a script changes none stand on both sides in the same order. -/
theorem filter_source_eq_filter_target (p : α → Bool) {es : List (Edit α)}
    (h : ∀ a, IsChanged es a → p a = false) : (source es).filter p = (target es).filter p := by
  induction es with
  | nil => rfl
  | cons e es ih =>
    -- a line that is kept goes to both sides, and one that is not has no part in the filter
    have ih := ih fun a ha => h a (ha.imp (List.mem_cons_of_mem _) (List.mem_cons_of_mem _))
    cases e with
    | keep a => simp [source, target, List.filter_cons, ih]
    | delete a => simp [source, target, h a (.inl List.mem_cons_self), ih]
    | insert a => simp [source, target, h a (.inr List.mem_cons_self), ih]

end Scripts

/-! ### Lines of a content -/

/-- A line of a content without its line feed. -/
def lineContent (line : Bytes) : Bytes :=
  if line.getLast? = some lineFeed then line.dropLast else line

theorem lineContent_cons {b : UInt8} (hb : b ≠ lineFeed) (line : Bytes) :
    lineContent (b :: line) = b :: lineContent line := by
  cases line with
  | nil => simp [lineContent, hb]
  | cons c s =>
    simp only [lineContent, List.getLast?_cons_cons, List.dropLast_cons_cons]
    split <;> rfl

/-- A line feed stands only at the end of a line. -/
theorem lineFeed_not_mem_lineContent {content line : Bytes} (h : line ∈ contentLines content) :
    lineFeed ∉ lineContent line := by
  induction content generalizing line with
  | nil => cases h
  | cons b bs ih =>
    rw [contentLines] at h
    split at h
    · next hb =>
      rcases List.mem_cons.1 h with rfl | h
      · simp [lineContent, hb]
      · exact ih h
    · next hb =>
      split at h
      · next hn =>
        rw [List.mem_singleton.1 h, lineContent_cons hb]
        simp [lineContent, Ne.symm hb]
      · next l ls hl =>
        rcases List.mem_cons.1 h with rfl | h
        · rw [lineContent_cons hb, List.mem_cons, not_or]
          exact ⟨Ne.symm hb, ih (hl ▸ List.mem_cons_self)⟩
        · exact ih (hl ▸ List.mem_cons_of_mem _ h)

/-- Whether a line of a content bears a marker: it is decoded with loss, and a carriage return at
its end is no part of it. -/
def bearsMarker (d : Change.Detector) (line : Bytes) : Bool :=
  d.isMarker (Text.dropCr (decodeLossy (lineContent line)))

/-! ### The script of a file's patch -/

theorem map_withMarks (ls : List Bytes) (marks : Array Bool) :
    (withMarks ls marks).map (·.1) = ls := by
  simp [withMarks, Function.comp_def]

/-- The edit script that the hunks of a patch are made of. -/
def Style.script (style : Style) (old new : Bytes) : List (Edit Bytes) :=
  let (old, new) := if style.dropsCommonEnd then dropCommonEnd old new else (old, new)
  scriptOf style.byIndent (contentLines old) (contentLines new)

theorem source_scriptOf (byIndent : Bool) (old new : List Bytes) :
    source (scriptOf byIndent old new) = old := by
  rw [scriptOf, source_ofMarks, map_withMarks]

theorem target_scriptOf (byIndent : Bool) (old new : List Bytes) :
    target (scriptOf byIndent old new) = new := by
  rw [scriptOf, target_ofMarks, map_withMarks]

theorem Style.hunks_eq (style : Style) (old new : Bytes) :
    style.hunks old new =
      (stretches (style.script old new)).map (style.hunkOf (source (style.script old new))) := by
  rw [script, source_scriptOf]
  rfl

/-- What a script changes are lines of a content. -/
theorem lineFeed_not_mem_of_isChanged {style : Style} {old new line : Bytes}
    (h : IsChanged (style.script old new) line) : lineFeed ∉ lineContent line := by
  rcases h with h | h
  · have := mem_source_of_delete h
    rw [Style.script, source_scriptOf] at this
    exact lineFeed_not_mem_lineContent this
  · have := mem_target_of_insert h
    rw [Style.script, target_scriptOf] at this
    exact lineFeed_not_mem_lineContent this

end ReleaseGate.History
