import ReleaseGate.Proofs.FirstDeclaration
import ReleaseGate.Proofs.NotesLines
import ReleaseGate.Proofs.NotesPattern

/-!
# Schema Notes headings

The form of a Schema Notes heading at a place of a text (`NotesAt`): a line starts there with at most
three blanks, two or three marks, white space, and the words in any case, which end there. A document
has Schema Notes exactly if a heading stands at some place, and these are the places from which the
pattern of headings matches (`hasSchemaNotes_iff_exists_notesAt`).
-/

namespace ReleaseGate

namespace Pattern

/-- A pattern is found exactly if it matches from some place. -/
theorem found_eq_true_iff_matchesFrom {p : Expr} (hp : p.Proper) (text : List Char) :
    found p text = true ↔ ∃ before behind, text = before ++ behind ∧ MatchesFrom before behind p := by
  rw [found_eq_true_iff hp]
  constructor
  · rintro ⟨i, j, hi, h⟩
    refine ⟨text.take i, text.drop i, (List.take_append_drop i text).symm, j, ?_⟩
    rwa [List.take_append_drop, List.length_take_of_le hi]
  · rintro ⟨before, behind, rfl, j, h⟩
    exact ⟨before.length, j, by simp, h⟩

end Pattern

namespace Unicode

/-- The table of a property is read off its characters. -/
theorem Ranges.mem_ofHex (table : List Char) (c : Char) (h : (read none none table).mem c = true) :
    (ofHex (String.ofList table)).mem c = true := by
  rwa [ofHex, String.toList_ofList]

-- the table of small letters has more characters than the default depth allows
set_option maxRecDepth 20000 in
theorem isWord_longS : isWord '\u017F' = true := by
  have small : Category.ll.mem '\u017F' = true := by
    rw [Category.mem, Category.ranges]
    exact Ranges.mem_ofHex _ _ (by decide +kernel)
  have other : isAscii '\u017F' = false := rfl
  simp [isWord, isAlphabetic, inCategories, other, small]

end Unicode

namespace Release

/-- A Schema Notes heading stands in a text behind `before`, at the start of a line. -/
def NotesAt (text before : List Char) : Prop :=
  (before = [] ∨ ∃ b, before = b ++ ['\n']) ∧
  ∃ indent marks gap words rest : List Char,
    text = before ++ (indent ++ (marks ++ (gap ++ (words ++ rest)))) ∧
    indent.length ≤ 3 ∧ (∀ c ∈ indent, c = ' ' ∨ c = '\t') ∧
    (marks = ['#', '#'] ∨ marks = ['#', '#', '#']) ∧
    gap ≠ [] ∧ (∀ c ∈ gap, Text.isSpace c = true) ∧
    words.map Unicode.fold = "schema notes".toList.map Unicode.fold ∧
    (rest = [] ∨ ∃ c r, rest = c :: r ∧ Unicode.isWord c = false)

/-! ### Characters in any case -/

theorem fold_eq_iff_mem (c d : Char) :
    Unicode.fold c = Unicode.fold d ↔ c ∈ Unicode.foldOrbit d := by
  rw [Unicode.mem_foldOrbit_iff, Unicode.sameFold, beq_iff_eq, eq_comm]

/-- A character that is not a letter is like itself only. -/
theorem fold_eq_iff_eq {d : Char} (h : Unicode.foldOrbit d = [d, d]) (c : Char) :
    Unicode.fold c = Unicode.fold d ↔ c = d := by
  simp [fold_eq_iff_mem, h]

/-- Besides the two cases of the letter, the long s counts as one. -/
theorem fold_eq_s_iff (c : Char) :
    Unicode.fold c = Unicode.fold 's' ↔ c = 's' ∨ c = 'S' ∨ c = '\u017F' := by
  have orbit : Unicode.foldOrbit 's' = ['s', 's', 'S', '\u017F'] := by decide +kernel
  simp [fold_eq_iff_mem, orbit]

theorem isSpace_eq_false_of_fold_eq {c : Char} (h : Unicode.fold c = Unicode.fold 's') :
    Text.isSpace c = false := by
  rcases (fold_eq_s_iff c).1 h with rfl | rfl | rfl <;> rfl

theorem isWord_of_fold_eq {c : Char} (h : Unicode.fold c = Unicode.fold 's') :
    Unicode.isWord c = true := by
  rcases (fold_eq_s_iff c).1 h with rfl | rfl | rfl
  · rfl
  · rfl
  · exact Unicode.isWord_longS

/-! ### The words -/

theorem exists_cons_of_words {words : List Char}
    (h : words.map Unicode.fold = notesWords.map Unicode.fold) :
    ∃ c w, words = c :: w ∧ Text.isSpace c = false := by
  obtain ⟨c, w, rfl, hc, -⟩ := List.map_eq_cons_iff.1 h
  exact ⟨c, w, rfl, isSpace_eq_false_of_fold_eq hc⟩

theorem exists_concat_of_words {words : List Char}
    (h : words.map Unicode.fold = notesWords.map Unicode.fold) :
    ∃ w c, words = w ++ [c] ∧ Unicode.isWord c = true := by
  have split : notesWords = "schema note".toList ++ ['s'] := rfl
  rw [split, List.map_append] at h
  obtain ⟨w, l, rfl, -, hl⟩ := List.map_eq_append_iff.1 h
  obtain ⟨c, m, rfl, hc, hm⟩ := List.map_eq_cons_iff.1 hl
  obtain rfl := List.map_eq_nil_iff.1 hm
  exact ⟨w, c, rfl, isWord_of_fold_eq hc⟩

theorem stripFolded?_eq_some_iff (words s rest : List Char) :
    stripFolded? words s = some rest ↔
      ∃ w, s = w ++ rest ∧ w.map Unicode.fold = words.map Unicode.fold := by
  induction words generalizing s with
  | nil => simp [stripFolded?, eq_comm]
  | cons d words ih =>
    cases s with
    | nil => simp [stripFolded?]
    | cons c s =>
      simp only [stripFolded?, Unicode.sameFold, beq_iff_eq]
      constructor
      · intro h
        split at h
        · next hc =>
          obtain ⟨w, rfl, hw⟩ := (ih s).1 h
          exact ⟨c :: w, rfl, by rw [List.map_cons, List.map_cons, hc, hw]⟩
        · cases h
      · rintro ⟨w, hs, hall⟩
        obtain ⟨e, w, rfl, he, hw⟩ := List.map_eq_cons_iff.1 hall
        obtain ⟨rfl, rfl⟩ := List.cons.inj hs
        rw [if_pos he.symm]
        exact (ih _).2 ⟨w, rfl, hw⟩

theorem wordEnds_iff (rest : List Char) :
    wordEnds rest = true ↔ rest = [] ∨ ∃ c r, rest = c :: r ∧ Unicode.isWord c = false := by
  cases rest <;> simp [wordEnds]

theorem startsWithWords_iff (s : List Char) :
    startsWithWords s = true ↔
      ∃ words rest, s = words ++ rest ∧ words.map Unicode.fold = notesWords.map Unicode.fold ∧
        wordEnds rest = true := by
  have strip : startsWithWords s = true ↔
      ∃ rest, stripFolded? notesWords s = some rest ∧ wordEnds rest = true := by
    rw [startsWithWords]
    cases stripFolded? notesWords s <;> simp
  simp only [strip, stripFolded?_eq_some_iff]
  constructor
  · rintro ⟨rest, ⟨words, rfl, hwords⟩, hrest⟩
    exact ⟨words, rest, rfl, hwords, hrest⟩
  · rintro ⟨words, rest, rfl, hwords, hrest⟩
    exact ⟨rest, ⟨words, rfl, hwords⟩, hrest⟩

/-- The words start with no white space, so that before them is taken whole. -/
theorem startsWithWords_dropSpace_iff (s : List Char) :
    startsWithWords (Text.dropSpace s) = true ↔
      ∃ gap words rest, s = gap ++ (words ++ rest) ∧ Text.isBlank gap = true ∧
        words.map Unicode.fold = notesWords.map Unicode.fold ∧ wordEnds rest = true := by
  rw [startsWithWords_iff]
  constructor
  · rintro ⟨words, rest, hs, hwords, hrest⟩
    obtain ⟨c, w, rfl, hc⟩ := exists_cons_of_words hwords
    obtain ⟨gap, hgap, rfl⟩ := (Text.dropSpace_eq_cons_iff hc s _).1 hs
    exact ⟨gap, c :: w, rest, rfl, hgap, hwords, hrest⟩
  · rintro ⟨gap, words, rest, rfl, hgap, hwords, hrest⟩
    refine ⟨words, rest, ?_, hwords, hrest⟩
    obtain ⟨c, w, rfl, hc⟩ := exists_cons_of_words hwords
    exact (Text.dropSpace_eq_cons_iff hc _ _).2 ⟨gap, hgap, rfl⟩

/-! ### The search -/

/-- **A run of the search** stops at a start of a line at which a heading stands. -/
theorem notesFrom_iff (atStart : Bool) (s : List Char) :
    notesFrom atStart s = true ↔
      ∃ before rest, s = before ++ rest ∧ Text.startsLine atStart before = true ∧
        notesAtFront rest = true := by
  induction s generalizing atStart with
  | nil =>
    constructor
    · intro h
      cases h
    · rintro ⟨before, rest, h, -, hfront⟩
      obtain ⟨-, rfl⟩ := List.append_eq_nil_iff.1 h.symm
      cases hfront
  | cons c s ih =>
    rw [notesFrom, Bool.or_eq_true, Bool.and_eq_true, ih]
    constructor
    · rintro (⟨hstart, hfront⟩ | ⟨before, rest, rfl, hstart, hfront⟩)
      · exact ⟨[], c :: s, rfl, hstart, hfront⟩
      · exact ⟨c :: before, rest, rfl, hstart, hfront⟩
    · rintro ⟨before, rest, hs, hstart, hfront⟩
      cases before with
      | nil =>
        obtain rfl : c :: s = rest := hs
        exact .inl ⟨hstart, hfront⟩
      | cons d before =>
        obtain ⟨rfl, rfl⟩ := List.cons.inj hs
        exact .inr ⟨before, rest, rfl, hstart, hfront⟩

/-- What the reader takes at the front of a text is a heading. -/
theorem notesAt_iff (text before : List Char) :
    NotesAt text before ↔
      Text.startsLine true before = true ∧
        ∃ s, text = before ++ s ∧ notesAtFront s = true := by
  rw [Text.startsLine_true_iff]
  simp only [NotesAt, notesAtFront_iff, startsWithWords_dropSpace_iff, ← wordEnds_iff,
    ← Text.isIndent_iff]
  refine and_congr_right fun _ => ?_
  constructor
  · rintro ⟨indent, marks, gap, words, rest, rfl, short, blank, hmarks, hne, hgap, hwords, hrest⟩
    obtain ⟨c, gap, rfl⟩ := List.exists_cons_of_ne_nil hne
    obtain ⟨hc, hgap⟩ := List.forall_mem_cons.1 hgap
    exact ⟨_, rfl, indent ++ marks, c, gap ++ (words ++ rest), by simp,
      ⟨indent, marks, rfl, short, blank, hmarks⟩, hc, gap, words, rest, rfl,
      List.all_eq_true.2 hgap, hwords, hrest⟩
  · rintro ⟨_, rfl, _, c, _, rfl, ⟨indent, marks, rfl, short, blank, hmarks⟩, hc, gap, words, rest,
      rfl, hgap, hwords, hrest⟩
    exact ⟨indent, marks, c :: gap, words, rest, by simp, short, blank, hmarks,
      List.cons_ne_nil c gap, List.forall_mem_cons.2 ⟨hc, List.all_eq_true.1 hgap⟩, hwords, hrest⟩

theorem hasSchemaNotes_iff_notesAt (text : List Char) :
    hasSchemaNotes text = true ↔ ∃ before, NotesAt text before := by
  simp only [hasSchemaNotes, notesFrom_iff, notesAt_iff]
  constructor
  · rintro ⟨before, rest, hs, hstart, hfront⟩
    exact ⟨before, hstart, rest, hs, hfront⟩
  · rintro ⟨before, hstart, rest, hs, hfront⟩
    exact ⟨before, rest, hs, hstart, hfront⟩

/-! ### The pattern -/

theorem mem_blankClass_iff (c : Char) : blankClass.mem c = true ↔ c = ' ' ∨ c = '\t' := by
  rw [blankClass, Pattern.mem_folded_union_iff, Pattern.mem_folded_one_iff,
    Pattern.mem_folded_one_iff, fold_eq_iff_eq (by decide +kernel), fold_eq_iff_eq (by decide +kernel)]

theorem spells_marksExpr_iff (m : List Char) :
    Pattern.Spells marksExpr m ↔ m = ['#', '#'] ∨ m = ['#', '#', '#'] := by
  have mark : Unicode.foldOrbit '#' = ['#', '#'] := by decide +kernel
  have marks (n : Nat) : m.map Unicode.fold = (List.replicate n '#').map Unicode.fold ↔
      m = List.replicate n '#' := by
    simp [List.eq_replicate_iff, fold_eq_iff_eq mark]
  exact or_congr ((Pattern.spells_foldedLiteral_iff ..).trans (marks 2))
    ((Pattern.spells_foldedLiteral_iff ..).trans (marks 3))

/-- Behind the words a boundary of words is an end of one. -/
theorem holds_boundary_iff {words : List Char}
    (h : words.map Unicode.fold = notesWords.map Unicode.fold) (before rest : List Char) :
    (Pattern.Look.boundary Unicode.isWord).holds (before ++ words).getLast? rest.head? = true ↔
      wordEnds rest = true := by
  obtain ⟨w, c, rfl, hc⟩ := exists_concat_of_words h
  have last : (before ++ (w ++ [c])).getLast? = some c := by simp
  rw [last]
  cases rest <;> simp [Pattern.Look.holds, Pattern.wordAt, wordEnds, hc]

/-- **The pattern matches from a place exactly if a heading stands there.** -/
theorem matchesFrom_notesExpr_iff (before behind : List Char) :
    Pattern.MatchesFrom before behind notesExpr ↔ NotesAt (before ++ behind) before := by
  have start : before.getLast? = none ∨ before.getLast? = some '\n' ↔
      before = [] ∨ ∃ b, before = b ++ ['\n'] := by
    rw [List.getLast?_eq_none_iff, List.getLast?_eq_some_iff]
  have blanks : (Pattern.Expr.rep (.chars blankClass) 0 (some 3)).LookFree := trivial
  have marks : marksExpr.LookFree :=
    ⟨Pattern.lookFree_foldedLiteral _, Pattern.lookFree_foldedLiteral _⟩
  have words (m : List Char) : m.map Unicode.fold = "Schema Notes".toList.map Unicode.fold ↔
      m.map Unicode.fold = notesWords.map Unicode.fold := by
    have e : "Schema Notes".toList.map Unicode.fold = notesWords.map Unicode.fold := by
      decide +kernel
    rw [e]
  simp only [notesExpr, Pattern.matchesFrom_look_seq_iff, Pattern.matchesFrom_seq_iff blanks,
    Pattern.matchesFrom_seq_iff marks, Pattern.matchesFrom_rep_seq_iff,
    Pattern.matchesFrom_foldedLiteral_iff, Pattern.matchesFrom_empty, and_true,
    Pattern.holds_lineStart_iff, start, Pattern.spells_rep_iff, spells_marksExpr_iff,
    mem_blankClass_iff, words, NotesAt, List.append_cancel_left_eq]
  refine and_congr_right fun _ => ?_
  constructor
  · rintro ⟨indent, _, rfl, ⟨-, short, blank⟩, marks, _, rfl, hmarks, gap, _, rfl, hne, hgap, words,
      rest, rfl, hwords, hrest⟩
    exact ⟨indent, marks, gap, words, rest, rfl, short 3 rfl, blank, hmarks,
      List.ne_nil_of_length_pos hne, hgap, hwords,
      (wordEnds_iff rest).1 ((holds_boundary_iff hwords _ rest).1 hrest)⟩
  · rintro ⟨indent, marks, gap, words, rest, rfl, short, blank, hmarks, hne, hgap, hwords, hrest⟩
    refine ⟨indent, _, rfl, ⟨Nat.zero_le _, ?_, blank⟩, marks, _, rfl, hmarks, gap, _, rfl,
      List.length_pos_iff.2 hne, hgap, words, rest, rfl, hwords, ?_⟩
    · rintro n ⟨⟩
      exact short
    · exact (holds_boundary_iff hwords _ rest).2 ((wordEnds_iff rest).2 hrest)

/-- **A document has Schema Notes exactly if a heading stands at some place of it.** These are the
places from which the pattern of headings matches. Where the words are compared, a space is like a
space only, and each s may be a long one. -/
theorem hasSchemaNotes_iff_exists_notesAt :
    (∀ text, hasSchemaNotes text = true ↔ ∃ before, NotesAt text before) ∧
    (∃ e, Pattern.read? notesPattern.toList = some e ∧
      (∀ before behind, Pattern.MatchesFrom before behind e ↔ NotesAt (before ++ behind) before) ∧
      ∀ text, Pattern.found e text = hasSchemaNotes text) ∧
    (∀ c, Unicode.fold c = Unicode.fold ' ' ↔ c = ' ') ∧
    ∀ c, Unicode.fold c = Unicode.fold 's' ↔ c = 's' ∨ c = 'S' ∨ c = '\u017F' := by
  refine ⟨hasSchemaNotes_iff_notesAt, ⟨notesExpr, read?_notesPattern, matchesFrom_notesExpr_iff,
    fun text => ?_⟩, fold_eq_iff_eq (by decide +kernel), fold_eq_s_iff⟩
  have proper := Pattern.proper_of_read? read?_notesPattern
  rw [Bool.eq_iff_iff, Pattern.found_eq_true_iff_matchesFrom proper, hasSchemaNotes_iff_notesAt]
  constructor
  · rintro ⟨before, behind, rfl, h⟩
    exact ⟨before, (matchesFrom_notesExpr_iff before behind).1 h⟩
  · rintro ⟨before, h⟩
    obtain ⟨-, behind, rfl, -⟩ := (notesAt_iff text before).1 h
    exact ⟨before, behind, rfl, (matchesFrom_notesExpr_iff before behind).2 h⟩

/-- A heading below another line, with two long s in its words; four marks are no heading's, and a
longer word is not the word. -/
example :
    hasSchemaNotes "#\n \t##\n\u017FCHEMA note\u017F: none\n".toList = true ∧
      hasSchemaNotes "#### Schema Notes\n## Schema Notes1\n".toList = false := by
  decide +kernel

end Release

end ReleaseGate
