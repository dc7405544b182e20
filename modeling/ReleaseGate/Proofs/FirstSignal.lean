import Mathlib
import ReleaseGate.Change.Signal
import ReleaseGate.Proofs.PatternSearch
import ReleaseGate.Proofs.Verdict

/-!
# First signals

What the reader of diffs answers on an arbitrary text, which need not be a patch at all. A line is
a signal if it is a changed line with a marker (`IsSignal`); this is said of the line, of the lines
before it and of the text of the marker, without a reader that goes from line to line. The first
such line is what the reader finds (`exists_detector_firstSignal?_iff`).

* The bit that the reader carries tells whether the last line that opens a file or a hunk opens a
  hunk (`foldl_hunkAfter_iff`).
* The search for a schema identifier finds all of them, although the characters of its middle may
  spell a version as well (`hasIdentifier_iff`), and so does the search for the pattern of
  identifiers (`found_identifierExpr_iff`).
-/

namespace ReleaseGate.Change

open Pattern (Expr Found Spells)

/-! ### Schema identifiers -/

/-- A schema identifier stands in a text: its start, a middle of one character or more, and a
version, of which the first digit is enough. -/
def HasIdentifier (text : List Char) : Prop :=
  ∃ (x m : List Char) (d : Char) (y : List Char),
    text = x ++ "openagent.".toList ++ m ++ ".v".toList ++ d :: y ∧ m ≠ [] ∧
      (∀ c ∈ m, Unicode.isWord c = true ∨ c = '.' ∨ c = '-') ∧ Unicode.isDigit d = true

theorem isIdentifierChar_iff (c : Char) :
    isIdentifierChar c = true ↔ Unicode.isWord c = true ∨ c = '.' ∨ c = '-' := by
  simp [isIdentifierChar, or_assoc]

theorem startsVersion_iff (s : List Char) :
    startsVersion s = true ↔ ∃ d y, s = ".v".toList ++ d :: y ∧ Unicode.isDigit d = true := by
  constructor
  · intro h
    unfold startsVersion at h
    split at h
    · next d y => exact ⟨d, y, rfl, h⟩
    · cases h
  · rintro ⟨d, y, rfl, hd⟩
    exact hd

/-- Every character of the middle is one after which the version may follow, so none is lost by
going on. -/
theorem versionFollows_iff (s : List Char) :
    versionFollows s = true ↔
      ∃ m d y, s = m ++ ".v".toList ++ d :: y ∧ m ≠ [] ∧ (∀ c ∈ m, isIdentifierChar c = true) ∧
        Unicode.isDigit d = true := by
  induction s with
  | nil => simp [versionFollows]
  | cons c s ih =>
    rw [versionFollows, Bool.and_eq_true, Bool.or_eq_true, startsVersion_iff, ih]
    constructor
    · rintro ⟨hc, ⟨d, y, rfl, hd⟩ | ⟨m, d, y, rfl, -, hm, hd⟩⟩
      · exact ⟨[c], d, y, rfl, by simp, by simpa using hc, hd⟩
      · exact ⟨c :: m, d, y, rfl, by simp, List.forall_mem_cons.2 ⟨hc, hm⟩, hd⟩
    · rintro ⟨m, d, y, e, hne, hm, hd⟩
      obtain ⟨b, m, rfl⟩ := List.exists_cons_of_ne_nil hne
      obtain ⟨rfl, rfl⟩ := List.cons.inj e
      obtain ⟨hc, hm⟩ := List.forall_mem_cons.1 hm
      refine ⟨hc, ?_⟩
      cases m with
      | nil => exact .inl ⟨d, y, rfl, hd⟩
      | cons b m => exact .inr ⟨b :: m, d, y, rfl, by simp, hm, hd⟩

theorem hasIdentifier_cons_iff (c : Char) (s : List Char) :
    hasIdentifier (c :: s) = true ↔
      (∃ r, c :: s = identifierStart ++ r ∧ versionFollows r = true) ∨
        hasIdentifier s = true := by
  rw [hasIdentifier, Bool.or_eq_true]
  simp only [← Text.stripStart?_eq_some_iff]
  cases Text.stripStart? identifierStart (c :: s) <;> simp

theorem hasIdentifier_iff_exists_start (text : List Char) :
    hasIdentifier text = true ↔
      ∃ x r, text = x ++ (identifierStart ++ r) ∧ versionFollows r = true := by
  induction text with
  | nil =>
    have hne : identifierStart ≠ [] := by decide
    simp [hasIdentifier, hne]
  | cons c s ih =>
    rw [hasIdentifier_cons_iff, ih]
    constructor
    · rintro (⟨r, e, hr⟩ | ⟨x, r, rfl, hr⟩)
      · exact ⟨[], r, e, hr⟩
      · exact ⟨c :: x, r, rfl, hr⟩
    · rintro ⟨x, r, e, hr⟩
      cases x with
      | nil => exact .inl ⟨r, e, hr⟩
      | cons b x =>
        obtain ⟨-, rfl⟩ := List.cons.inj e
        exact .inr ⟨x, r, rfl, hr⟩

/-- **The search finds every schema identifier.** -/
theorem hasIdentifier_iff (text : List Char) : hasIdentifier text = true ↔ HasIdentifier text := by
  simp only [hasIdentifier_iff_exists_start, versionFollows_iff, isIdentifierChar_iff]
  have together (x s m v r : List Char) : x ++ s ++ m ++ v ++ r = x ++ (s ++ (m ++ v ++ r)) := by
    simp only [List.append_assoc]
  constructor
  · rintro ⟨x, r, e, m, d, y, hr, hne, hm, hd⟩
    rw [hr] at e
    exact ⟨x, m, d, y, e.trans (together x identifierStart m ".v".toList (d :: y)).symm, hne, hm,
      hd⟩
  · rintro ⟨x, m, d, y, e, hne, hm, hd⟩
    exact ⟨x, m ++ ".v".toList ++ d :: y,
      e.trans (together x identifierStart m ".v".toList (d :: y)), m, d, y, rfl, hne, hm, hd⟩

/-- Schema identifiers as a pattern. -/
def identifierPattern : String := "openagent\\.[\\w.-]+\\.v\\d+"

/-- The characters of the middle as a class. -/
def middleClass : Pattern.CharClass :=
  .union (.union (.having Unicode.isWord) (.one '.')) (.one '-')

theorem mem_middleClass_iff (c : Char) :
    middleClass.mem c = true ↔ Unicode.isWord c = true ∨ c = '.' ∨ c = '-' := by
  simp [middleClass, Pattern.CharClass.mem, or_assoc]

/-- That pattern once it is read. -/
def identifierExpr : Expr :=
  Pattern.literal "openagent.".toList
    (.seq (.rep (.chars middleClass) 1 none)
      (Pattern.literal ".v".toList
        (.seq (.rep (.chars (.having Unicode.isDigit)) 1 none) .empty)))

theorem read?_identifierPattern : Pattern.read? identifierPattern.toList = some identifierExpr := by
  cbv

/-- **The pattern of schema identifiers is found exactly where one stands**: of the digits that it
takes, the first one is enough, and the middle may be as long as it likes. -/
theorem found_identifierExpr_iff (text : List Char) :
    Found text identifierExpr ↔ HasIdentifier text := by
  have hfree : identifierExpr.LookFree :=
    Pattern.lookFree_literal ⟨trivial, Pattern.lookFree_literal ⟨trivial, trivial⟩⟩
  rw [Pattern.found_iff_spells text hfree]
  constructor
  · rintro ⟨_, h, x, z, rfl⟩
    obtain ⟨_, ⟨m, _, hmiddle, hrest, rfl⟩, rfl⟩ := (Pattern.spells_literal_iff _ _ _).1 h
    obtain ⟨_, ⟨ds, _, hdigits, rfl, rfl⟩, rfl⟩ := (Pattern.spells_literal_iff _ _ _).1 hrest
    obtain ⟨hne, hm⟩ := (Pattern.spells_rep_chars_iff _ m).1 hmiddle
    obtain ⟨hdne, hds⟩ := (Pattern.spells_rep_chars_iff _ ds).1 hdigits
    obtain ⟨d, ds, rfl⟩ := List.exists_cons_of_ne_nil hdne
    refine ⟨x, m, d, ds ++ z, ?_, hne, fun c hc => (mem_middleClass_iff c).1 (hm c hc),
      hds d List.mem_cons_self⟩
    generalize "openagent.".toList = start
    simp
  · rintro ⟨x, m, d, y, rfl, hne, hm, hd⟩
    have hmiddle : Spells (.rep (.chars middleClass) 1 none) m :=
      (Pattern.spells_rep_chars_iff _ m).2 ⟨hne, fun c hc => (mem_middleClass_iff c).2 (hm c hc)⟩
    have hdigit : Spells (.rep (.chars (.having Unicode.isDigit)) 1 none) [d] :=
      (Pattern.spells_rep_chars_iff _ [d]).2 ⟨by simp, fun c hc => List.mem_singleton.1 hc ▸ hd⟩
    refine ⟨"openagent.".toList ++ (m ++ (".v".toList ++ ([d] ++ []))), ?_, x, y, ?_⟩
    · refine (Pattern.spells_literal_iff _ _ _).2 ⟨_, ⟨m, _, hmiddle, ?_, rfl⟩, rfl⟩
      exact (Pattern.spells_literal_iff _ _ _).2 ⟨_, ⟨[d], [], hdigit, rfl, rfl⟩, rfl⟩
    · generalize "openagent.".toList = start
      simp

/-! ### Markers -/

/-- A marker stands in a text: the name of a schema constant, a schema identifier, or a match of an
extra pattern. -/
def HasMarker (patterns : List String) (text : List Char) : Prop :=
  "SCHEMA_VERSION".toList <:+: text ∨ "schema_version".toList <:+: text ∨ HasIdentifier text ∨
    ∃ p ∈ patterns, ∃ e, Pattern.read? p.toList = some e ∧ Found text e

theorem isMarker_iff {patterns : List String} {d : Detector}
    (hd : Detector.ofPatterns patterns = .ok d) (text : List Char) :
    d.isMarker text = true ↔ HasMarker patterns text := by
  obtain ⟨-, rfl⟩ := Detector.ofPatterns_eq_ok_iff.1 hd
  have extra : ((patterns.filterMap fun p => Pattern.read? p.toList).any fun p =>
        Pattern.found p text) = true ↔
      ∃ p ∈ patterns, ∃ e, Pattern.read? p.toList = some e ∧ Found text e := by
    simp only [List.any_eq_true, List.mem_filterMap]
    constructor
    · rintro ⟨e, ⟨p, hp, he⟩, hfound⟩
      exact ⟨p, hp, e, he, (Pattern.found_eq_true_iff (Pattern.proper_of_read? he) text).1 hfound⟩
    · rintro ⟨p, hp, e, he, hfound⟩
      exact ⟨e, ⟨p, hp, he⟩, (Pattern.found_eq_true_iff (Pattern.proper_of_read? he) text).2 hfound⟩
  rw [Detector.isMarker, Bool.or_eq_true, hasBuiltinMarker, Bool.or_eq_true, hasIdentifier_iff,
    extra, HasMarker, markerNames, List.any_cons, List.any_cons, List.any_nil, Bool.or_false,
    Bool.or_eq_true, Text.occursIn_iff, Text.occursIn_iff, or_assoc, or_assoc]

/-! ### Lines in hunks -/

/-- A line stands in a hunk: of the lines before it that start the diff of a file or a hunk there is
one, and the last of them starts a hunk. -/
def StandsInHunk (ls : List (List Char)) (i : Nat) : Prop :=
  ∃ k heading, k < i ∧ ls[k]? = some heading ∧ "@@".toList <+: heading ∧
    ∀ m l, k < m → m < i → ls[m]? = some l → ¬"diff ".toList <+: l ∧ ¬"@@".toList <+: l

theorem not_standsInHunk_zero (ls : List (List Char)) : ¬StandsInHunk ls 0 := by
  rintro ⟨k, _, hk, -⟩
  exact Nat.not_lt_zero k hk

/-- The line before the next one decides, unless it starts neither. -/
theorem standsInHunk_succ_iff {ls : List (List Char)} {i : Nat} {l : List Char}
    (hl : ls[i]? = some l) :
    StandsInHunk ls (i + 1) ↔
      "@@".toList <+: l ∨
        ¬"diff ".toList <+: l ∧ ¬"@@".toList <+: l ∧ StandsInHunk ls i := by
  constructor
  · rintro ⟨k, heading, hk, hheading, hp, hlast⟩
    rcases Nat.lt_succ_iff_lt_or_eq.1 hk with hk | rfl
    · obtain ⟨hdiff, hhunk⟩ := hlast i l hk (Nat.lt_succ_self i) hl
      exact .inr ⟨hdiff, hhunk, k, heading, hk, hheading, hp, fun m l' hkm hmi =>
        hlast m l' hkm (Nat.lt_succ_of_lt hmi)⟩
    · cases hl.symm.trans hheading
      exact .inl hp
  · rintro (hp | ⟨hdiff, hhunk, k, heading, hk, hheading, hp, hlast⟩)
    · exact ⟨i, l, Nat.lt_succ_self i, hl, hp, fun m l' him hmi => absurd hmi (by omega)⟩
    · refine ⟨k, heading, Nat.lt_succ_of_lt hk, hheading, hp, fun m l' hkm hmi hl' => ?_⟩
      rcases Nat.lt_succ_iff_lt_or_eq.1 hmi with hmi | rfl
      · exact hlast m l' hkm hmi hl'
      · cases hl.symm.trans hl'
        exact ⟨hdiff, hhunk⟩

theorem hunkAfter_iff (inHunk : Bool) (l : List Char) :
    hunkAfter inHunk l = true ↔
      "@@".toList <+: l ∨
        ¬"diff ".toList <+: l ∧ ¬"@@".toList <+: l ∧ inHunk = true := by
  have apart : "@@".toList <+: l → ¬"diff ".toList <+: l := by
    rintro ⟨s, rfl⟩
    simp
  unfold hunkAfter opensFile opensHunk
  simp only [Text.startsWith_iff]
  split_ifs with hdiff hhunk
  · have hhunk := mt apart (not_not_intro hdiff)
    tauto
  · tauto
  · tauto

/-- **The bit that the reader carries to a line of a text tells whether it stands in a hunk.** -/
theorem foldl_hunkAfter_iff {ls : List (List Char)} {i : Nat} (hi : i ≤ ls.length) :
    (ls.take i).foldl hunkAfter false = true ↔ StandsInHunk ls i := by
  induction i with
  | zero => simp [not_standsInHunk_zero]
  | succ i ih =>
    have hl : ls[i]? = some ls[i] := List.getElem?_eq_getElem hi
    rw [List.take_add_one, hl, Option.toList_some, List.foldl_append, List.foldl_cons,
      List.foldl_nil, hunkAfter_iff, standsInHunk_succ_iff hl, ih (Nat.le_of_succ_le hi)]

/-! ### Signals -/

/-- The line at a place among lines is a signal: it starts neither the diff of a file nor a hunk, it
is an added or a removed one, it names no file unless it stands in a hunk, and a marker stands in
what follows its sign. -/
structure IsSignal (patterns : List String) (ls : List (List Char)) (i : Nat) (line : List Char) :
    Prop where
  stands : ls[i]? = some line
  noFile : ¬"diff ".toList <+: line
  noHunk : ¬"@@".toList <+: line
  changed : "+".toList <+: line ∨ "-".toList <+: line
  noName : (¬"+++".toList <+: line ∧ ¬"---".toList <+: line) ∨ StandsInHunk ls i
  marked : HasMarker patterns (line.drop 1)

theorem changedContent?_eq_some_iff (line content : List Char) :
    changedContent? line = some content ↔
      ("+".toList <+: line ∨ "-".toList <+: line) ∧ content = line.drop 1 := by
  cases line with
  | nil => simp [changedContent?]
  | cons c s =>
    by_cases h : c = '+' ∨ c = '-'
    · rcases h with rfl | rfl <;> simp [changedContent?, eq_comm]
    · rw [not_or] at h
      simp [changedContent?, h, Ne.symm h.1, Ne.symm h.2]

theorem signals_iff (d : Detector) (inHunk : Bool) (line : List Char) :
    d.signals inHunk line = true ↔
      ¬"diff ".toList <+: line ∧ ¬"@@".toList <+: line ∧
        ("+".toList <+: line ∨ "-".toList <+: line) ∧
        ((¬"+++".toList <+: line ∧ ¬"---".toList <+: line) ∨ inHunk = true) ∧
        d.isMarker (line.drop 1) = true := by
  have hcontent := changedContent?_eq_some_iff line
  unfold Detector.signals opensFile opensHunk namesFile
  simp only [Bool.or_eq_true, Bool.and_eq_true, Bool.not_eq_true', Text.startsWith_iff]
  split_ifs with hstart hname
  · tauto
  · rw [← Bool.not_eq_true] at hname
    tauto
  · rw [← Bool.not_eq_true] at hname
    cases hc : changedContent? line with
    | some content =>
      obtain ⟨hsign, rfl⟩ := (hcontent content).1 hc
      tauto
    | none =>
      have hsign : ¬("+".toList <+: line ∨ "-".toList <+: line) := fun hsign => by
        rw [(hcontent _).2 ⟨hsign, rfl⟩] at hc
        cases hc
      tauto

/-- **A run of the reader**: it stops at the first line that it takes for a signal with the bit that
the lines before have left. -/
theorem firstSignalAmong_eq_some_iff (d : Detector) (inHunk : Bool) (seen : Nat)
    (ls : List (List Char)) (s : Signal) :
    d.firstSignalAmong inHunk seen ls = some s ↔
      ∃ i, s.lineNumber = seen + i + 1 ∧ ls[i]? = some s.line ∧
        d.signals ((ls.take i).foldl hunkAfter inHunk) s.line = true ∧
        ∀ k l, k < i → ls[k]? = some l →
          d.signals ((ls.take k).foldl hunkAfter inHunk) l = false := by
  induction ls generalizing inHunk seen with
  | nil => simp [Detector.firstSignalAmong]
  | cons line ls ih =>
    rw [Detector.firstSignalAmong]
    by_cases h : d.signals inHunk line = true
    · rw [if_pos h]
      constructor
      · intro e
        cases e
        exact ⟨0, rfl, rfl, h, fun k l hk => absurd hk (Nat.not_lt_zero k)⟩
      · rintro ⟨i, hnumber, hline, hsignal, hearlier⟩
        cases i with
        | zero =>
          cases hline
          obtain ⟨number, _⟩ := s
          cases hnumber
          rfl
        | succ i =>
          have := hearlier 0 line (Nat.succ_pos i) rfl
          rw [List.take_zero, List.foldl_nil, h] at this
          cases this
    · rw [if_neg h, ih]
      constructor
      · rintro ⟨i, hnumber, hline, hsignal, hearlier⟩
        refine ⟨i + 1, by omega, hline, hsignal, fun k l hk hl => ?_⟩
        cases k with
        | zero =>
          cases hl
          exact Bool.eq_false_iff.2 h
        | succ k => exact hearlier k l (Nat.lt_of_succ_lt_succ hk) hl
      · rintro ⟨i, hnumber, hline, hsignal, hearlier⟩
        cases i with
        | zero =>
          cases hline
          exact absurd hsignal h
        | succ i =>
          exact ⟨i, by omega, hline, hsignal, fun k l hk hl =>
            hearlier (k + 1) l (Nat.succ_lt_succ hk) hl⟩

theorem isSignal_iff {patterns : List String} {d : Detector}
    (hd : Detector.ofPatterns patterns = .ok d) {ls : List (List Char)} {i : Nat}
    {line : List Char} (hl : ls[i]? = some line) :
    IsSignal patterns ls i line ↔ d.signals ((ls.take i).foldl hunkAfter false) line = true := by
  have hi : i ≤ ls.length := Nat.le_of_lt (List.getElem?_eq_some_iff.1 hl).1
  rw [signals_iff, foldl_hunkAfter_iff hi, isMarker_iff hd]
  constructor
  · rintro ⟨-, noFile, noHunk, changed, noName, marked⟩
    exact ⟨noFile, noHunk, changed, noName, marked⟩
  · rintro ⟨noFile, noHunk, changed, noName, marked⟩
    exact ⟨hl, noFile, noHunk, changed, noName, marked⟩

/-- **The reader finds the first signal of any text.** Take extra patterns that are valid. There is
a detector with them, and of any text it answers the least line that is a signal, counted from one
and with all its text, and nothing exactly where no line is one. Identifiers are what the pattern of
identifiers finds. -/
theorem exists_detector_firstSignal?_iff {patterns : List String}
    (valid : ∀ p ∈ patterns, Pattern.isValid p.toList = true) :
    (∃ d, Detector.ofPatterns patterns = .ok d ∧ ∀ diff : List Char,
      (∀ s, d.firstSignal? diff = some s ↔
        ∃ i, s.lineNumber = i + 1 ∧ IsSignal patterns (Text.lines diff) i s.line ∧
          ∀ k < i, ∀ l, ¬IsSignal patterns (Text.lines diff) k l) ∧
      (d.firstSignal? diff = none ↔ ∀ i l, ¬IsSignal patterns (Text.lines diff) i l)) ∧
    ∃ e, Pattern.read? identifierPattern.toList = some e ∧
      ∀ text, Found text e ↔ HasIdentifier text := by
  refine ⟨?_, identifierExpr, read?_identifierPattern, found_identifierExpr_iff⟩
  have hd := Detector.ofPatterns_eq_ok_iff.2 ⟨valid, rfl⟩
  refine ⟨_, hd, fun diff => ?_⟩
  have first (s : Signal) := firstSignalAmong_eq_some_iff
    ⟨patterns.filterMap fun p => Pattern.read? p.toList⟩ false 0 (Text.lines diff) s
  have found (s : Signal) :
      Detector.firstSignal? ⟨patterns.filterMap fun p => Pattern.read? p.toList⟩ diff = some s ↔
        ∃ i, s.lineNumber = i + 1 ∧ IsSignal patterns (Text.lines diff) i s.line ∧
          ∀ k < i, ∀ l, ¬IsSignal patterns (Text.lines diff) k l := by
    rw [Detector.firstSignal?, first]
    constructor
    · rintro ⟨i, hnumber, hline, hsignal, hearlier⟩
      refine ⟨i, by omega, (isSignal_iff hd hline).2 hsignal, fun k hk l h => ?_⟩
      have := hearlier k l hk h.stands
      rw [(isSignal_iff hd h.stands).1 h] at this
      cases this
    · rintro ⟨i, hnumber, hsignal, hearlier⟩
      refine ⟨i, by omega, hsignal.stands, (isSignal_iff hd hsignal.stands).1 hsignal,
        fun k l hk hl => ?_⟩
      rw [← Bool.not_eq_true]
      exact fun h => hearlier k hk l ((isSignal_iff hd hl).2 h)
  refine ⟨found, ?_⟩
  constructor
  · intro hnone i l h
    -- of the lines that are signals, the first one would have been found
    classical
    have some_signal : ∃ i l, IsSignal patterns (Text.lines diff) i l := ⟨i, l, h⟩
    obtain ⟨l, hleast⟩ := Nat.find_spec some_signal
    have := (found ⟨Nat.find some_signal + 1, l⟩).2 ⟨_, rfl, hleast, fun k hk l h =>
      Nat.find_min some_signal hk ⟨l, h⟩⟩
    rw [hnone] at this
    cases this
  · intro hno
    cases h : Detector.firstSignal? ⟨patterns.filterMap fun p => Pattern.read? p.toList⟩ diff with
    | none => rfl
    | some s =>
      obtain ⟨i, -, hsignal, -⟩ := (found s).1 h
      exact absurd hsignal (hno i s.line)

/-- In a hunk a removed line may look like the name of a file, and the middle of its identifier may
spell a version. -/
theorem exists_detector_firstSignal?_dashes :
    (∀ p ∈ ["wire_\\d+"], Pattern.isValid p.toList = true) ∧
      ∃ d, Detector.ofPatterns ["wire_\\d+"] = .ok d ∧
        d.firstSignal? "--- a/wire_1\n@@ -1 +0,0 @@\n--- openagent.a.v1.v2".toList =
          some ⟨3, "--- openagent.a.v1.v2".toList⟩ ∧
        IsSignal ["wire_\\d+"]
          (Text.lines "--- a/wire_1\n@@ -1 +0,0 @@\n--- openagent.a.v1.v2".toList) 2
          "--- openagent.a.v1.v2".toList := by
  have valid : ∀ p ∈ ["wire_\\d+"], Pattern.isValid p.toList = true :=
    List.forall_mem_singleton.2 (by cbv)
  obtain ⟨⟨d, hd, reads⟩, -⟩ := exists_detector_firstSignal?_iff valid
  have answer : d.firstSignal? "--- a/wire_1\n@@ -1 +0,0 @@\n--- openagent.a.v1.v2".toList =
      some ⟨3, "--- openagent.a.v1.v2".toList⟩ := by
    obtain ⟨-, rfl⟩ := Detector.ofPatterns_eq_ok_iff.1 hd
    rfl
  obtain ⟨i, hi, hsignal, -⟩ := ((reads _).1 _).1 answer
  cases hi
  exact ⟨valid, d, hd, answer, hsignal⟩

end ReleaseGate.Change
