import ReleaseGate.Proofs.FirstSignal
import ReleaseGate.Proofs.LinePlaces

/-!
# Parts of patches

A patch of several files is read part by part. The reader carries one bit from line to line, but a
line that starts the diff of a file clears it, whatever stands before (`firstSignal?_append`). So the
first signal of texts one after the other is that of the first text with one, further down by the
lines above it, and neither the order of the parts nor that of the lines of a hunk counts for the
verdict (`firstSignal?_flatten`).
-/

namespace ReleaseGate

/-- A text that starts with something has a first line that does. -/
theorem Text.exists_first_line {p : List Char} (hne : p ≠ []) (hlf : '\n' ∉ p) (hcr : '\r' ∉ p)
    {text : List Char} (h : p <+: text) : ∃ l ls, lines text = l :: ls ∧ p <+: l := by
  by_cases hm : '\n' ∈ text
  · obtain ⟨l, s, rfl, hl⟩ := List.eq_append_cons_of_mem hm
    refine ⟨dropCr l, lines s, lines_append_lf hl s, ?_⟩
    exact (prefix_dropCr_iff hcr l).2 ((prefix_append_cons_iff hlf l s).1 h)
  · have full : text ≠ [] := by
      rintro rfl
      exact hne (List.prefix_nil.1 h)
    exact ⟨text, [], by rw [lines_of_lf_not_mem hm, if_neg full], h⟩

namespace Change

/-- A signal below some more lines. -/
def Signal.shift (above : Nat) (s : Signal) : Signal := ⟨above + s.lineNumber, s.line⟩

@[simp]
theorem Signal.shift_shift (m n : Nat) (s : Signal) : (s.shift m).shift n = s.shift (n + m) := by
  simp [shift, Nat.add_assoc]

/-- A line that starts neither the diff of a file nor a hunk. -/
def IsInner (line : List Char) : Prop := ¬"diff ".toList <+: line ∧ ¬"@@".toList <+: line

namespace Detector

variable (d : Detector)

/-! ### The place of the reader -/

/-- The lines passed before count for the number of a signal only. -/
theorem firstSignalAmong_add (inHunk : Bool) (above seen : Nat) (ls : List (List Char)) :
    d.firstSignalAmong inHunk (above + seen) ls =
      (d.firstSignalAmong inHunk seen ls).map (Signal.shift above) := by
  induction ls generalizing inHunk seen with
  | nil => rfl
  | cons l ls ih =>
    rw [firstSignalAmong, firstSignalAmong]
    by_cases h : d.signals inHunk l = true
    · rw [if_pos h, if_pos h]
      rfl
    · rw [if_neg h, if_neg h, Nat.add_assoc, ih]

theorem firstSignalAmong_eq_map (inHunk : Bool) (seen : Nat) (ls : List (List Char)) :
    d.firstSignalAmong inHunk seen ls = (d.firstSignalAmong inHunk 0 ls).map (Signal.shift seen) :=
  d.firstSignalAmong_add inHunk seen 0 ls

/-- A line that starts the diff of a file is no signal, and the reader forgets its bit there. -/
theorem firstSignalAmong_of_opening {l : List Char} (hl : "diff ".toList <+: l) (inHunk : Bool)
    (seen : Nat) (ls : List (List Char)) :
    d.firstSignalAmong inHunk seen (l :: ls) = d.firstSignalAmong false seen (l :: ls) := by
  have quiet (b : Bool) : ¬d.signals b l = true := fun h => ((signals_iff ..).1 h).1 hl
  have cleared (b : Bool) : hunkAfter b l = false := by
    rw [hunkAfter, opensFile, Text.startsWith_iff.2 hl, if_pos rfl]
  rw [firstSignalAmong, firstSignalAmong, if_neg (quiet inHunk), if_neg (quiet false),
    cleared, cleared]

/-! ### Texts one after the other -/

/-- **A text that starts with the diff of a file is read by itself**, whatever stands above it. -/
theorem firstSignal?_append {t u : List Char} (ht : Text.startsLine true t = true)
    (hu : u = [] ∨ "diff ".toList <+: u) :
    d.firstSignal? (t ++ u) =
      (d.firstSignal? t).or ((d.firstSignal? u).map (Signal.shift (Text.lines t).length)) := by
  have alone (inHunk : Bool) (seen : Nat) : d.firstSignalAmong inHunk seen (Text.lines u) =
      d.firstSignalAmong false seen (Text.lines u) := by
    rcases hu with rfl | hu
    · rfl
    · obtain ⟨l, ls, hlines, hl⟩ := Text.exists_first_line (by decide) (by decide) (by decide) hu
      rw [hlines, d.firstSignalAmong_of_opening hl]
  rw [firstSignal?, Text.lines_append ht, firstSignalAmong_append, alone, Nat.zero_add,
    firstSignalAmong_eq_map _ _ (Text.lines t).length]
  rfl

end Detector

/-- Texts of lines of which all but possibly the first start with the diff of a file. -/
structure PatchTexts (ts : List (List Char)) : Prop where
  ended : ∀ t ∈ ts, ∃ b, t = b ++ ['\n']
  opened : ∀ t ∈ ts.tail, "diff ".toList <+: t

namespace PatchTexts

variable {t : List Char} {ts us : List (List Char)}

theorem tail (h : PatchTexts (t :: ts)) : PatchTexts ts :=
  ⟨fun u hu => h.ended u (List.mem_cons_of_mem t hu),
    fun u hu => h.opened u (List.mem_of_mem_tail hu)⟩

theorem startsLine (h : PatchTexts (t :: ts)) : Text.startsLine true t = true :=
  (Text.startsLine_true_iff t).2 (.inr (h.ended t List.mem_cons_self))

theorem flatten_tail (h : PatchTexts (t :: ts)) :
    ts.flatten = [] ∨ "diff ".toList <+: ts.flatten := by
  cases ts with
  | nil => exact .inl rfl
  | cons u ts => exact .inr ((h.opened u List.mem_cons_self).trans (List.prefix_append u ts.flatten))

theorem of_perm (h : PatchTexts ts) (hp : us.Perm ts) (opened : ∀ t ∈ ts, "diff ".toList <+: t) :
    PatchTexts us :=
  ⟨fun t ht => h.ended t (hp.mem_iff.1 ht),
    fun t ht => opened t (hp.mem_iff.1 (List.mem_of_mem_tail ht))⟩

end PatchTexts

namespace Detector

variable (d : Detector)

theorem firstSignal?_flatten_cons {t : List Char} {ts : List (List Char)}
    (h : PatchTexts (t :: ts)) :
    d.firstSignal? (t :: ts).flatten =
      (d.firstSignal? t).or
        ((d.firstSignal? ts.flatten).map (Signal.shift (Text.lines t).length)) := by
  rw [List.flatten_cons, d.firstSignal?_append h.startsLine h.flatten_tail]

/-- **The first signal is that of the first text with one**, below the lines of those before. -/
theorem firstSignal?_flatten_eq_some_iff {ts : List (List Char)} (h : PatchTexts ts) (s : Signal) :
    d.firstSignal? ts.flatten = some s ↔
      ∃ earlier t later own, ts = earlier ++ t :: later ∧
        (∀ u ∈ earlier, d.firstSignal? u = none) ∧ d.firstSignal? t = some own ∧
        s = own.shift (earlier.map fun u => (Text.lines u).length).sum := by
  induction ts generalizing s with
  | nil =>
    constructor
    · intro hs
      cases hs
    · rintro ⟨earlier, t, later, own, hts, -⟩
      simp at hts
  | cons t ts ih =>
    rw [d.firstSignal?_flatten_cons h]
    cases ht : d.firstSignal? t with
    | some own =>
      constructor
      · intro hs
        obtain rfl : own = s := Option.some.inj hs
        exact ⟨[], t, ts, own, rfl, by simp, ht, by simp [Signal.shift]⟩
      · rintro ⟨earlier, u, later, own', hts, quiet, hu, rfl⟩
        cases earlier with
        | nil =>
          obtain ⟨rfl, -⟩ := List.cons.inj hts
          cases ht.symm.trans hu
          simp [Signal.shift]
        | cons v earlier =>
          obtain ⟨rfl, -⟩ := List.cons.inj hts
          rw [quiet t List.mem_cons_self] at ht
          cases ht
    | none =>
      rw [Option.none_or, Option.map_eq_some_iff]
      constructor
      · rintro ⟨s, hs, rfl⟩
        obtain ⟨earlier, u, later, own, rfl, quiet, hu, rfl⟩ := (ih h.tail s).1 hs
        refine ⟨t :: earlier, u, later, own, rfl, List.forall_mem_cons.2 ⟨ht, quiet⟩, hu, ?_⟩
        rw [Signal.shift_shift, List.map_cons, List.sum_cons]
      · rintro ⟨earlier, u, later, own, hts, quiet, hu, rfl⟩
        cases earlier with
        | nil =>
          obtain ⟨rfl, -⟩ := List.cons.inj hts
          rw [ht] at hu
          cases hu
        | cons v earlier =>
          obtain ⟨rfl, rfl⟩ := List.cons.inj hts
          refine ⟨_, (ih h.tail _).2 ⟨earlier, u, later, own, rfl,
            (List.forall_mem_cons.1 quiet).2, hu, rfl⟩, ?_⟩
          rw [Signal.shift_shift, List.map_cons, List.sum_cons]

theorem isAffected_flatten {ts : List (List Char)} (h : PatchTexts ts) :
    d.isAffected ts.flatten = ts.any d.isAffected := by
  induction ts with
  | nil => rfl
  | cons t ts ih =>
    rw [isAffected, d.firstSignal?_flatten_cons h, Option.isSome_or, Option.isSome_map,
      List.any_cons, ← ih h.tail]
    rfl

theorem firstSignal?_flatten_eq_none_iff {ts : List (List Char)} (h : PatchTexts ts) :
    d.firstSignal? ts.flatten = none ↔ ∀ t ∈ ts, d.firstSignal? t = none := by
  have quiet (t : List Char) : d.firstSignal? t = none ↔ ¬d.isAffected t = true := by
    rw [isAffected, Option.isSome_iff_ne_none, ne_eq, not_not]
  simp only [quiet, d.isAffected_flatten h, List.any_eq_true, not_exists, not_and]

theorem isAffected_flatten_of_perm {ts us : List (List Char)} (h : PatchTexts ts)
    (hp : us.Perm ts) (opened : ∀ t ∈ ts, "diff ".toList <+: t) :
    d.isAffected us.flatten = d.isAffected ts.flatten := by
  rw [d.isAffected_flatten (h.of_perm hp opened), d.isAffected_flatten h, hp.any_eq]

/-! ### The lines of a hunk -/

/-- The bit of the reader stays as it is, so each line is judged by itself. -/
theorem isSome_firstSignalAmong_of_isInner {ls : List (List Char)} (h : ∀ l ∈ ls, IsInner l)
    (inHunk : Bool) (seen : Nat) :
    ls.foldl hunkAfter inHunk = inHunk ∧
      (d.firstSignalAmong inHunk seen ls).isSome = ls.any (d.signals inHunk) := by
  induction ls generalizing seen with
  | nil => exact ⟨rfl, rfl⟩
  | cons l ls ih =>
    obtain ⟨⟨noFile, noHunk⟩, hls⟩ := List.forall_mem_cons.1 h
    have kept : hunkAfter inHunk l = inHunk := by
      rw [Bool.eq_iff_iff, hunkAfter_iff]
      tauto
    obtain ⟨hfold, hany⟩ := ih hls (seen + 1)
    rw [List.foldl_cons, firstSignalAmong, kept, List.any_cons]
    refine ⟨hfold, ?_⟩
    cases d.signals inHunk l with
    | true => rfl
    | false => exact hany

theorem isSome_firstSignalAmong_append (inHunk : Bool) (seen : Nat) (ls ms : List (List Char)) :
    (d.firstSignalAmong inHunk seen (ls ++ ms)).isSome =
      ((d.firstSignalAmong inHunk seen ls).isSome ||
        (d.firstSignalAmong (ls.foldl hunkAfter inHunk) 0 ms).isSome) := by
  rw [firstSignalAmong_append, Option.isSome_or, firstSignalAmong_eq_map _ _ (seen + ls.length),
    Option.isSome_map]

/-- What a stretch of a text adds to the verdict, where neither a file nor a hunk starts in it. -/
theorem isAffected_of_isInner {t : List Char} {above body below : List (List Char)}
    (ht : Text.lines t = above ++ (body ++ below)) (h : ∀ l ∈ body, IsInner l) :
    d.isAffected t =
      ((d.firstSignalAmong false 0 above).isSome ||
        (body.any (d.signals (above.foldl hunkAfter false)) ||
          (d.firstSignalAmong (above.foldl hunkAfter false) 0 below).isSome)) := by
  have inner := d.isSome_firstSignalAmong_of_isInner h (above.foldl hunkAfter false) 0
  rw [isAffected, firstSignal?, ht, isSome_firstSignalAmong_append, isSome_firstSignalAmong_append,
    inner.1, inner.2]

theorem isAffected_of_perm {t t' : List Char} {above body body' below : List (List Char)}
    (ht : Text.lines t = above ++ (body ++ below))
    (ht' : Text.lines t' = above ++ (body' ++ below)) (hp : body'.Perm body)
    (h : ∀ l ∈ body, IsInner l) : d.isAffected t' = d.isAffected t := by
  have h' : ∀ l ∈ body', IsInner l := fun l hl => h l (hp.mem_iff.1 hl)
  rw [d.isAffected_of_isInner ht h, d.isAffected_of_isInner ht' h', hp.any_eq]

/-- **Detection goes part by part.** Of texts one after the other, all but possibly the first of which
start with the diff of a file, the first signal is that of the first text with one, with the lines
before that text added to its number. So the verdict on them together is that there is one with a
signal, and where all start so, their order does not count. Nor does the order of the lines of a hunk,
or of any other stretch in which neither the diff of a file nor a hunk starts. -/
theorem firstSignal?_flatten :
    (∀ ts, PatchTexts ts →
      (∀ s, d.firstSignal? ts.flatten = some s ↔
        ∃ earlier t later own, ts = earlier ++ t :: later ∧
          (∀ u ∈ earlier, d.firstSignal? u = none) ∧ d.firstSignal? t = some own ∧
          s.lineNumber = (earlier.map fun u => (Text.lines u).length).sum + own.lineNumber ∧
          s.line = own.line) ∧
      (d.firstSignal? ts.flatten = none ↔ ∀ t ∈ ts, d.firstSignal? t = none) ∧
      d.isAffected ts.flatten = ts.any d.isAffected ∧
      ((∀ t ∈ ts, "diff ".toList <+: t) →
        ∀ us : List (List Char), us.Perm ts → d.isAffected us.flatten = d.isAffected ts.flatten)) ∧
    ∀ (t t' : List Char) (above body body' below : List (List Char)),
      Text.lines t = above ++ (body ++ below) → Text.lines t' = above ++ (body' ++ below) →
      body'.Perm body → (∀ l ∈ body, ¬"diff ".toList <+: l ∧ ¬"@@".toList <+: l) →
      d.isAffected t' = d.isAffected t := by
  refine ⟨fun ts h => ⟨fun s => ?_, d.firstSignal?_flatten_eq_none_iff h, d.isAffected_flatten h,
    fun opened us hp => d.isAffected_flatten_of_perm h hp opened⟩,
    fun t t' above body body' below ht ht' hp hbody => d.isAffected_of_perm ht ht' hp hbody⟩
  have shifted (above : Nat) (own : Signal) :
      s = own.shift above ↔ s.lineNumber = above + own.lineNumber ∧ s.line = own.line := by
    cases s
    simp [Signal.shift]
  simp only [d.firstSignal?_flatten_eq_some_iff h, shifted]

/-- The first file ends with its hunk open; the header of the second one is passed over all the
same. -/
theorem firstSignal?_flatten_openHunk :
    PatchTexts ["diff a\n@@\n".toList,
        "diff b\n--- schema_version\n@@\n x\n+SCHEMA_VERSION\n".toList] ∧
      firstSignal? ⟨[]⟩ ["diff a\n@@\n".toList,
        "diff b\n--- schema_version\n@@\n x\n+SCHEMA_VERSION\n".toList].flatten =
          some ⟨7, "+SCHEMA_VERSION".toList⟩ ∧
      isAffected ⟨[]⟩ ["diff b\n--- schema_version\n@@\n x\n+SCHEMA_VERSION\n".toList,
        "diff a\n@@\n".toList].flatten = true ∧
      isAffected ⟨[]⟩ "diff b\n--- schema_version\n@@\n+SCHEMA_VERSION\n x\n".toList = true := by
  have texts : PatchTexts ["diff a\n@@\n".toList,
      "diff b\n--- schema_version\n@@\n x\n+SCHEMA_VERSION\n".toList] :=
    ⟨List.forall_mem_cons.2 ⟨⟨"diff a\n@@".toList, rfl⟩, List.forall_mem_singleton.2
      ⟨"diff b\n--- schema_version\n@@\n x\n+SCHEMA_VERSION".toList, rfl⟩⟩, by decide⟩
  obtain ⟨parts, stretches⟩ := firstSignal?_flatten ⟨[]⟩
  obtain ⟨first, -, verdict, anyOrder⟩ := parts _ texts
  have own : firstSignal? ⟨[]⟩ "diff b\n--- schema_version\n@@\n x\n+SCHEMA_VERSION\n".toList =
      some ⟨5, "+SCHEMA_VERSION".toList⟩ := rfl
  have affected : isAffected ⟨[]⟩ "diff b\n--- schema_version\n@@\n x\n+SCHEMA_VERSION\n".toList =
      true := by
    rw [isAffected, own, Option.isSome_some]
  refine ⟨texts, ?_, ?_, ?_⟩
  · exact (first _).2 ⟨["diff a\n@@\n".toList], _, [], _, rfl,
      List.forall_mem_singleton.2 rfl, own, rfl, rfl⟩
  · rw [anyOrder (by decide) _ (List.Perm.swap _ _ []), verdict, List.any_cons, List.any_cons,
      affected, Bool.true_or, Bool.or_true]
  · have passed : Text.lines "diff b\n--- schema_version\n@@\n x\n+SCHEMA_VERSION\n".toList =
        ["diff b".toList, "--- schema_version".toList, "@@".toList] ++
          ([" x".toList, "+SCHEMA_VERSION".toList] ++ []) := rfl
    rw [stretches _ _ ["diff b".toList, "--- schema_version".toList, "@@".toList]
      [" x".toList, "+SCHEMA_VERSION".toList] ["+SCHEMA_VERSION".toList, " x".toList] []
      passed rfl (List.Perm.swap _ _ []) (by decide), affected]

end Detector

end Change

end ReleaseGate
