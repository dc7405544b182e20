import ReleaseGate.Files.Path
import ReleaseGate.History.PathFilter
import ReleaseGate.Proofs.Decoding

/-!
# Plain paths

A path filter made of plain names reads them as they are: a name has no byte with a meaning of its
own, so its pattern is the name (`read?_of_isPlainPattern`), no front is asked for beyond what the
names share (`prefix_of_requiredFront`), and every file that one of them covers is selected
(`filterSelection_of_covers`).
-/

namespace ReleaseGate.History

open Text (Bytes)
open Text.Utf8 (encode)

/-! ### Reading a plain name -/

/-- A name that a filter reads as it is: no character in it makes a glob, takes the meaning of
another one or ends a pattern or a text, it does not start like a comment, a negation or an absolute
path, and it does not end in white space. It may have several components, and a slash at its end. -/
structure IsPlainPath (path : String) : Prop where
  inner : ∀ c ∈ path.toList, c ∉ ['*', '?', '[', '\\', '\n', '\x0b', '\x0c', '\x00']
  front : path.toList.head? ∉ [none, some '#', some '!', some '/']
  notDot : path ≠ "."
  last : path.toList.getLast? ∉ [some ' ', some '\t', some '\r']

theorem isPlainPath_iff (path : String) :
    IsPlainPath path ↔
      (path.toList.all fun c => c ∉ ['*', '?', '[', '\\', '\n', '\x0b', '\x0c', '\x00']) = true ∧
        path.toList.head? ∉ [none, some '#', some '!', some '/'] ∧ path ≠ "." ∧
          path.toList.getLast? ∉ [some ' ', some '\t', some '\r'] := by
  simp only [List.all_eq_true, decide_eq_true_eq]
  exact ⟨fun ⟨i, f, d, l⟩ => ⟨i, f, d, l⟩, fun ⟨i, f, d, l⟩ => ⟨i, f, d, l⟩⟩

instance (path : String) : Decidable (IsPlainPath path) :=
  decidable_of_iff _ (isPlainPath_iff path).symm

theorem hasNul_eq_false_iff {s : String} : Files.hasNul s = false ↔ '\x00' ∉ s.toList := by
  rw [Files.hasNul, ← Bool.not_eq_true, List.contains_iff_mem]

theorem any_hasNul_eq_false_iff {paths : List String} :
    paths.any Files.hasNul = false ↔ ∀ q ∈ paths, Files.hasNul q = false := by
  simp [List.any_eq_false]

theorem IsPlainPath.hasNul {path : String} (h : IsPlainPath path) : Files.hasNul path = false :=
  hasNul_eq_false_iff.2 fun hm => h.inner _ hm (by decide)

/-- The bytes of a plain name. -/
structure IsPlainPattern (s : Bytes) : Prop where
  inner : ∀ b ∈ s, isGlobByte b = false ∧ b ≠ backslashByte ∧ endsPattern b = false
  front : s.head? ∉ [none, some (byte '#'), some (byte '!'), some slash]
  notDot : s ≠ [byte '.']
  last : s.getLast? ∉ [some 32, some 9, some 13]

theorem isPlainPattern_encode {path : String} (h : IsPlainPath path) :
    IsPlainPattern (encode path) := by
  -- a byte with a meaning is an ASCII byte, so it comes from its own character
  have absent (c : Char) (hc : c ∈ ['*', '?', '[', '\\', '\n', '\x0b', '\x0c', '\x00'])
      (hb : byte c < 0x80) (e : c.toNat = (byte c).toNat) : ∀ b ∈ encode path, b ≠ byte c :=
    fun _ hm he => Text.Utf8.not_mem_encode hb e (fun hp => h.inner c hp hc) (he ▸ hm)
  have first (c : Char) (hc : some c ∈ [none, some '#', some '!', some '/'])
      (hb : byte c < 0x80) (e : c.toNat = (byte c).toNat) : (encode path).head? ≠ some (byte c) :=
    fun he => h.front (Text.Utf8.head?_encode hb e he ▸ hc)
  have final (c : Char) (hc : some c ∈ [some ' ', some '\t', some '\r'])
      (hb : byte c < 0x80) (e : c.toNat = (byte c).toNat) :
      (encode path).getLast? ≠ some (byte c) :=
    fun he => h.last (Text.Utf8.getLast?_encode hb e he ▸ hc)
  have nonempty : (encode path).head? ≠ none := by
    intro e
    have hnil : encode path = encode "" := by
      rw [List.head?_eq_none_iff.1 e, Text.Utf8.encode_eq_flatMap]
      rfl
    obtain rfl := Text.Utf8.encode_injective hnil
    exact h.front (by decide)
  refine ⟨fun b hb => ⟨?_, ?_, ?_⟩, ?_, fun e => h.notDot ?_, ?_⟩
  · simp only [isGlobByte, Bool.or_eq_false_iff, beq_eq_false_iff_ne]
    exact ⟨⟨absent '*' (by decide) (by decide) (by decide) b hb,
      absent '?' (by decide) (by decide) (by decide) b hb⟩,
      absent '[' (by decide) (by decide) (by decide) b hb⟩
  · exact absent '\\' (by decide) (by decide) (by decide) b hb
  · simp only [endsPattern, Bool.or_eq_false_iff, beq_eq_false_iff_ne]
    exact ⟨⟨absent '\n' (by decide) (by decide) (by decide) b hb,
      absent '\x0b' (by decide) (by decide) (by decide) b hb⟩,
      absent '\x0c' (by decide) (by decide) (by decide) b hb⟩
  · simp only [List.mem_cons, List.not_mem_nil, or_false, not_or]
    exact ⟨nonempty, first '#' (by decide) (by decide) (by decide),
      first '!' (by decide) (by decide) (by decide), first '/' (by decide) (by decide) (by decide)⟩
  · apply Text.Utf8.encode_injective
    rw [e, Text.Utf8.encode_eq_flatMap]
    decide
  · simp only [List.mem_cons, List.not_mem_nil, or_false, not_or]
    exact ⟨final ' ' (by decide) (by decide) (by decide),
      final '\t' (by decide) (by decide) (by decide),
      final '\r' (by decide) (by decide) (by decide)⟩

/-- Bytes without a meaning of their own are a pattern as they stand. -/
theorem scanPattern_eq {s : Bytes}
    (h : ∀ b ∈ s, isGlobByte b = false ∧ b ≠ backslashByte ∧ endsPattern b = false) :
    scanPattern false s = (s, false) := by
  induction s with
  | nil => rfl
  | cons b s ih =>
    obtain ⟨hg, hb, he⟩ := h b List.mem_cons_self
    simp [scanPattern, hg, hb, he, ih fun c hc => h c (List.mem_cons_of_mem _ hc)]

theorem unescapeSpaces_eq {s : Bytes} (h : backslashByte ∉ s) : unescapeSpaces s = s := by
  fun_induction unescapeSpaces s <;> simp_all

theorem dropLastByte_eq {b : UInt8} {s : Bytes} (h : s.getLast? ≠ some b) : dropLastByte b s = s :=
  if_neg h

theorem prefix_dropLastByte (b : UInt8) (s : Bytes) : dropLastByte b s <+: s := by
  unfold dropLastByte
  split
  · exact List.dropLast_prefix s
  · exact List.prefix_rfl

theorem dropEndBlanks_eq {s : Bytes} (h : s.head? ∉ [some 32, some 9]) : dropEndBlanks s = s := by
  cases s with
  | nil => rfl
  | cons b s => simp_all [dropEndBlanks]

/-- **A plain name is read as it is**, apart from a slash at its end. -/
theorem FilterPattern.read?_of_isPlainPattern {s : Bytes} (h : IsPlainPattern s) :
    FilterPattern.read? s = some ⟨false, false, false, dropLastByte slash s⟩ := by
  have hfront := h.front
  have hlast := h.last
  have escape {t : Bytes} (ht : t <+: s) : backslashByte ∉ t := fun hm =>
    (h.inner _ (ht.subset hm)).2.1 rfl
  have hstar : s ≠ [byte '*'] := by
    rintro rfl
    exact absurd (h.inner _ List.mem_cons_self).1 (by decide)
  have hend : (dropEndBlanks (dropLastByte 13 s).reverse).reverse = s := by
    rw [dropLastByte_eq (by simp_all), dropEndBlanks_eq (by simp_all), List.reverse_reverse]
  cases s with
  | nil => simp at hfront
  | cons b rest =>
    have hcomment : ¬(b = byte '#' ∨ b = 10 ∨ (b = 13 ∧ rest.head? = some 10)) := by
      rintro (rfl | rfl | ⟨-, hr⟩)
      · simp at hfront
      · exact absurd (h.inner _ List.mem_cons_self).2.2 (by decide)
      · exact absurd (h.inner _ (List.mem_cons_of_mem _ (List.mem_of_mem_head? hr))).2.2 (by decide)
    have hnot : b ≠ byte '!' := by
      rintro rfl
      simp at hfront
    have hslash : (b :: rest).head? ≠ some slash := fun e => hfront (by rw [e]; decide)
    have hspaces := unescapeSpaces_eq (escape (prefix_dropLastByte slash (b :: rest)))
    rw [read?, if_neg (not_or.2 ⟨hstar, h.notDot⟩)]
    simp only [if_neg hcomment, if_neg hnot, scanPattern_eq h.inner, if_neg hslash, hend, hspaces,
      List.cons_ne_nil, if_false]

/-! ### What plain names have in common -/

theorem prefix_of_commonFront (s t : Bytes) : commonFront s t <+: s ∧ commonFront s t <+: t := by
  fun_induction commonFront s t with
  | case1 b s t ih =>
    exact ⟨List.cons_prefix_cons.2 ⟨rfl, ih.1⟩, List.cons_prefix_cons.2 ⟨rfl, ih.2⟩⟩
  | case2 => exact ⟨List.nil_prefix, List.nil_prefix⟩
  | case3 => exact ⟨List.nil_prefix, List.nil_prefix⟩

theorem prefix_of_sharedFront {ss : List Bytes} {s : Bytes} (h : s ∈ ss) :
    sharedFront ss <+: s := by
  fun_induction sharedFront ss with
  | case1 => cases h
  | case2 t =>
    obtain rfl := List.mem_singleton.1 h
    exact List.prefix_rfl
  | case3 t ts hts ih =>
    rcases List.mem_cons.1 h with rfl | h
    · exact (prefix_of_commonFront _ _).1
    · exact (prefix_of_commonFront _ _).2.trans (ih h)

theorem beforeGlob_eq {s : Bytes} (h : ∀ b ∈ s, isGlobByte b = false) (before : Option UInt8) :
    beforeGlob before s = s := by
  induction s generalizing before with
  | nil => rfl
  | cons b s ih =>
    simp [beforeGlob, h b List.mem_cons_self, ih fun c hc => h c (List.mem_cons_of_mem _ hc)]

theorem unescape_eq {s : Bytes} (h : backslashByte ∉ s) : unescape s = s := by
  fun_induction unescape s <;> simp_all

/-- The front that is asked for is one of every plain name. -/
theorem prefix_of_requiredFront {ss : List Bytes} (h : ∀ s ∈ ss, IsPlainPattern s) {s : Bytes}
    (hs : s ∈ ss) : requiredFront ss <+: s := by
  have hfront := prefix_of_sharedFront hs
  have inner {b : UInt8} (hb : b ∈ sharedFront ss) := (h s hs).inner b (hfront.subset hb)
  rw [requiredFront, beforeGlob_eq fun b hb => (inner hb).1,
    unescape_eq fun hm => (inner hm).2.1 rfl]
  exact hfront

/-! ### Selection -/

/-- A name as the start of every path below it. -/
def asDirectory (name : String) : List Char :=
  if name.toList.getLast? = some '/' then name.toList else name.toList ++ ['/']

/-- A name covers a file: it is the file's path, or the path of a directory above it. -/
def Covers (name file : String) : Prop := file = name ∨ asDirectory name <+: file.toList

instance (name file : String) : Decidable (Covers name file) :=
  inferInstanceAs (Decidable (_ ∨ _))

/-- A slash at the end of a name makes no difference to its pattern. -/
theorem encode_asDirectory (name : String) :
    encode (String.ofList (asDirectory name)) = dropLastByte slash (encode name) ++ [slash] := by
  have hslash : encode "/" = [slash] := by
    rw [Text.Utf8.encode_eq_flatMap]
    decide
  unfold asDirectory
  split
  · next hl =>
    obtain ⟨cs, hcs⟩ := List.getLast?_eq_some_iff.1 hl
    have e : name = String.ofList cs ++ "/" := by
      apply String.toList_injective
      simpa using hcs
    rw [e, String.ofList_toList, Text.Utf8.encode_append, hslash]
    simp [dropLastByte]
  · next hl =>
    have hn : (encode name).getLast? ≠ some slash := fun h =>
      hl (Text.Utf8.getLast?_encode (by decide) (by decide) h)
    have e : String.ofList (name.toList ++ ['/']) = name ++ "/" := by
      apply String.toList_injective
      simp
    rw [e, Text.Utf8.encode_append, hslash, dropLastByte_eq hn]

/-- The bytes of a file that a name covers start with those of the name. -/
theorem encode_of_covers {name file : String} (h : Covers name file) :
    encode file = encode name ∨
      ∃ rest, encode file = dropLastByte slash (encode name) ++ slash :: rest := by
  refine h.imp (congrArg encode) ?_
  rintro ⟨r, e⟩
  have he : file = String.ofList (asDirectory name) ++ String.ofList r := by
    apply String.toList_injective
    simpa using e.symm
  refine ⟨encode (String.ofList r), ?_⟩
  rw [he, Text.Utf8.encode_append, encode_asDirectory, List.append_assoc, List.singleton_append]

theorem prefix_of_covers {name file : String} (h : Covers name file) :
    encode name <+: encode file := by
  rcases encode_of_covers h with e | ⟨rest, e⟩
  · exact e ▸ List.prefix_rfl
  · rw [e]
    unfold dropLastByte
    split
    · next hl =>
      obtain ⟨t, ht⟩ := List.getLast?_eq_some_iff.1 hl
      rw [ht, List.dropLast_concat]
      exact ⟨rest, by simp⟩
    · exact List.prefix_append _ _

/-- The pattern of a plain name. -/
def FilterPattern.ofName (name : String) : FilterPattern :=
  ⟨false, false, false, dropLastByte slash (encode name)⟩

/-- The pattern of a name decides for every file that the name covers. -/
theorem decides_of_covers {name file : String} (h : Covers name file) :
    (FilterPattern.ofName name).decides (encode file) = some true := by
  have named (t rest : Bytes) :
      FilterPattern.decides ⟨false, false, false, t⟩ (t ++ slash :: rest) = some true := by
    have hn : isNamed t (t ++ slash :: rest) = true := by simp [isNamed]
    simp [FilterPattern.decides, hn]
  rw [FilterPattern.ofName]
  rcases encode_of_covers h with e | ⟨rest, e⟩
  · rw [e]
    by_cases hl : (encode name).getLast? = some slash
    · obtain ⟨t, ht⟩ := List.getLast?_eq_some_iff.1 hl
      rw [ht, dropLastByte, if_pos (by simp), List.dropLast_concat]
      exact named t []
    · rw [dropLastByte_eq hl]
      simp [FilterPattern.decides]
  · rw [e]
    exact named _ rest

/-- A pattern that is not negative never decides against a file. -/
theorem eq_true_of_decides {p : FilterPattern} (hp : p.negative = false) {file : Bytes} {b : Bool}
    (h : p.decides file = some b) : b = true := by
  unfold FilterPattern.decides at h
  split at h
  · rw [hp] at h
    exact (Option.some.inj h).symm
  · simp [hp] at h

/-- **What plain names cover is selected.** -/
theorem filterSelection_of_covers {paths : List String} (hp : ∀ q ∈ paths, IsPlainPath q)
    {name file : String} (hn : name ∈ paths) (hc : Covers name file) :
    filterSelection paths file = true := by
  have plain : ∀ s ∈ paths.map encode, IsPlainPattern s := by
    intro s hs
    obtain ⟨q, hq, rfl⟩ := List.mem_map.1 hs
    exact isPlainPattern_encode (hp q hq)
  have hfront : requiredFront (paths.map encode) <+: encode file :=
    (prefix_of_requiredFront plain (List.mem_map_of_mem hn)).trans (prefix_of_covers hc)
  have hread : (paths.map encode).filterMap FilterPattern.read? =
      paths.map FilterPattern.ofName := by
    rw [List.filterMap_map, List.filterMap_eq_map_iff_forall_eq_some]
    exact fun q hq => FilterPattern.read?_of_isPlainPattern (isPlainPattern_encode (hp q hq))
  -- the first pattern that decides need not be that of `name`, but none decides against a file
  have hdecides : ((paths.map FilterPattern.ofName).findSome? fun p => p.decides (encode file)) =
      some true := by
    have hsome : ((paths.map FilterPattern.ofName).findSome? fun p =>
        p.decides (encode file)).isSome := by
      rw [List.findSome?_isSome_iff]
      exact ⟨_, List.mem_map_of_mem hn, by rw [decides_of_covers hc]; rfl⟩
    obtain ⟨b, hb⟩ := Option.isSome_iff_exists.1 hsome
    obtain ⟨p, hp, hd⟩ := List.exists_of_findSome?_eq_some hb
    obtain ⟨q, -, rfl⟩ := List.mem_map.1 hp
    rw [hb, eq_true_of_decides rfl hd]
  rw [filterSelection, filterSelects]
  simp only [hread, hdecides]
  rw [List.prefix_iff_eq_take.1 hfront]
  simp

end ReleaseGate.History
