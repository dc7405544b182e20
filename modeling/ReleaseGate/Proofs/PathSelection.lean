import Mathlib.Data.List.TakeWhile
import ReleaseGate.History.Checkout
import ReleaseGate.Proofs.PlainPaths
import ReleaseGate.Proofs.StrictDecoding

/-!
# What plain names select

Both ways to read the paths that limit a diff respect the components of a path: a plain name selects
nothing but the file of that name and the files below it (`liesUnder_of_selectedBy`,
`liesUnder_of_filterSelection`), and the program refuses none (`selection_of_isPlainSpec`). A plain
name is one that its reader takes as it is (`IsPlainSpec`, `IsPlainPath`); which characters have a
meaning of their own is up to the reader.
-/

namespace ReleaseGate.History

open Text (Bytes)
open Text.Utf8 (encode)

/-! ### At or below a name -/

/-- A file lies at a name or below it: behind a slash each, the one path starts with the other. -/
def LiesUnder (name file : String) : Prop := asDirectory name <+: file.toList ++ ['/']

instance (name file : String) : Decidable (LiesUnder name file) :=
  inferInstanceAs (Decidable (_ <+: _))

/-- A name whose continuation is none of a directory is a sibling. -/
theorem not_liesUnder_sibling {name : String} (hname : name.toList.getLast? ≠ some '/') {c : Char}
    (hc : c ≠ '/') (rest : List Char) : ¬LiesUnder name (name ++ String.ofList (c :: rest)) := by
  intro h
  rw [LiesUnder, asDirectory, if_neg hname] at h
  simp only [String.toList_append, String.toList_ofList, List.append_assoc, List.cons_append,
    List.prefix_append_right_inj, List.cons_prefix_cons] at h
  exact hc h.1.symm

example : ¬LiesUnder "src" "srcfoo/lib.rs" ∧ LiesUnder "src" "src/foo/lib.rs" := by decide

theorem prefix_of_prefix_encode {s t : String} (h : encode s <+: encode t) :
    s.toList <+: t.toList := by
  obtain ⟨rest, e⟩ := h
  have hd := Text.Utf8.decode?_encode_append s rest
  rw [e, Text.Utf8.decode?_encode] at hd
  obtain ⟨cs, -, hcs⟩ := Option.map_eq_some_iff.1 hd.symm
  exact ⟨cs, hcs⟩

/-- The bytes of the paths tell where a file lies. -/
theorem liesUnder_of_prefix {name file : String}
    (h : dropLastByte slash (encode name) ++ [slash] <+: encode file ++ [slash]) :
    LiesUnder name file := by
  have hslash : encode "/" = [slash] := by
    rw [Text.Utf8.encode_eq_flatMap]
    decide
  rw [← encode_asDirectory, ← hslash, ← Text.Utf8.encode_append] at h
  simpa [LiesUnder] using prefix_of_prefix_encode h

theorem prefix_of_isNamed {pattern file : Bytes} (h : isNamed pattern file = true) :
    pattern ++ [slash] <+: file ++ [slash] := by
  rw [isNamed, Bool.and_eq_true, beq_iff_eq] at h
  obtain ⟨htake, hnext⟩ := h
  obtain ⟨rest, rfl⟩ : pattern <+: file := List.prefix_iff_eq_take.2 htake.symm
  cases rest with
  | nil => simp
  | cons b rest =>
    obtain rfl : b = slash := by simpa using hnext
    simp

/-! ### Globs of plain bytes -/

theorem globTokens_eq {pattern : Bytes} (h : ∀ b ∈ pattern, isGlobSpecial b = false) {fuel : Nat}
    (hfuel : pattern.length ≤ fuel) (before : Option UInt8) :
    globTokens ⟨false, false⟩ fuel before pattern = pattern.map fun c => .one (· == c) := by
  induction pattern generalizing fuel before with
  | nil => cases fuel <;> rfl
  | cons c s ih =>
    obtain ⟨n, rfl⟩ : ∃ n, fuel = n + 1 := ⟨fuel - 1, by simp at hfuel; omega⟩
    have hc := h c List.mem_cons_self
    simp only [isGlobSpecial, Bool.or_eq_false_iff, beq_eq_false_iff_ne] at hc
    obtain ⟨⟨⟨star, mark⟩, bracket⟩, backslash⟩ := hc
    have ih := ih (fun b hb => h b (List.mem_cons_of_mem _ hb)) (by simpa using hfuel) (some c)
    simp only [globTokens, if_neg backslash, if_neg mark, if_neg star, if_neg bracket, ih]
    rfl

/-- A pattern without globs matches itself only. -/
theorem eq_of_globMatches {pattern file : Bytes} (h : ∀ b ∈ pattern, isGlobSpecial b = false)
    (hm : globMatches ⟨false, false⟩ pattern file = true) : pattern = file := by
  rw [globMatches, globTokens_eq h (Nat.le_succ _)] at hm
  clear h
  induction pattern generalizing file with
  | nil => exact (List.isEmpty_iff.1 hm).symm
  | cons c s ih =>
    cases file with
    | nil => cases hm
    | cons b file =>
      simp only [List.map_cons, matchTokens, Bool.and_eq_true, beq_iff_eq] at hm
      rw [← hm.1, ih hm.2]
      rfl

/-! ### The library -/

theorem liesUnder_of_decides {name file : String} (hname : IsPlainPath name)
    (h : (FilterPattern.ofName name).decides (encode file) = some true) : LiesUnder name file := by
  have inner : ∀ b ∈ dropLastByte slash (encode name), isGlobSpecial b = false := by
    intro b hb
    obtain ⟨hg, hbackslash, -⟩ :=
      (isPlainPattern_encode hname).inner b ((prefix_dropLastByte _ _).subset hb)
    rw [isGlobByte] at hg
    rw [isGlobSpecial, hg, Bool.false_or, beq_eq_false_iff_ne]
    exact hbackslash
  have same (e : dropLastByte slash (encode name) = encode file) : LiesUnder name file :=
    liesUnder_of_prefix (e ▸ List.prefix_rfl)
  unfold FilterPattern.decides FilterPattern.ofName at h
  split at h
  · next hd =>
    simp only [Bool.false_or, Bool.not_false, Bool.true_and, Bool.or_eq_true, Bool.and_eq_true,
      beq_iff_eq] at hd
    obtain (e | hm) | ⟨-, hn⟩ := hd
    · exact same e
    · exact same (eq_of_globMatches inner hm)
    · exact liesUnder_of_prefix (prefix_of_isNamed hn)
  · simp at h

/-- **Of plain names, the library selects** what lies at one of them or below it. -/
theorem liesUnder_of_filterSelection {paths : List String} (hne : paths ≠ [])
    (hp : ∀ q ∈ paths, IsPlainPath q) {file : String} (h : filterSelection paths file = true) :
    ∃ name ∈ paths, LiesUnder name file := by
  have hread : (paths.map encode).filterMap FilterPattern.read? =
      paths.map FilterPattern.ofName := by
    rw [List.filterMap_map, List.filterMap_eq_map_iff_forall_eq_some]
    exact fun q hq => FilterPattern.read?_of_isPlainPattern (isPlainPattern_encode (hp q hq))
  rw [filterSelection, filterSelects] at h
  simp only [hread, Bool.and_eq_true, Bool.or_eq_true, List.isEmpty_iff, List.map_eq_nil_iff, hne,
    false_or] at h
  cases hd : (paths.map FilterPattern.ofName).findSome? fun p => p.decides (encode file) with
  | none => simp [hd] at h
  | some b =>
    obtain rfl : b = true := by simpa [hd] using h.2
    obtain ⟨p, hpm, hpd⟩ := List.exists_of_findSome?_eq_some hd
    obtain ⟨name, hname, rfl⟩ := List.mem_map.1 hpm
    exact ⟨name, hname, liesUnder_of_decides (hp name hname) hpd⟩

/-! ### The program -/

/-- A component that stands for itself. -/
def IsName (piece : List Char) : Prop := piece ∉ [[], ['.'], ['.', '.']]

instance (piece : List Char) : Decidable (IsName piece) := inferInstanceAs (Decidable (¬_))

/-- A pathspec that the program reads as it is: no character in it makes a glob or ends a text, it
does not start with a colon, and every component is a name. It may have a slash at its end. -/
structure IsPlainSpec (spec : String) : Prop where
  inner : ∀ c ∈ spec.toList, c ∉ ['*', '?', '[', '\\', '\x00']
  front : spec.toList.head? ≠ some ':'
  components : ∀ p ∈ (Files.pieces (asDirectory spec)).dropLast, IsName p

theorem isPlainSpec_iff (spec : String) :
    IsPlainSpec spec ↔ (spec.toList.all fun c => c ∉ ['*', '?', '[', '\\', '\x00']) = true ∧
      spec.toList.head? ≠ some ':' ∧
        ∀ p ∈ (Files.pieces (asDirectory spec)).dropLast, IsName p := by
  simp only [List.all_eq_true, decide_eq_true_eq]
  exact ⟨fun ⟨i, f, c⟩ => ⟨i, f, c⟩, fun ⟨i, f, c⟩ => ⟨i, f, c⟩⟩

instance (spec : String) : Decidable (IsPlainSpec spec) :=
  decidable_of_iff _ (isPlainSpec_iff spec).symm

theorem IsPlainSpec.hasNul {spec : String} (h : IsPlainSpec spec) : Files.hasNul spec = false :=
  hasNul_eq_false_iff.2 fun hm => h.inner _ hm (by decide)

theorem pieces_append_slash (s : List Char) : Files.pieces (s ++ ['/']) = Files.pieces s ++ [[]] :=
  Files.pieces_append s []

theorem joinComponents_pieces (s : List Char) : joinComponents (Files.pieces s) = s := by
  induction s with
  | nil => rfl
  | cons c s ih =>
    rw [Files.pieces]
    cases hs : Files.pieces s with
    | nil => exact absurd hs (Files.pieces_ne_nil s)
    | cons l ls =>
      rw [hs] at ih
      split
      · next h =>
        rw [joinComponents, ih, h, List.nil_append]
        exact List.cons_ne_nil l ls
      · cases ls with
        | nil => exact congrArg (c :: ·) ih
        | cons m ms => exact congrArg (c :: ·) ih

/-- Through names, one walks to the place that they lead to. -/
theorem walkUp_eq {ps : List (List Char)} (h : ∀ p ∈ ps, IsName p) (above : List (List Char)) :
    walkUp above ps = some (ps.reverse ++ above) ∧
      walkUp above (ps ++ [[]]) = some (ps.reverse ++ above) := by
  induction ps generalizing above with
  | nil => exact ⟨rfl, rfl⟩
  | cons p ps ih =>
    have hp : IsName p := h p List.mem_cons_self
    simp only [IsName, List.mem_cons, List.not_mem_nil, or_false, not_or] at hp
    obtain ⟨hempty, hdot, hdots⟩ := hp
    have ih := ih (fun q hq => h q (List.mem_cons_of_mem _ hq)) (p :: above)
    simpa only [List.cons_append, walkUp, if_neg (not_or.2 ⟨hempty, hdot⟩), if_neg hdots,
      List.reverse_cons, List.append_assoc, List.nil_append] using ih

/-- A path of names is normal, with a slash at its end or without. -/
theorem normalise?_eq {d : List Char} (h : ∀ p ∈ Files.pieces d, IsName p) :
    normalise? d = some d ∧ normalise? (d ++ ['/']) = some (d ++ ['/']) := by
  obtain ⟨hwalk, hwalk'⟩ := walkUp_eq h []
  obtain ⟨ps, p, hps⟩ := List.eq_nil_or_concat (Files.pieces d) |>.resolve_left (Files.pieces_ne_nil d)
  rw [List.concat_eq_append] at hps
  have hjoin : joinComponents (p :: ps.reverse).reverse = d := by
    rw [List.reverse_cons, List.reverse_reverse, ← hps, joinComponents_pieces]
  have hp : IsName p := h p (by simp [hps])
  simp only [IsName, List.mem_cons, List.not_mem_nil, or_false, not_or] at hp
  have hp : ¬(p = [] ∨ p = ['.'] ∨ p = ['.', '.']) := by tauto
  constructor
  · simp only [normalise?, hwalk]
    simp only [hps, List.reverse_append, List.reverse_singleton, List.singleton_append,
      List.append_nil, List.getLast?_append, List.getLast?_singleton, Option.some_or, if_neg hp,
      hjoin]
  · simp only [normalise?, pieces_append_slash, hwalk']
    simp only [hps, List.reverse_append, List.reverse_singleton, List.singleton_append,
      List.append_nil, List.getLast?_append, List.getLast?_singleton, Option.some_or, true_or,
      if_true, hjoin]

/-- The components of a plain spec, and the two ways in which it can end. -/
theorem IsPlainSpec.exists_directory {spec : String} (h : IsPlainSpec spec) :
    ∃ d, (∀ p ∈ Files.pieces d, IsName p) ∧ asDirectory spec = d ++ ['/'] ∧
      (spec.toList = d ∨ spec.toList = d ++ ['/']) := by
  have components := h.components
  rw [asDirectory] at components ⊢
  split at components
  · next hl =>
    obtain ⟨d, hd⟩ := List.getLast?_eq_some_iff.1 hl
    rw [hd, pieces_append_slash, List.dropLast_concat] at components
    exact ⟨d, components, by rw [if_pos hl, hd], .inr hd⟩
  · next hl =>
    rw [pieces_append_slash, List.dropLast_concat] at components
    exact ⟨spec.toList, components, by rw [if_neg hl], .inl rfl⟩

theorem IsPlainSpec.normalise? {spec : String} (h : IsPlainSpec spec) :
    History.normalise? spec.toList = some spec.toList := by
  obtain ⟨d, names, -, e | e⟩ := h.exists_directory
  · rw [e]
    exact (normalise?_eq names).1
  · rw [e]
    exact (normalise?_eq names).2

/-- The first component of a plain spec is not empty. -/
theorem IsPlainSpec.head? {spec : String} (h : IsPlainSpec spec) :
    ∃ c rest, spec.toList = c :: rest ∧ c ≠ '/' ∧ c ≠ ':' := by
  obtain ⟨d, names, -, e⟩ := h.exists_directory
  have front := h.front
  cases d with
  | nil => exact absurd (names [] (by decide)) (by decide)
  | cons c d =>
    have hc : c ≠ '/' := by
      rintro rfl
      exact absurd (names [] (by simp [Files.pieces])) (by decide)
    obtain ⟨rest, hspec⟩ : ∃ rest, spec.toList = c :: rest := by
      rcases e with e | e
      · exact ⟨d, e⟩
      · exact ⟨d ++ ['/'], e⟩
    refine ⟨c, rest, hspec, hc, ?_⟩
    rintro rfl
    exact front (by rw [hspec]; rfl)

theorem IsPlainSpec.ne_empty {spec : String} (h : IsPlainSpec spec) : spec ≠ "" := by
  rintro rfl
  obtain ⟨c, rest, e, -⟩ := h.head?
  cases e

/-- The bytes of a plain spec make no glob. -/
theorem IsPlainSpec.not_isGlobSpecial {spec : String} (h : IsPlainSpec spec) :
    ∀ b ∈ encode spec, isGlobSpecial b = false := by
  have absent (c : Char) (hc : c ∈ ['*', '?', '[', '\\', '\x00'])
      (hb : byte c < 0x80) (e : c.toNat = (byte c).toNat) : ∀ b ∈ encode spec, b ≠ byte c :=
    fun _ hm he => Text.Utf8.not_mem_encode hb e (fun hp => h.inner c hp hc) (he ▸ hm)
  intro b hb
  simp only [isGlobSpecial, Bool.or_eq_false_iff, beq_eq_false_iff_ne]
  exact ⟨⟨⟨absent '*' (by decide) (by decide) (by decide) b hb,
    absent '?' (by decide) (by decide) (by decide) b hb⟩,
    absent '[' (by decide) (by decide) (by decide) b hb⟩,
    absent '\\' (by decide) (by decide) (by decide) b hb⟩

/-- The pathspec of a plain name: no magic, and no part for a glob. -/
def Pathspec.ofName (name : String) : Pathspec := ⟨.none, encode name, 0, (encode name).length⟩

/-- **A plain name is read as it is** from the top of the repository. -/
theorem Pathspec.read_of_isPlainSpec {spec : String} (h : IsPlainSpec spec) (top : Files.Place) :
    Pathspec.read ⟨top, []⟩ spec = .ok (.ofName spec) := by
  obtain ⟨c, rest, e, hslash, hcolon⟩ := h.head?
  have hmagic : magicOf spec = .ok (.none, spec.toList) := by
    unfold magicOf
    split
    · next h' => exact absurd (List.cons.inj (e.symm.trans h')).1 hcolon
    · next h' => exact absurd (List.cons.inj (e.symm.trans h')).1 hcolon
    · rfl
  have hhead : ¬spec.toList.head? = some '/' := by
    rw [e]
    exact fun h' => hslash (Option.some.inj h')
  have hpath : pathFromTop? ⟨top, []⟩ .none spec.toList = some spec.toList := by
    simp only [pathFromTop?, Magic.none, Bool.false_eq_true, if_false, if_neg hhead,
      List.flatMap_nil, List.nil_append, h.normalise?]
  have hbelow : encode (String.ofList (([] : List Files.Name).flatMap (· ++ ['/']))) = [] := by
    rw [Text.Utf8.encode_eq_flatMap]
    rfl
  have hplain : (encode spec).takeWhile (fun b => !isGlobSpecial b) = encode spec :=
    List.takeWhile_eq_self_iff.2 fun b hb => by simp [h.not_isGlobSpecial b hb]
  simp only [Pathspec.read, hmagic, bind, Except.bind, hpath, hbelow, String.ofList_toList,
    List.zip_nil_right, List.takeWhile_nil, List.length_nil, hplain]
  simp [Magic.none, Pathspec.ofName, pure, Except.pure]

theorem liesUnder_of_selects {name file : String} (hname : IsPlainSpec name)
    (h : (Pathspec.ofName name).selects (encode file) = true) : LiesUnder name file := by
  simp only [Pathspec.selects, Pathspec.ofName, Nat.lt_irrefl, decide_false, Bool.false_and,
    Bool.or_false, isAtOrBelow, Magic.none, equalBytes, List.take_zero, List.drop_zero,
    beq_self_eq_true, Bool.true_and, Bool.false_eq_true, if_false, Bool.and_eq_true,
    Bool.or_eq_true, beq_iff_eq, List.isEmpty_iff] at h
  obtain ⟨hfront, hnext⟩ := h
  apply liesUnder_of_prefix
  by_cases hl : (encode name).getLast? = some slash
  · -- a slash at the end: only files below are meant
    have hdir : dropLastByte slash (encode name) ++ [slash] = encode name := by
      rw [dropLastByte, if_pos hl]
      exact List.dropLast_append_getLast? _ hl
    rw [hdir]
    exact (List.prefix_iff_eq_take.2 hfront).trans (List.prefix_append _ _)
  · rw [dropLastByte_eq hl]
    apply prefix_of_isNamed
    have hne : encode name ≠ [] := by
      intro e
      have : encode name = encode "" := by
        rw [e, Text.Utf8.encode_eq_flatMap]
        rfl
      exact hname.ne_empty (Text.Utf8.encode_injective this)
    rw [isNamed, Bool.and_eq_true, beq_iff_eq]
    refine ⟨hfront.symm, ?_⟩
    rw [or_iff_right (not_or.2 ⟨hne, hl⟩)] at hnext
    cases hb : (encode file)[(encode name).length]? with
    | none => rfl
    | some b => simpa only [hb] using hnext

theorem selectedBy_ofName (names : List String) (file : Bytes) :
    selectedBy (names.map Pathspec.ofName) file =
      (names.isEmpty || names.any fun name => (Pathspec.ofName name).selects file) := by
  have including : (names.map Pathspec.ofName).partition (fun p => p.magic.exclude) =
      ([], names.map Pathspec.ofName) := by
    rw [List.partition_eq_filter_filter]
    simp [List.filter_map, Function.comp_def, Pathspec.ofName, Magic.none]
  rw [selectedBy, including]
  simp [List.any_map, Function.comp_def]

/-- The program refuses no plain name. -/
theorem selection_of_isPlainSpec (top : Files.Place) {paths : List String}
    (hp : ∀ q ∈ paths, IsPlainSpec q) :
    selection ⟨top, []⟩ paths =
      .ok fun file => selectedBy (paths.map Pathspec.ofName) (encode file) := by
  have hread (ps : List String) (hps : ∀ q ∈ ps, IsPlainSpec q) :
      ps.mapM (Pathspec.read ⟨top, []⟩) = .ok (ps.map Pathspec.ofName) := by
    induction ps with
    | nil => rfl
    | cons q ps ih =>
      rw [List.mapM_cons, Pathspec.read_of_isPlainSpec (hps q List.mem_cons_self),
        ih fun r hr => hps r (List.mem_cons_of_mem _ hr)]
      rfl
  have hempty : ¬paths.contains "" = true := fun h =>
    (hp "" (List.contains_iff_mem.1 h)).ne_empty rfl
  have hnul : ¬paths.any Files.hasNul = true := by
    rw [any_hasNul_eq_false_iff.2 fun q hq => (hp q hq).hasNul]
    exact Bool.false_ne_true
  rw [selection, if_neg hnul, if_neg hempty, hread paths hp]
  rfl

/-- **Of plain names, the program selects** what lies at one of them or below it. -/
theorem liesUnder_of_selectedBy {paths : List String} (hne : paths ≠ [])
    (hp : ∀ q ∈ paths, IsPlainSpec q) {file : String}
    (h : selectedBy (paths.map Pathspec.ofName) (encode file) = true) :
    ∃ name ∈ paths, LiesUnder name file := by
  rw [selectedBy_ofName, Bool.or_eq_true, List.isEmpty_iff, or_iff_right hne,
    List.any_eq_true] at h
  obtain ⟨name, hname, hs⟩ := h
  exact ⟨name, hname, liesUnder_of_selects (hp name hname) hs⟩

end ReleaseGate.History
