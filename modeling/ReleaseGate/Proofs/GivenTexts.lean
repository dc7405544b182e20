import ReleaseGate.Proofs.DocumentLayout

/-!
# Texts that keys are given

A document only grows: what later lines give takes no table away and no text from its key
(`Layout.Grows`). So a key that a pair gives a text, without dotted keys before it, has that text in
some table of the layout (`Layout.LaysOut.hasText`).
-/

namespace ReleaseGate.Toml.Layout

/-! ### Tables with a text -/

/-- A table has a key with a text: the value itself, or one that keys and elements lead to. -/
inductive HasText (key : Key) (s : List Char) : Layout → Prop
  | here {L kind} (htable : L [] = some (.table kind)) (htext : L [.key key] = some (.text s)) :
    HasText key s L
  | inTable {L k} (hk : L [.key k] ≠ none) (h : HasText key s (L.under (.key k))) : HasText key s L
  | inArray {L n i} (htables : L [] = some (.tables n)) (hi : i < n)
    (h : HasText key s (L.under (.element i))) : HasText key s L

section

variable {key : Key} {s : List Char} {L L' L'' M : Layout}

theorem HasText.exists_address (h : HasText key s L) :
    ∃ table kind, L table = some (.table kind) ∧ L (table ++ [.key key]) = some (.text s) := by
  induction h with
  | @here L kind htable htext => exact ⟨[], kind, htable, htext⟩
  | @inTable L k _ _ ih =>
    obtain ⟨table, kind, htable, htext⟩ := ih
    exact ⟨.key k :: table, kind, htable, htext⟩
  | @inArray L n i _ _ _ ih =>
    obtain ⟨table, kind, htable, htext⟩ := ih
    exact ⟨.element i :: table, kind, htable, htext⟩

theorem set_self (L : Layout) (t : Step) (M : Layout) (a : List Step) : L.set t M (t :: a) = M a :=
  if_pos rfl

theorem set_other {t u : Step} (h : u ≠ t) (L M : Layout) (a : List Step) :
    L.set t M (u :: a) = L (u :: a) := if_neg h

theorem under_set_self (L : Layout) (t : Step) (M : Layout) : (L.set t M).under t = M :=
  funext fun _ => if_pos rfl

theorem under_set_other {t u : Step} (h : u ≠ t) (L M : Layout) : (L.set t M).under u = L.under u :=
  funext fun _ => if_neg h

/-- What a table has below a key. -/
theorem HasText.set_key {k : Key} (hM : M [] ≠ none) (h : HasText key s M) :
    HasText key s (L.set (.key k) M) := by
  refine .inTable (k := k) ?_ ?_
  · rwa [set_self]
  · rwa [under_set_self]

/-! ### Growth -/

/-- What stands goes on standing, a table stays one, and keys keep their texts. -/
structure Grows (L L' : Layout) : Prop where
  stands : L [] ≠ none → L' [] ≠ none
  table : (∃ kind, L [] = some (.table kind)) → ∃ kind, L' [] = some (.table kind)
  texts : ∀ {key s}, HasText key s L → HasText key s L'

theorem Grows.refl (L : Layout) : Grows L L := ⟨id, id, id⟩

theorem Grows.trans (h : Grows L L') (h' : Grows L' L'') : Grows L L'' :=
  ⟨fun hL => h'.stands (h.stands hL), fun hL => h'.table (h.table hL), fun hL => h'.texts (h.texts hL)⟩

/-- Below a key, a value is put that has grown, or one where nothing was. -/
theorem Grows.set_key {k : Key} (hk : ∀ s, L [.key k] ≠ some (.text s))
    (hM : L [.key k] ≠ none → Grows (L.under (.key k)) M) : Grows L (L.set (.key k) M) := by
  refine ⟨id, id, fun {key s} h => ?_⟩
  cases h with
  | here htable htext =>
    have hne : Step.key key ≠ .key k := fun e => hk s (e ▸ htext)
    exact .here htable ((set_other hne L M []).trans htext)
  | @inTable _ j hj h =>
    by_cases hjk : j = k
    · subst hjk
      refine .inTable (k := j) ?_ ?_
      · rw [set_self]
        exact (hM hj).stands hj
      · rw [under_set_self]
        exact (hM hj).texts h
    · have hne : Step.key j ≠ .key k := by simpa using hjk
      refine .inTable (k := j) ?_ ?_
      · rwa [set_other hne]
      · rwa [under_set_other hne]
  | @inArray _ n i htables hi h =>
    refine .inArray htables hi ?_
    rwa [under_set_other (by simp)]

/-- In an array of tables, an element is put that has grown, or a new one. -/
theorem Grows.set_element {n m i : Nat} (htables : L [] = some (.tables n)) (hn : n ≤ m)
    (hM : i < n → Grows (L.under (.element i)) M) :
    Grows L ((L.mark (.tables m)).set (.element i) M) := by
  refine ⟨fun _ => by simp [set, mark], ?_, fun {key s} h => ?_⟩
  · rintro ⟨kind, hkind⟩
    rw [htables] at hkind
    cases hkind
  · cases h with
    | here htable =>
      rw [htables] at htable
      cases htable
    | @inTable _ j hj h =>
      have hne : Step.key j ≠ .element i := by simp
      refine .inTable (k := j) ?_ ?_
      · rw [set_other hne]
        exact hj
      · rw [under_set_other hne]
        exact h
    | @inArray _ n' j htables' hj h =>
      obtain rfl : n = n' := by
        rw [htables] at htables'
        cases htables'
        rfl
      refine .inArray (n := m) (i := j) rfl (by omega) ?_
      by_cases hji : j = i
      · subst hji
        rw [under_set_self]
        exact (hM hj).texts h
      · rw [under_set_other (by simpa using hji)]
        exact h

theorem Grows.mark_table {kind : TableKind} (hkind : L [] = some (.table kind)) (kind' : TableKind) :
    Grows L (L.mark (.table kind')) := by
  refine ⟨fun _ => by simp [mark], fun _ => ⟨kind', rfl⟩, fun {key s} h => ?_⟩
  cases h with
  | here _ htext => exact .here rfl htext
  | inTable hk h => exact .inTable hk h
  | inArray htables =>
    rw [hkind] at htables
    cases htables

/-! ### What documents give -/

section Leads

variable {made : TableKind} {change : Layout → Layout → Prop} {path : List Key}
  (hgrows : ∀ L L', change L L' → Grows L L')
include hgrows

/-- On the way to a change that lets values grow, they all do. -/
theorem Leads.grows (h : Leads made change path L L') : Grows L L' := by
  induction path generalizing L L' with
  | nil => exact hgrows L L' h
  | cons k path ih =>
    obtain ⟨hnone, M, hM, rfl⟩ | ⟨kind, hkind, -, M, hM, rfl⟩ | ⟨-, n, htables, M, hM, rfl⟩ := h
    · exact .set_key (by simp [hnone]) fun hne => absurd hnone hne
    · exact .set_key (by simp [hkind]) fun _ => ih hM
    · have same : (L.under (.key k)).mark (.tables (n + 1)) = L.under (.key k) := by
        funext a
        cases a with
        | nil => exact htables.symm
        | cons => rfl
      have inner := Grows.set_element (L := L.under (.key k)) htables (Nat.le_refl _) fun _ => ih hM
      rw [same] at inner
      exact .set_key (by simp [htables]) fun _ => inner

/-- What a change leads to is reached. -/
theorem Leads.hasText (htext : ∀ L L', change L L' → HasText key s L')
    (h : Leads made change path L L') : HasText key s L' := by
  induction path generalizing L L' with
  | nil => exact htext L L' h
  | cons k path ih =>
    obtain ⟨-, M, hM, rfl⟩ | ⟨kind, hkind, -, M, hM, rfl⟩ | ⟨-, n, htables, M, hM, rfl⟩ := h
    · exact .set_key ((Leads.grows hgrows hM).stands (by simp [only])) (ih hM)
    · exact .set_key ((Leads.grows hgrows hM).stands (by simp [under, hkind])) (ih hM)
    · refine .set_key (by simp [set, under, htables]) ?_
      refine .inArray (n := n + 1) (i := n) htables n.lt_succ_self ?_
      rw [under_set_self]
      exact ih hM

end Leads

theorem Adds.grows {g : Given} (h : Adds g L L') : Grows L L' := by
  refine Leads.grows ?_ h
  rintro L L' ⟨-, hnone, rfl⟩
  exact .set_key (by simp [hnone]) fun hne => absurd hnone hne

variable {g : Given} {gs : List Given} {p : Part} {ps : List Part}

theorem AddsAll.grows (h : AddsAll gs L L') : Grows L L' := by
  induction gs generalizing L with
  | nil => exact h ▸ .refl L
  | cons g gs ih =>
    obtain ⟨M, hM, hL⟩ := h
    exact hM.grows.trans (ih hL)

theorem BeginsTable.grows {k : Key} (h : BeginsTable k gs L L') : Grows L L' := by
  obtain ⟨hnone, M, -, rfl⟩ | ⟨himplied, M, hM, rfl⟩ := h
  · exact .set_key (by simp [hnone]) fun hne => absurd hnone hne
  · exact .set_key (by simp [himplied]) fun _ => (Grows.mark_table himplied .headed).trans hM.grows

theorem BeginsElement.grows {k : Key} (h : BeginsElement k gs L L') : Grows L L' := by
  obtain ⟨M, -, ⟨hnone, rfl⟩ | ⟨n, htables, rfl⟩⟩ := h
  · exact .set_key (by simp [hnone]) fun hne => absurd hnone hne
  · refine .set_key (by simp [htables]) fun _ => ?_
    exact .set_element htables n.le_succ fun hn => absurd hn (Nat.lt_irrefl n)

theorem Begins.grows (h : Begins p L L') : Grows L L' := by
  rw [Begins] at h
  cases hh : p.header with
  | table path k =>
    rw [hh] at h
    exact Leads.grows (fun _ _ => BeginsTable.grows) h
  | element path k =>
    rw [hh] at h
    exact Leads.grows (fun _ _ => BeginsElement.grows) h

theorem BeginsAll.grows (h : BeginsAll ps L L') : Grows L L' := by
  induction ps generalizing L with
  | nil => exact h ▸ .refl L
  | cons p ps ih =>
    obtain ⟨M, hM, hL⟩ := h
    exact hM.grows.trans (ih hL)

/-- A key that is given a text in a table has it there in the end. -/
theorem AddsAll.hasText (hmem : ⟨[], key, .only (.text s)⟩ ∈ gs)
    (hL : ∃ kind, L [] = some (.table kind)) (h : AddsAll gs L L') : HasText key s L' := by
  induction gs generalizing L with
  | nil => cases hmem
  | cons g gs ih =>
    obtain ⟨M, hM, hL'⟩ := h
    rcases List.mem_cons.1 hmem with rfl | hmem
    · obtain ⟨kind, hkind⟩ := hL
      obtain ⟨-, -, rfl⟩ := hM
      exact (AddsAll.grows hL').texts (.here hkind (set_self ..))
    · exact ih hmem (hM.grows.table hL) hL'

theorem Begins.hasText (hmem : ⟨[], key, .only (.text s)⟩ ∈ p.given) (h : Begins p L L') :
    HasText key s L' := by
  -- what is given behind the header is there, and has the text
  have given {N M : Layout} (hN : N [] = some (.table .headed)) (hM : AddsAll p.given N M) :
      M [] ≠ none ∧ HasText key s M := by
    obtain ⟨kind, hkind⟩ := hM.grows.table ⟨_, hN⟩
    exact ⟨by simp [hkind], hM.hasText hmem ⟨_, hN⟩⟩
  rw [Begins] at h
  cases hh : p.header with
  | table path k =>
    rw [hh] at h
    refine Leads.hasText (fun _ _ => BeginsTable.grows) ?_ h
    rintro L L' (⟨-, M, hM, rfl⟩ | ⟨-, M, hM, rfl⟩)
    · exact .set_key (given rfl hM).1 (given rfl hM).2
    · exact .set_key (given rfl hM).1 (given rfl hM).2
  | element path k =>
    rw [hh] at h
    refine Leads.hasText (fun _ _ => BeginsElement.grows) ?_ h
    rintro L L' ⟨M, hM, ⟨-, rfl⟩ | ⟨n, -, rfl⟩⟩
    · refine .set_key (by simp [set, only]) (.inArray (n := 1) (i := 0) rfl Nat.one_pos ?_)
      rw [under_set_self]
      exact (given rfl hM).2
    · refine .set_key (by simp [set, mark]) (.inArray (n := n + 1) (i := n) rfl n.lt_succ_self ?_)
      rw [under_set_self]
      exact (given rfl hM).2

/-- **A key that some pair gives a text**, with no dotted keys before it, has it in some table of the
document. -/
theorem LaysOut.hasText
    (hmem : ⟨[], key, .only (.text s)⟩ ∈ gs ∨ ∃ p ∈ ps, ⟨[], key, .only (.text s)⟩ ∈ p.given)
    (h : LaysOut gs ps L) : HasText key s L := by
  obtain ⟨M, hM, hL⟩ := h
  rcases hmem with hmem | ⟨p, hp, hmem⟩
  · exact (BeginsAll.grows hL).texts (hM.hasText hmem ⟨.headed, rfl⟩)
  · clear hM
    induction ps generalizing M with
    | nil => cases hp
    | cons q ps ih =>
      obtain ⟨N, hN, hL⟩ := hL
      rcases List.mem_cons.1 hp with rfl | hp
      · exact (BeginsAll.grows hL).texts (hN.hasText hmem)
      · exact ih N hL hp

end

end ReleaseGate.Toml.Layout
