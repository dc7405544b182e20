import ReleaseGate.Proofs.PatchText

/-!
# Slid changes

A group of changed lines is slid by one line only where the line that it leaves equals the one that
it takes, so the lines without a mark stay the same ones in the same order
(`keptLines_slideGroups`), and they tell which lines a script changes (`isChanged_ofMarks_congr`).
So it does not matter for the changed lines where groups come to rest: indentation moves changes and
makes none (`isChanged_scriptOf_iff`).
-/

namespace ReleaseGate.History

open Text (Bytes)

variable {α : Type}

/-! ### Kept lines -/

/-- The lines without a mark. -/
def keptLines (ls : List (α × Bool)) : List α := (ls.filter fun l => !l.2).map (·.1)

@[simp] theorem keptLines_cons_true (a : α) (ls : List (α × Bool)) :
    keptLines ((a, true) :: ls) = keptLines ls := rfl

@[simp] theorem keptLines_cons_false (a : α) (ls : List (α × Bool)) :
    keptLines ((a, false) :: ls) = a :: keptLines ls := rfl

theorem keptLines_append (ls ms : List (α × Bool)) :
    keptLines (ls ++ ms) = keptLines ls ++ keptLines ms := by
  rw [keptLines, List.filter_append, List.map_append]
  rfl

theorem mem_map_fst_iff (ls : List (α × Bool)) (c : α) :
    c ∈ ls.map (·.1) ↔ (c, true) ∈ ls ∨ c ∈ keptLines ls := by
  simp [keptLines, or_comm]

section

variable [DecidableEq α]

/-- A line stands as often as it is kept and marked. -/
theorem count_keptLines_add (ls : List (α × Bool)) (a : α) :
    (keptLines ls).count a + ls.count (a, true) = (ls.map (·.1)).count a := by
  induction ls with
  | nil => rfl
  | cons l ls ih =>
    obtain ⟨b, mark⟩ := l
    by_cases hab : b = a
    · subst hab
      cases mark
      · rw [keptLines_cons_false, List.map_cons, List.count_cons_self, List.count_cons_self,
          List.count_cons_of_ne (by simp), ← ih, Nat.add_right_comm]
      · rw [keptLines_cons_true, List.map_cons, List.count_cons_self, List.count_cons_self, ← ih,
          Nat.add_assoc]
    · have hpair : (b, mark) ≠ (a, true) := fun e => hab (congrArg Prod.fst e)
      rw [List.map_cons, List.count_cons_of_ne hpair, List.count_cons_of_ne hab, ← ih]
      cases mark
      · rw [keptLines_cons_false, List.count_cons_of_ne hab]
      · rw [keptLines_cons_true]

/-- A line is marked somewhere exactly if it stands more often than it is kept. -/
theorem mem_marked_iff (ls : List (α × Bool)) (a : α) :
    (a, true) ∈ ls ↔ (keptLines ls).count a < (ls.map (·.1)).count a := by
  rw [← count_keptLines_add, Nat.lt_add_right_iff_pos, List.count_pos_iff]

/-- The lines of two lists that are not the same at the same place. -/
def unpaired : List α → List α → List α
  | [], bs => bs
  | as, [] => as
  | a :: as, b :: bs => if a = b then unpaired as bs else a :: b :: unpaired as bs

theorem unpaired_nil (as : List α) : unpaired as [] = as := by
  cases as <;> rfl

/-- A script read off marks changes the marked lines, and kept lines that do not go together. -/
theorem isChanged_ofMarks_iff (old new : List (α × Bool)) (c : α) :
    IsChanged (ofMarks old new) c ↔
      (c, true) ∈ old ∨ (c, true) ∈ new ∨ c ∈ unpaired (keptLines old) (keptLines new) := by
  fun_induction ofMarks old new with
  | case1 new =>
    have h : IsChanged (new.map fun b => Edit.insert b.1) c ↔ c ∈ new.map (·.1) := by
      simp [IsChanged]
    rw [h, mem_map_fst_iff]
    simp [unpaired, keptLines]
  | case2 old _ =>
    have h : IsChanged (old.map fun a => Edit.delete a.1) c ↔ c ∈ old.map (·.1) := by
      simp [IsChanged]
    rw [h, mem_map_fst_iff]
    simp [unpaired_nil, keptLines]
  | case3 a old new _ ih =>
    rw [isChanged_cons_delete, ih]
    simp [or_assoc]
  | case4 a old b new ih =>
    rw [isChanged_cons_insert, ih]
    simp [or_assoc, or_left_comm]
  | case5 a old new ih =>
    rw [isChanged_cons_keep, ih]
    simp [unpaired]
  | case6 a old b new hne ih =>
    rw [isChanged_cons_delete, isChanged_cons_insert, ih]
    simp [unpaired, hne, or_left_comm]

/-- Marks that keep the same lines of two lists lead to scripts that change the same lines. -/
theorem isChanged_ofMarks_congr {old old' new new' : List (α × Bool)}
    (hold : old.map (·.1) = old'.map (·.1)) (hnew : new.map (·.1) = new'.map (·.1))
    (kold : keptLines old = keptLines old') (knew : keptLines new = keptLines new') (c : α) :
    IsChanged (ofMarks old new) c ↔ IsChanged (ofMarks old' new') c := by
  rw [isChanged_ofMarks_iff, isChanged_ofMarks_iff, mem_marked_iff, mem_marked_iff, mem_marked_iff,
    mem_marked_iff, hold, hnew, kold, knew]

end

/-! ### One mark that moves -/

/-- The kept lines among lines whose first one has the place `k`, where `f` tells the marks. -/
def keptFrom (f : Nat → Bool) (k : Nat) (ls : List α) : List α :=
  keptLines ((ls.zipIdx k).map fun (l, i) => (l, f i))

theorem keptFrom_append (f : Nat → Bool) (k : Nat) (ls ms : List α) :
    keptFrom f k (ls ++ ms) = keptFrom f k ls ++ keptFrom f (k + ls.length) ms := by
  rw [keptFrom, List.zipIdx_append, List.map_append, keptLines_append]
  rfl

theorem keptFrom_cons (f : Nat → Bool) (k : Nat) (l : α) (ls : List α) :
    keptFrom f k (l :: ls) = (if f k then [] else [l]) ++ keptFrom f (k + 1) ls := by
  have h : keptFrom f k (l :: ls) = keptLines ([(l, f k)] ++ (ls.zipIdx (k + 1)).map fun (l, i) =>
      (l, f i)) := rfl
  rw [h, keptLines_append]
  cases f k <;> rfl

theorem keptFrom_congr {f g : Nat → Bool} {k : Nat} {ls : List α}
    (h : ∀ i, k ≤ i → i < k + ls.length → f i = g i) : keptFrom f k ls = keptFrom g k ls := by
  induction ls generalizing k with
  | nil => rfl
  | cons l ls ih =>
    rw [List.length_cons] at h
    rw [keptFrom_cons, keptFrom_cons, h k (Nat.le_refl k) (by omega),
      ih fun i hi hl => h i (by omega) (by omega)]

theorem keptFrom_eq_nil {f : Nat → Bool} {k : Nat} {ls : List α}
    (h : ∀ i, k ≤ i → i < k + ls.length → f i = true) : keptFrom f k ls = [] := by
  induction ls generalizing k with
  | nil => rfl
  | cons l ls ih =>
    rw [List.length_cons] at h
    rw [keptFrom_cons, if_pos (h k (Nat.le_refl k) (by omega)),
      ih fun i hi hl => h i (by omega) (by omega)]
    rfl

theorem exists_append_of_getElem? {ls : List α} {i : Nat} {x : α} (h : ls[i]? = some x) :
    ∃ as bs, ls = as ++ x :: bs ∧ as.length = i := by
  obtain ⟨hi, rfl⟩ := List.getElem?_eq_some_iff.1 h
  refine ⟨ls.take i, ls.drop (i + 1), ?_, List.length_take_of_le (Nat.le_of_lt hi)⟩
  rw [List.getElem_cons_drop, List.take_append_drop]

/-- **A mark may move to an equal line** if all lines on its way are marked: the same lines are
kept. -/
theorem keptFrom_eq_of_swap {f g : Nat → Bool} {ls : List α} {i j : Nat} (hij : i < j)
    (hj : j < ls.length) (heq : ls[i]? = ls[j]?) (fi : f i = true) (fj : f j = false)
    (gi : g i = false) (gj : g j = true)
    (between : ∀ k, i < k → k < j → f k = true ∧ g k = true)
    (elsewhere : ∀ k, k ≠ i → k ≠ j → f k = g k) :
    keptFrom f 0 ls = keptFrom g 0 ls := by
  obtain ⟨m, rfl⟩ := Nat.exists_eq_add_of_lt hij
  have hx : ls[i + m + 1]? = some ls[i + m + 1] := List.getElem?_eq_getElem hj
  -- the two lines, and what stands before, between and behind them
  obtain ⟨as, rest, hls, rfl⟩ := exists_append_of_getElem? (heq.trans hx)
  generalize ls[as.length + m + 1] = x at hx hls
  subst hls
  obtain ⟨bs, cs, rfl, rfl⟩ : ∃ bs cs, rest = bs ++ x :: cs ∧ bs.length = m := by
    apply exists_append_of_getElem?
    rw [List.getElem?_append_right (by omega)] at hx
    simpa [Nat.add_assoc] using hx
  have before : keptFrom f 0 as = keptFrom g 0 as :=
    keptFrom_congr fun k _ hk => elsewhere k (by omega) (by omega)
  have behind : keptFrom f (as.length + bs.length + 2) cs =
      keptFrom g (as.length + bs.length + 2) cs :=
    keptFrom_congr fun k hk _ => elsewhere k (by omega) (by omega)
  have fbs : keptFrom f (as.length + 1) bs = [] :=
    keptFrom_eq_nil fun k hk hl => (between k (by omega) (by omega)).1
  have gbs : keptFrom g (as.length + 1) bs = [] :=
    keptFrom_eq_nil fun k hk hl => (between k (by omega) (by omega)).2
  have place : as.length + 1 + bs.length = as.length + bs.length + 1 := by omega
  simp only [keptFrom_append, keptFrom_cons, Nat.zero_add, place, fi, fj, gi, gj, fbs, gbs, before,
    behind]
  simp

/-! ### Groups -/

theorem marked_of_size_le {ms : Array Bool} {i : Nat} (h : ms.size ≤ i) : marked ms i = false := by
  simp [marked, h]

theorem marked_set {ms : Array Bool} {i : Nat} (hi : i < ms.size) (v : Bool) (k : Nat) :
    marked (ms.set! i v) k = if k = i then v else marked ms k := by
  rw [marked, marked, Array.getD_eq_getD_getElem?, Array.getD_eq_getD_getElem?,
    Array.set!_eq_setIfInBounds, Array.getElem?_setIfInBounds]
  by_cases hk : k = i
  · rw [if_pos hk, if_pos hk.symm, if_pos hi]
    rfl
  · rw [if_neg hk, if_neg (Ne.symm hk)]

/-- A group from `lo` up to but not including `hi`: its lines are marked, and those beside it are
not. -/
structure IsGroup (ms : Array Bool) (lo hi : Nat) : Prop where
  le : lo ≤ hi
  inside : ∀ i, lo ≤ i → i < hi → marked ms i = true
  before : ∀ i, i + 1 = lo → marked ms i = false
  behind : marked ms hi = false

/-- Where marks end from a place on. -/
theorem endOfMarks_spec (ms : Array Bool) (fuel i : Nat) (h : ms.size < i + fuel) :
    i ≤ endOfMarks ms fuel i ∧
      (∀ k, i ≤ k → k < endOfMarks ms fuel i → marked ms k = true) ∧
      marked ms (endOfMarks ms fuel i) = false := by
  induction fuel generalizing i with
  | zero => exact ⟨Nat.le_refl i, fun k hk hl => absurd hl (Nat.not_lt.2 hk),
      marked_of_size_le (Nat.le_of_lt h)⟩
  | succ fuel ih =>
    rw [endOfMarks]
    split
    · next hi =>
      obtain ⟨hle, hin, hend⟩ := ih (i + 1) (by omega)
      refine ⟨by omega, fun k hk hl => ?_, hend⟩
      rcases Nat.eq_or_lt_of_le hk with rfl | hk
      · exact hi
      · exact hin k hk hl
    · next hi =>
      exact ⟨Nat.le_refl i, fun k hk hl => absurd hl (Nat.not_lt.2 hk), by simpa using hi⟩

/-- Where marks start before a place. -/
theorem startOfMarks_spec (ms : Array Bool) (i : Nat) :
    startOfMarks ms i ≤ i ∧ (∀ k, startOfMarks ms i ≤ k → k < i → marked ms k = true) ∧
      ∀ k, k + 1 = startOfMarks ms i → marked ms k = false := by
  induction i with
  | zero => exact ⟨Nat.le_refl 0, fun k _ hl => absurd hl (Nat.not_lt_zero k),
      fun k hk => absurd hk (Nat.succ_ne_zero k)⟩
  | succ i ih =>
    rw [startOfMarks]
    split
    · next hi =>
      obtain ⟨hle, hin, hbefore⟩ := ih
      refine ⟨Nat.le_succ_of_le hle, fun k hk hl => ?_, hbefore⟩
      rcases Nat.lt_succ_iff_lt_or_eq.1 hl with hl | rfl
      · exact hin k hk hl
      · exact hi
    · next hi =>
      refine ⟨Nat.le_refl _, fun k hk hl => absurd hl (Nat.not_lt.2 hk), fun k hk => ?_⟩
      cases hk
      simpa using hi

theorem isGroup_firstGroup (ms : Array Bool) :
    IsGroup ms (firstGroup ms).start (firstGroup ms).stop := by
  obtain ⟨hle, hin, hend⟩ := endOfMarks_spec ms (ms.size + 1) 0 (by omega)
  exact ⟨hle, hin, fun i hi => absurd hi (Nat.succ_ne_zero i), hend⟩

theorem IsGroup.next {ms : Array Bool} {g g' : Group} (h : IsGroup ms g.start g.stop)
    (hnext : nextGroup? ms g = some g') : IsGroup ms g'.start g'.stop := by
  unfold nextGroup? at hnext
  split_ifs at hnext
  cases hnext
  obtain ⟨hle, hin, hend⟩ :=
    endOfMarks_spec ms (ms.size + 1) (g.stop + 1) (by omega)
  refine ⟨hle, hin, fun i hi => ?_, hend⟩
  cases hi
  exact h.behind

/-! ### Slides -/

theorem keptLines_withMarks (ls : List Bytes) (ms : Array Bool) :
    keptLines (withMarks ls ms) = keptFrom (marked ms) 0 ls := rfl

theorem marked_set_set {ms : Array Bool} {i j : Nat} (hi : i < ms.size) (hj : j < ms.size)
    (u v : Bool) (k : Nat) :
    marked ((ms.set! i u).set! j v) k = if k = j then v else if k = i then u else marked ms k := by
  have hj' : j < (ms.set! i u).size := by simpa using hj
  rw [marked_set hj', marked_set hi]

/-- What slides keep: as many marks as lines, a group that is not empty, and the kept lines. -/
structure Slid (a : Array Bytes) (kept : List Bytes) (ms : Array Bool) (lo hi : Nat) : Prop where
  size : ms.size = a.size
  isGroup : IsGroup ms lo hi
  nonempty : lo < hi
  keeps : keptLines (withMarks a.toList ms) = kept

variable {a : Array Bytes} {kept : List Bytes} {ms : Array Bool} {lo hi : Nat}

/-- **A step down**: the mark of the first line of a group moves behind the last one. -/
theorem Slid.down (h : Slid a kept ms lo hi) (hhi : hi < a.size) (heq : a[lo]? = a[hi]?) :
    let ms' := (ms.set! lo false).set! hi true
    Slid a kept ms' (lo + 1) (endOfMarks ms' (ms'.size + 1) (hi + 1)) := by
  intro ms'
  obtain ⟨hsize, ⟨-, hin, -, hbehind⟩, hne, hkeeps⟩ := h
  have after (k : Nat) :
      marked ms' k = if k = hi then true else if k = lo then false else marked ms k :=
    marked_set_set (by omega) (by omega) false true k
  have hlo : marked ms' lo = false := by rw [after, if_neg (Nat.ne_of_lt hne), if_pos rfl]
  have hhi' : marked ms' hi = true := by rw [after, if_pos rfl]
  have hinside (k : Nat) (hk : lo < k) (hl : k < hi) : marked ms' k = true := by
    rw [after, if_neg (Nat.ne_of_lt hl), if_neg (Nat.ne_of_gt hk), hin k (Nat.le_of_lt hk) hl]
  obtain ⟨hle, hin', hend⟩ :=
    endOfMarks_spec ms' (ms'.size + 1) (hi + 1) (by omega)
  refine ⟨by simpa [ms'] using hsize, ⟨by omega, fun k hk hl => ?_, fun k hk => ?_, hend⟩,
    by omega, ?_⟩
  · rcases Nat.lt_trichotomy k hi with h | rfl | h
    · exact hinside k hk h
    · exact hhi'
    · exact hin' k h hl
  · cases hk
    exact hlo
  · rw [← hkeeps, keptLines_withMarks, keptLines_withMarks]
    exact (keptFrom_eq_of_swap hne (by simpa using hhi) (by simpa using heq)
      (hin lo (Nat.le_refl lo) hne) hbehind hlo hhi'
      (fun k hk hl => ⟨hin k (Nat.le_of_lt hk) hl, hinside k hk hl⟩)
      fun k hk hl => by rw [after, if_neg hl, if_neg hk]).symm

/-- **A step up**: the mark of the last line of a group moves before the first one. -/
theorem Slid.up (h : Slid a kept ms (lo + 1) (hi + 1)) (heq : a[lo]? = a[hi]?) :
    let ms' := (ms.set! lo true).set! hi false
    Slid a kept ms' (startOfMarks ms' lo) hi := by
  intro ms'
  obtain ⟨hsize, ⟨-, hin, hbefore, -⟩, hne, hkeeps⟩ := h
  have hsize' : hi < ms.size := by
    by_contra hn
    have := hin hi (by omega) (by omega)
    rw [marked_of_size_le (Nat.not_lt.1 hn)] at this
    cases this
  have hlt : lo < hi := Nat.lt_of_succ_lt_succ hne
  have after (k : Nat) :
      marked ms' k = if k = hi then false else if k = lo then true else marked ms k :=
    marked_set_set (by omega) (by omega) true false k
  have hlo : marked ms' lo = true := by rw [after, if_neg (Nat.ne_of_lt hlt), if_pos rfl]
  have hhi : marked ms' hi = false := by rw [after, if_pos rfl]
  have hinside (k : Nat) (hk : lo < k) (hl : k < hi) : marked ms' k = true := by
    rw [after, if_neg (Nat.ne_of_lt hl), if_neg (Nat.ne_of_gt hk), hin k hk (Nat.lt_succ_of_lt hl)]
  obtain ⟨hle, hin', hbefore'⟩ := startOfMarks_spec ms' lo
  refine ⟨by simpa [ms'] using hsize, ⟨by omega, fun k hk hl => ?_, hbefore', hhi⟩, by omega, ?_⟩
  · rcases Nat.lt_trichotomy k lo with h | rfl | h
    · exact hin' k hk h
    · exact hlo
    · exact hinside k h hl
  · rw [← hkeeps, keptLines_withMarks, keptLines_withMarks]
    exact keptFrom_eq_of_swap hlt (by simpa using by omega) (by simpa using heq) hlo hhi
      (hbefore lo rfl) (hin hi hlt (Nat.lt_succ_self hi))
      (fun k hk hl => ⟨hinside k hk hl, hin k hk (Nat.lt_succ_of_lt hl)⟩)
      fun k hk hl => by rw [after, if_neg hl, if_neg hk]

/-! ### Runs of slides -/

section Runs

variable {other : Array Bool} {s t : Sliding}

/-- A group that is being slid has kept what slides keep. -/
def Sliding.Keeps (a : Array Bytes) (kept : List Bytes) (s : Sliding) : Prop :=
  Slid a kept s.marks s.group.start s.group.stop

theorem Sliding.Keeps.down (h : s.Keeps a kept) (hs : s.down? a other = some t) :
    t.Keeps a kept := by
  unfold Sliding.down? slideDown? at hs
  split_ifs at hs with hc
  cases hs
  obtain ⟨hstop, heq⟩ : s.group.stop < a.size ∧ a[s.group.start]? = a[s.group.stop]? := by
    simpa [equalAt] using hc
  exact Slid.down h hstop heq

theorem Sliding.Keeps.up (h : s.Keeps a kept) (hs : s.up? a other = some t) :
    t.Keeps a kept := by
  obtain ⟨marks, ⟨start, stop⟩, beside⟩ := s
  unfold Sliding.up? slideUp? at hs
  split_ifs at hs with hc
  cases hs
  cases start with
  | zero => simp at hc
  | succ lo =>
    cases stop with
    | zero => simp at hc
    | succ hi =>
      have heq : a[lo]? = a[hi]? := by simpa [equalAt] using hc
      exact Slid.up h heq

theorem Sliding.Keeps.top (fuel : Nat) (h : s.Keeps a kept) :
    (s.top a other fuel).Keeps a kept := by
  induction fuel generalizing s with
  | zero => exact h
  | succ fuel ih =>
    rw [Sliding.top]
    split
    · next t ht => exact ih (h.up ht)
    · exact h

theorem Sliding.Keeps.bottom (fuel : Nat) (met : Option Nat) (h : s.Keeps a kept) :
    (s.bottom a other fuel met).1.Keeps a kept := by
  induction fuel generalizing s met with
  | zero => exact h
  | succ fuel ih =>
    rw [Sliding.bottom]
    split
    · next t ht => exact ih _ (h.down ht)
    · exact h

theorem Sliding.Keeps.settle (fuel : Nat) (h : s.Keeps a kept) :
    (settle a other fuel s).sliding.Keeps a kept := by
  induction fuel generalizing s with
  | zero => exact h
  | succ fuel ih =>
    have hdown (met : Option Nat) :
        (Sliding.bottom a other (a.size + 1) met (s.top a other (a.size + 1))).1.Keeps a kept :=
      (h.top (a.size + 1)).bottom (a.size + 1) met
    rw [History.settle]
    simp only
    generalize (if (s.top a other (a.size + 1)).meets = true then _ else _) = met
    split
    · exact hdown met
    · exact ih (hdown met)

theorem Sliding.Keeps.untilMeets (fuel : Nat) (h : s.Keeps a kept) :
    (untilMeets a other fuel s).Keeps a kept := by
  induction fuel generalizing s with
  | zero => exact h
  | succ fuel ih =>
    rw [History.untilMeets]
    split
    · exact h
    · split
      · next t ht => exact ih (h.up ht)
      · exact h

theorem Sliding.Keeps.untilStop (stop fuel : Nat) (h : s.Keeps a kept) :
    (untilStop a other stop fuel s).Keeps a kept := by
  induction fuel generalizing s with
  | zero => exact h
  | succ fuel ih =>
    rw [History.untilStop]
    split
    · exact h
    · split
      · next t ht => exact ih (h.up ht)
      · exact h

/-- Wherever a group comes to rest, it has kept what slides keep. -/
theorem Sliding.Keeps.rest (indents : Option (Array (Option Nat))) {settled : Settled}
    (h : settled.sliding.Keeps a kept) : (rest a other indents settled).Keeps a kept := by
  unfold History.rest
  split_ifs
  · exact h
  · split
    · exact h.untilMeets _
    · exact h.untilStop _ _
    · exact h

theorem keptLines_slideFrom (indents : Option (Array (Option Nat))) (fuel : Nat)
    (hsize : s.marks.size = a.size) (hgroup : IsGroup s.marks s.group.start s.group.stop) :
    keptLines (withMarks a.toList (slideFrom a other indents fuel s)) =
      keptLines (withMarks a.toList s.marks) := by
  induction fuel generalizing s with
  | zero => rfl
  | succ fuel ih =>
    -- an empty group stays where it is
    obtain ⟨s', hs', hsize', hgroup', hkeeps⟩ : ∃ s', s' = (if s.group.start = s.group.stop then s
          else rest a other indents (settle a other (a.size + 1) s)) ∧
        s'.marks.size = a.size ∧ IsGroup s'.marks s'.group.start s'.group.stop ∧
          keptLines (withMarks a.toList s'.marks) = keptLines (withMarks a.toList s.marks) := by
      split_ifs with hempty
      · exact ⟨s, rfl, hsize, hgroup, rfl⟩
      · have hslid : s.Keeps a (keptLines (withMarks a.toList s.marks)) :=
          ⟨hsize, hgroup, Nat.lt_of_le_of_ne hgroup.le hempty, rfl⟩
        have h : (rest a other indents (settle a other (a.size + 1) s)).Keeps a
            (keptLines (withMarks a.toList s.marks)) :=
          (hslid.settle (a.size + 1)).rest indents
        exact ⟨_, rfl, h.size, h.isGroup, h.keeps⟩
    rw [slideFrom, ← hs', ← hkeeps]
    split
    · next g b hg _ => exact ih hsize' (hgroup'.next hg)
    · rfl

/-- **Sliding keeps the same lines**, whatever it goes by. -/
theorem keptLines_slideGroups {ls : List Bytes} {marks : Array Bool} (hsize : marks.size = ls.length)
    (indents : Option (Array (Option Nat))) :
    keptLines (withMarks ls (slideGroups ls.toArray marks other indents)) =
      keptLines (withMarks ls marks) :=
  keptLines_slideFrom (a := ls.toArray) indents _ hsize (isGroup_firstGroup marks)

end Runs

/-! ### Scripts -/

theorem size_foldl_set {β : Type} (place : β → Nat) (value : β → Bool) (ps : List β)
    (ms : Array Bool) :
    (ps.foldl (fun ms p => ms.set! (place p) (value p)) ms).size = ms.size := by
  induction ps generalizing ms with
  | nil => rfl
  | cons p ps ih => rw [List.foldl_cons, ih, Array.set!_eq_setIfInBounds, Array.size_setIfInBounds]

theorem size_spreadMarks (n lo hi : Nat) (places : List Nat) (ms : Array Bool) :
    (spreadMarks n lo hi places ms).size = n := by
  rw [spreadMarks, size_foldl_set Prod.fst Prod.snd, markRange,
    size_foldl_set (lo + ·) fun _ => true, Array.size_replicate]

/-- **Indentation makes no changes**: by it and without it a script changes the same lines. -/
theorem isChanged_scriptOf_iff (byIndent byIndent' : Bool) (old new : List Bytes) (line : Bytes) :
    IsChanged (scriptOf byIndent old new) line ↔ IsChanged (scriptOf byIndent' old new) line := by
  have first : (changedLines old new).first.size = old.length := size_spreadMarks _ _ _ _ _
  have second : (changedLines old new).second.size = new.length := size_spreadMarks _ _ _ _ _
  unfold scriptOf settledMarks
  apply isChanged_ofMarks_congr
  · rw [map_withMarks, map_withMarks]
  · rw [map_withMarks, map_withMarks]
  · rw [keptLines_slideGroups first, keptLines_slideGroups first]
  · rw [keptLines_slideGroups second, keptLines_slideGroups second]

/-- What the program shows of a changed file bears a marker under all settings or under none. -/
theorem showsMarker_program_iff (d : Change.Detector) (s t : Settings) (c : FileChange) :
    ShowsMarker d (Style.program s) c ↔ ShowsMarker d (Style.program t) c := by
  have script (old new line : Bytes) : IsChanged ((Style.program s).script old new) line ↔
      IsChanged ((Style.program t).script old new) line :=
    isChanged_scriptOf_iff _ _ _ _ _
  simp only [ShowsMarker, script]

end ReleaseGate.History
