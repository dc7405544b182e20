import Mathlib.Data.List.Basic
import Mathlib.Data.Nat.Bitwise
import ReleaseGate.Pattern.Reader

/-!
# Searching for a pattern

The search keeps sets of positions, as the bits of numbers, and takes each part of a pattern as a
function on such sets. Here it is shown to decide the meaning of patterns: `advance` leads from a
set of positions to exactly those at which a match that starts there can end (`follows_advance`),
so a pattern is found exactly if it matches somewhere (`found_eq_true_iff`). A repetition without a
limit needs no more rounds than the text has positions, since a round that does not move can be
left out (`Chain.exists_short`).

The one thing asked of a pattern is that no repetition has a limit below its least count
(`Expr.Proper`); every pattern that was read from a text is so (`proper_of_read?`). A pattern without
conditions on positions is found exactly if the text holds one of the texts that it spells
(`found_iff_spells`).
-/

namespace ReleaseGate.Pattern

/-! ### Steps in a row -/

namespace Chain

variable {r : Nat → Nat → Prop} {m n i j k : Nat}

theorem append (h : Chain r m i j) (h' : Chain r n j k) : Chain r (m + n) i k := by
  induction h with
  | zero i => rwa [Nat.zero_add]
  | succ step _ ih =>
    rw [Nat.add_right_comm]
    exact .succ step (ih h')

theorem split (h : Chain r (m + n) i k) : ∃ j, Chain r m i j ∧ Chain r n j k := by
  induction m generalizing i with
  | zero =>
    rw [Nat.zero_add] at h
    exact ⟨i, .zero i, h⟩
  | succ m ih =>
    rw [Nat.add_right_comm] at h
    cases h with
    | succ step rest =>
      obtain ⟨j, first, last⟩ := ih rest
      exact ⟨j, .succ step first, last⟩

end Chain

/-- A relation between positions up to `n` that leads nowhere back. -/
def Forward (n : Nat) (r : Nat → Nat → Prop) : Prop := ∀ i j, i ≤ n → r i j → i ≤ j ∧ j ≤ n

theorem Forward.chain {n : Nat} {r : Nat → Nat → Prop} (hr : Forward n r) (count : Nat) :
    Forward n (Chain r count) := by
  intro i j hi h
  induction h with
  | zero i => exact ⟨Nat.le_refl i, hi⟩
  | succ step _ ih =>
    obtain ⟨hij, hj⟩ := hr _ _ hi step
    obtain ⟨hjk, hk⟩ := ih hj
    exact ⟨Nat.le_trans hij hjk, hk⟩

/-- Steps that stay where they are can be left out, and then each one takes a position. -/
theorem Chain.exists_short {n count i j : Nat} {r : Nat → Nat → Prop} (hr : Forward n r)
    (hi : i ≤ n) (h : Chain r count i j) : ∃ short, short ≤ j - i ∧ Chain r short i j := by
  induction h with
  | zero i => exact ⟨0, Nat.zero_le _, .zero i⟩
  | @succ count i j k step rest ih =>
    obtain ⟨hij, hj⟩ := hr i j hi step
    obtain ⟨short, hs, hc⟩ := ih hj
    by_cases stays : i = j
    · subst stays
      exact ⟨short, hs, hc⟩
    · have hjk : j ≤ k := (hr.chain short j k hj hc).1
      exact ⟨short + 1, by omega, .succ step hc⟩

/-! ### Sets of positions -/

/-- No position of a set is beyond `n`. -/
def Within (n s : Nat) : Prop := ∀ i, s.testBit i = true → i ≤ n

/-- `f` leads from a set of positions to exactly those to which the relation leads from it. -/
def Follows (n : Nat) (f : Nat → Nat) (r : Nat → Nat → Prop) : Prop :=
  ∀ s, Within n s → ∀ j, (f s).testBit j = true ↔ ∃ i, s.testBit i = true ∧ r i j

namespace Follows

variable {n : Nat} {f g : Nat → Nat} {r q : Nat → Nat → Prop}

theorem within (hf : Follows n f r) (hr : Forward n r) {s : Nat} (hs : Within n s) :
    Within n (f s) := by
  intro j hj
  obtain ⟨i, hi, step⟩ := (hf s hs j).1 hj
  exact (hr i j (hs i hi) step).2

theorem comp (hf : Follows n f r) (hr : Forward n r) (hg : Follows n g q) :
    Follows n (fun s => g (f s)) fun i j => ∃ k, r i k ∧ q k j := by
  intro s hs j
  rw [hg (f s) (hf.within hr hs)]
  constructor
  · rintro ⟨k, hk, last⟩
    obtain ⟨i, hi, first⟩ := (hf s hs k).1 hk
    exact ⟨i, hi, k, first, last⟩
  · rintro ⟨i, hi, k, first, last⟩
    exact ⟨k, (hf s hs k).2 ⟨i, hi, first⟩, last⟩

theorem times (hf : Follows n f r) (hr : Forward n r) (count : Nat) :
    Follows n (Pattern.times f count) (Chain r count) := by
  induction count with
  | zero =>
    intro s _ j
    constructor
    · exact fun h => ⟨j, h, .zero j⟩
    · rintro ⟨i, hi, h⟩
      cases h
      exact hi
  | succ count ih =>
    intro s hs j
    have through : (Pattern.times f count (f s)).testBit j = true ↔
        ∃ i, s.testBit i = true ∧ Chain r (count + 1) i j := by
      rw [hf.comp hr ih s hs j]
      constructor
      · rintro ⟨i, hi, k, step, rest⟩
        exact ⟨i, hi, .succ step rest⟩
      · rintro ⟨i, hi, h⟩
        cases h with
        | succ step rest => exact ⟨i, hi, _, step, rest⟩
    rw [← through, Pattern.times]
    split
    · next fixed =>
      -- a set that is its own image stays as it is, however often it is taken on
      have stays (k : Nat) : Pattern.times f k s = s := by
        cases k with
        | zero => rfl
        | succ k => simp [Pattern.times, fixed]
      rw [fixed, stays]
    · rfl

theorem upTo (hf : Follows n f r) (hr : Forward n r) (limit : Nat) :
    Follows n (Pattern.upTo f limit) fun i j => ∃ count, count ≤ limit ∧ Chain r count i j := by
  induction limit with
  | zero =>
    intro s _ j
    constructor
    · exact fun h => ⟨j, h, 0, Nat.le_refl 0, .zero j⟩
    · rintro ⟨i, hi, count, hc, h⟩
      cases Nat.le_zero.1 hc
      cases h
      exact hi
  | succ limit ih =>
    intro s hs j
    have both (i : Nat) : (s ||| f s).testBit i = true ↔
        s.testBit i = true ∨ ∃ k, s.testBit k = true ∧ r k i := by
      rw [Nat.testBit_or, Bool.or_eq_true, hf s hs i]
    have hboth : Within n (s ||| f s) := by
      intro i hi
      rw [Nat.testBit_or, Bool.or_eq_true] at hi
      exact hi.elim (hs i) (hf.within hr hs i)
    rw [Pattern.upTo]
    simp only
    split
    · next closed =>
      constructor
      · exact fun h => ⟨j, h, 0, Nat.zero_le _, .zero j⟩
      · rintro ⟨i, hi, count, -, h⟩
        -- no step leads out of the set
        induction h with
        | zero i => exact hi
        | succ step _ ih => exact ih (closed ▸ (both _).2 (.inr ⟨_, hi, step⟩))
    · rw [ih _ hboth j]
      constructor
      · rintro ⟨i, hi, count, hc, h⟩
        rcases (both i).1 hi with hi | ⟨k, hk, step⟩
        · exact ⟨i, hi, count, Nat.le_succ_of_le hc, h⟩
        · exact ⟨k, hk, count + 1, Nat.succ_le_succ hc, .succ step h⟩
      · rintro ⟨i, hi, count, hc, h⟩
        cases h with
        | zero => exact ⟨_, (both _).2 (.inl hi), 0, Nat.zero_le _, .zero _⟩
        | @succ count i k j step rest =>
          exact ⟨k, (both k).2 (.inr ⟨i, hi, step⟩), count, Nat.le_of_succ_le_succ hc, rest⟩

end Follows

/-! ### Leaves -/

theorem testBit_cons_bit (b : Bool) (m i : Nat) :
    ((if b then 1 else 0) + 2 * m).testBit i =
      match i with
      | 0 => b
      | i + 1 => m.testBit i := by
  have e : (if b then 1 else 0) + 2 * m = Nat.bit b m := by
    cases b <;> simp [Nat.bit_val, Nat.add_comm]
  rw [e]
  cases i with
  | zero => exact Nat.testBit_bit_zero b m
  | succ i => exact Nat.testBit_bit_succ i b m

theorem testBit_classBits (k : CharClass) (text : List Char) (i : Nat) :
    (classBits k text).testBit i = true ↔ ∃ c, text[i]? = some c ∧ k.mem c = true := by
  induction text generalizing i with
  | nil => simp [classBits]
  | cons c text ih =>
    rw [classBits, testBit_cons_bit]
    cases i with
    | zero => simp
    | succ i => simp [ih]

/-- The character before a position, where `before` stands before the text. -/
def charBeforeFrom (before : Option Char) (text : List Char) : Nat → Option Char
  | 0 => before
  | i + 1 => text[i]?

theorem testBit_lookBits (l : Look) (before : Option Char) (text : List Char) (i : Nat) :
    (lookBits l before text).testBit i = true ↔
      i ≤ text.length ∧ l.holds (charBeforeFrom before text i) text[i]? = true := by
  induction text generalizing before i with
  | nil =>
    rw [lookBits]
    cases i with
    | zero => cases h : l.holds before none <;> simp [charBeforeFrom, h]
    | succ i => cases l.holds before none <;> simp [Nat.testBit_succ]
  | cons c text ih =>
    rw [lookBits, testBit_cons_bit]
    cases i with
    | zero => simp [charBeforeFrom]
    | succ i =>
      rw [ih]
      cases i <;> simp [charBeforeFrom]

theorem charBeforeFrom_none (text : List Char) (i : Nat) :
    charBeforeFrom none text i = charBefore text i := by
  cases i <;> rfl

/-! ### Patterns -/

/-- No repetition has a limit below its least count. -/
def Expr.Proper : Expr → Prop
  | .empty | .chars _ | .look _ => True
  | .seq p q | .alt p q => p.Proper ∧ q.Proper
  | .rep p min max => p.Proper ∧ ∀ m, max = some m → min ≤ m

/-- A match ends where it starts or later, and within the text. -/
theorem forward_matches (text : List Char) (p : Expr) : Forward text.length (Matches text p) := by
  induction p with
  | empty =>
    rintro i j hi rfl
    exact ⟨Nat.le_refl i, hi⟩
  | chars k =>
    rintro i j - ⟨rfl, c, hc, -⟩
    obtain ⟨hlt, -⟩ := List.getElem?_eq_some_iff.1 hc
    exact ⟨Nat.le_succ i, hlt⟩
  | look l =>
    rintro i j hi ⟨rfl, -⟩
    exact ⟨Nat.le_refl i, hi⟩
  | seq p q ihp ihq =>
    rintro i j hi ⟨k, first, last⟩
    obtain ⟨hik, hk⟩ := ihp i k hi first
    obtain ⟨hkj, hj⟩ := ihq k j hk last
    exact ⟨Nat.le_trans hik hkj, hj⟩
  | alt p q ihp ihq =>
    rintro i j hi (h | h)
    · exact ihp i j hi h
    · exact ihq i j hi h
  | rep p min max ih =>
    rintro i j hi ⟨count, -, -, h⟩
    exact ih.chain count i j hi h

/-- The rounds of a repetition: the least count first, and then as many as the limit leaves. -/
theorem matches_rep_iff (text : List Char) (p : Expr) (min : Nat) (max : Option Nat) (i j : Nat)
    (hmax : ∀ m, max = some m → min ≤ m) :
    Matches text (.rep p min max) i j ↔
      ∃ k, Chain (Matches text p) min i k ∧
        ∃ count, (∀ m, max = some m → count ≤ m - min) ∧ Chain (Matches text p) count k j := by
  constructor
  · rintro ⟨count, hmin, hcount, h⟩
    obtain ⟨rest, rfl⟩ := Nat.exists_eq_add_of_le hmin
    obtain ⟨k, first, last⟩ := h.split
    refine ⟨k, first, rest, fun m hm => ?_, last⟩
    have := hcount m hm
    omega
  · rintro ⟨k, first, rest, hrest, last⟩
    refine ⟨min + rest, Nat.le_add_right _ _, fun m hm => ?_, first.append last⟩
    have := hmax m hm
    have := hrest m hm
    omega

/-- **The search follows the meaning of patterns.** -/
theorem follows_advance (text : List Char) {p : Expr} (hp : p.Proper) :
    Follows text.length (advance text p) (Matches text p) := by
  induction p with
  | empty =>
    intro s _ j
    simp [advance, Matches]
  | chars k =>
    intro s _ j
    rw [advance, Nat.testBit_shiftLeft]
    cases j with
    | zero => simp [Matches]
    | succ j =>
      simp only [Nat.le_add_left, decide_true, Bool.true_and, Nat.add_sub_cancel, Nat.testBit_and,
        Bool.and_eq_true, testBit_classBits, Matches, Nat.add_right_cancel_iff]
      constructor
      · rintro ⟨hs, hc⟩
        exact ⟨j, hs, rfl, hc⟩
      · rintro ⟨i, hs, rfl, hc⟩
        exact ⟨hs, hc⟩
  | look l =>
    intro s hs j
    rw [advance, Nat.testBit_and, Bool.and_eq_true, testBit_lookBits, charBeforeFrom_none]
    constructor
    · rintro ⟨hj, -, hl⟩
      exact ⟨j, hj, rfl, hl⟩
    · rintro ⟨i, hi, rfl, hl⟩
      exact ⟨hi, hs i hi, hl⟩
  | seq p q ihp ihq => exact (ihp hp.1).comp (forward_matches text p) (ihq hp.2)
  | alt p q ihp ihq =>
    intro s hs j
    rw [advance, Nat.testBit_or, Bool.or_eq_true, ihp hp.1 s hs, ihq hp.2 s hs]
    simp only [Matches, and_or_left, exists_or]
  | rep p min max ih =>
    obtain ⟨hproper, hmax⟩ := hp
    have hr := forward_matches text p
    have hf := ih hproper
    intro s hs j
    simp only [matches_rep_iff text p min max _ j hmax]
    have hleast := hf.times hr min
    cases max with
    | some m =>
      rw [advance, hleast.comp (hr.chain min) (hf.upTo hr (m - min)) s hs j]
      simp
    | none =>
      rw [advance, hleast.comp (hr.chain min) (hf.upTo hr (text.length + 1)) s hs j]
      -- rounds beyond the length of the text can be left out
      refine exists_congr fun i => and_congr_right fun hi => exists_congr fun k =>
        and_congr_right fun first => ?_
      constructor
      · rintro ⟨count, -, last⟩
        exact ⟨count, fun m hm => absurd hm (by simp), last⟩
      · rintro ⟨count, -, last⟩
        have hk := (hr.chain min i k (hs i hi) first).2
        obtain ⟨short, hshort, last'⟩ := last.exists_short hr hk
        have hj := (hr.chain count k j hk last).2
        exact ⟨short, by omega, last'⟩

theorem testBit_allPositions (text : List Char) (i : Nat) :
    (allPositions text).testBit i = true ↔ i ≤ text.length := by
  rw [allPositions, Nat.pow_eq, Nat.testBit_two_pow_sub_one, decide_eq_true_iff, Nat.lt_succ_iff]

/-- **A pattern is found exactly if it matches somewhere.** -/
theorem found_eq_true_iff {p : Expr} (hp : p.Proper) (text : List Char) :
    found p text = true ↔ Found text p := by
  have hall : Within text.length (allPositions text) := fun i =>
    (testBit_allPositions text i).1
  have hset := follows_advance text hp (allPositions text) hall
  rw [found, bne_iff_ne]
  constructor
  · intro hne
    obtain ⟨j, hj⟩ := Nat.exists_testBit_of_ne_zero hne
    obtain ⟨i, hi, h⟩ := (hset j).1 hj
    exact ⟨i, j, hall i hi, h⟩
  · rintro ⟨i, j, hi, h⟩ hzero
    have hj := (hset j).2 ⟨i, (testBit_allPositions text i).2 hi, h⟩
    rw [hzero, Nat.zero_testBit] at hj
    cases hj

/-! ### Patterns without conditions on positions -/

/-- No condition on a position stands in the pattern. -/
def Expr.LookFree : Expr → Prop
  | .empty | .chars _ => True
  | .look _ => False
  | .seq p q | .alt p q => p.LookFree ∧ q.LookFree
  | .rep p _ _ => p.LookFree

/-- The texts that a pattern without conditions describes; a condition describes none. -/
def Spells : Expr → List Char → Prop
  | .empty, m => m = []
  | .chars k, m => ∃ c, k.mem c = true ∧ m = [c]
  | .look _, _ => False
  | .seq p q, m => ∃ a b, Spells p a ∧ Spells q b ∧ m = a ++ b
  | .alt p q, m => Spells p m ∨ Spells q m
  | .rep p min max, m =>
    ∃ ws : List (List Char), min ≤ ws.length ∧ (∀ n, max = some n → ws.length ≤ n) ∧
      (∀ w ∈ ws, Spells p w) ∧ m = ws.flatten

theorem append_prefix_iff {a b s : List Char} :
    a ++ b <+: s ↔ a <+: s ∧ b <+: s.drop a.length := by
  constructor
  · rintro ⟨t, rfl⟩
    simp
  · rintro ⟨⟨t, rfl⟩, h⟩
    rw [List.drop_left] at h
    exact (List.prefix_append_right_inj a).2 h

/-- The texts that steps in a row spell, one after the other. -/
theorem chain_iff_spells {text : List Char} {p : Expr}
    (ih : ∀ i j, Matches text p i j ↔ ∃ m, Spells p m ∧ j = i + m.length ∧ m <+: text.drop i)
    (count i j : Nat) :
    Chain (Matches text p) count i j ↔
      ∃ ws : List (List Char), ws.length = count ∧ (∀ w ∈ ws, Spells p w) ∧
        j = i + ws.flatten.length ∧ ws.flatten <+: text.drop i := by
  induction count generalizing i with
  | zero =>
    constructor
    · intro h
      cases h
      exact ⟨[], rfl, by simp, by simp, by simp⟩
    · rintro ⟨ws, hlen, -, rfl, -⟩
      cases List.length_eq_zero_iff.1 hlen
      exact .zero i
  | succ count hchain =>
    constructor
    · intro h
      cases h with
      | succ step rest =>
        obtain ⟨w, hw, rfl, hp⟩ := (ih _ _).1 step
        obtain ⟨ws, hlen, hws, rfl, hps⟩ := (hchain _).1 rest
        rw [← List.drop_drop] at hps
        exact ⟨w :: ws, by rw [List.length_cons, hlen], List.forall_mem_cons.2 ⟨hw, hws⟩,
          by simp [Nat.add_assoc], append_prefix_iff.2 ⟨hp, hps⟩⟩
    · rintro ⟨ws, hlen, hws, rfl, hp⟩
      obtain ⟨w, ws, rfl⟩ := List.exists_cons_of_length_eq_add_one hlen
      obtain ⟨hw, hws⟩ := List.forall_mem_cons.1 hws
      obtain ⟨hp, hps⟩ := append_prefix_iff.1 hp
      rw [List.drop_drop] at hps
      refine .succ ((ih _ _).2 ⟨w, hw, rfl, hp⟩) ((hchain _).2 ⟨ws, ?_, hws, ?_, hps⟩)
      · simpa using hlen
      · simp [Nat.add_assoc]

theorem matches_iff_spells (text : List Char) {p : Expr} (hp : p.LookFree) (i j : Nat) :
    Matches text p i j ↔ ∃ m, Spells p m ∧ j = i + m.length ∧ m <+: text.drop i := by
  induction p generalizing i j with
  | empty => simp [Matches, Spells, eq_comm]
  | chars k =>
    have head (c : Char) : [c] <+: text.drop i ↔ text[i]? = some c := by
      rw [← List.head?_drop]
      cases text.drop i <;> simp [eq_comm]
    constructor
    · rintro ⟨rfl, c, hc, hk⟩
      exact ⟨[c], ⟨c, hk, rfl⟩, rfl, (head c).2 hc⟩
    · rintro ⟨m, ⟨c, hk, rfl⟩, rfl, hc⟩
      exact ⟨rfl, c, (head c).1 hc, hk⟩
  | look l => exact absurd hp id
  | seq p q ihp ihq =>
    simp only [Matches, ihp hp.1, ihq hp.2]
    constructor
    · rintro ⟨_, ⟨a, ha, rfl, hpa⟩, b, hb, rfl, hpb⟩
      rw [← List.drop_drop] at hpb
      exact ⟨a ++ b, ⟨a, b, ha, hb, rfl⟩, by simp [Nat.add_assoc], append_prefix_iff.2 ⟨hpa, hpb⟩⟩
    · rintro ⟨_, ⟨a, b, ha, hb, rfl⟩, rfl, h⟩
      obtain ⟨hpa, hpb⟩ := append_prefix_iff.1 h
      rw [List.drop_drop] at hpb
      exact ⟨_, ⟨a, ha, rfl, hpa⟩, b, hb, by simp [Nat.add_assoc], hpb⟩
  | alt p q ihp ihq => simp only [Matches, Spells, ihp hp.1, ihq hp.2, or_and_right, exists_or]
  | rep p min max ih =>
    simp only [Matches, Spells, chain_iff_spells (ih hp)]
    constructor
    · rintro ⟨_, hmin, hmax, ws, rfl, hws, hj, h⟩
      exact ⟨_, ⟨ws, hmin, hmax, hws, rfl⟩, hj, h⟩
    · rintro ⟨_, ⟨ws, hmin, hmax, hws, rfl⟩, hj, h⟩
      exact ⟨_, hmin, hmax, ws, rfl, hws, hj, h⟩

/-- **A pattern without conditions matches somewhere in a text exactly if the text holds one that it
spells.** -/
theorem found_iff_spells (text : List Char) {p : Expr} (hp : p.LookFree) :
    Found text p ↔ ∃ m, Spells p m ∧ m <:+: text := by
  simp only [Found, matches_iff_spells text hp]
  constructor
  · rintro ⟨i, -, -, m, hm, -, h⟩
    exact ⟨m, hm, h.isInfix.trans (List.drop_suffix i text).isInfix⟩
  · rintro ⟨m, hm, x, y, rfl⟩
    refine ⟨x.length, _, by simp, m, hm, rfl, y, ?_⟩
    rw [List.append_assoc, List.drop_left]

/-- Characters of a class, as many of them as the repetition allows. -/
theorem spells_rep_iff (k : CharClass) (min : Nat) (max : Option Nat) (m : List Char) :
    Spells (.rep (.chars k) min max) m ↔
      min ≤ m.length ∧ (∀ n, max = some n → m.length ≤ n) ∧ ∀ c ∈ m, k.mem c = true := by
  constructor
  · rintro ⟨ws, hmin, hmax, hws, rfl⟩
    have one : ∀ w ∈ ws, w.length = 1 := fun w hw => by
      obtain ⟨c, -, rfl⟩ := hws w hw
      rfl
    have hlen : ws.flatten.length = ws.length := by
      rw [List.length_flatten, List.map_congr_left one]
      simp
    rw [hlen]
    refine ⟨hmin, hmax, fun c hc => ?_⟩
    obtain ⟨w, hw, hcw⟩ := List.mem_flatten.1 hc
    obtain ⟨d, hd, rfl⟩ := hws w hw
    rwa [List.mem_singleton.1 hcw]
  · rintro ⟨hmin, hmax, hall⟩
    refine ⟨m.map ([·]), by rwa [List.length_map], by rwa [List.length_map], ?_, ?_⟩
    · intro w hw
      obtain ⟨c, hc, rfl⟩ := List.mem_map.1 hw
      exact ⟨c, hall c hc, rfl⟩
    · rw [← List.flatMap_def, List.flatMap_singleton']

/-- One character of a class or more. -/
theorem spells_rep_chars_iff (k : CharClass) (m : List Char) :
    Spells (.rep (.chars k) 1 none) m ↔ m ≠ [] ∧ ∀ c ∈ m, k.mem c = true := by
  rw [spells_rep_iff, Nat.one_le_iff_ne_zero, ne_eq, List.length_eq_zero_iff]
  simp

/-- The characters of a text, one after the other, and then another pattern. -/
def literal (text : List Char) (rest : Expr) : Expr :=
  text.foldr (fun c q => .seq (.chars (.one c)) q) rest

theorem spells_literal_iff (text : List Char) (rest : Expr) (m : List Char) :
    Spells (literal text rest) m ↔ ∃ b, Spells rest b ∧ m = text ++ b := by
  induction text generalizing m with
  | nil => simp [literal]
  | cons c text ih =>
    have e : literal (c :: text) rest = .seq (.chars (.one c)) (literal text rest) := rfl
    rw [e]
    simp only [Spells, ih, CharClass.mem, beq_iff_eq]
    constructor
    · rintro ⟨_, _, ⟨_, rfl, rfl⟩, ⟨b, hb, rfl⟩, rfl⟩
      exact ⟨b, hb, rfl⟩
    · rintro ⟨b, hb, rfl⟩
      exact ⟨[c], text ++ b, ⟨c, rfl, rfl⟩, ⟨b, hb, rfl⟩, rfl⟩

theorem lookFree_literal {text : List Char} {rest : Expr} (h : rest.LookFree) :
    (literal text rest).LookFree := by
  induction text with
  | nil => exact h
  | cons c text ih => exact ⟨trivial, ih⟩

/-! ### Patterns that were read -/

theorem proper_foldl_sequence {items : List Item} (h : ∀ p, .part p ∈ items → p.expr.Proper)
    {acc : Part} (hacc : acc.expr.Proper) :
    (items.foldl (fun acc item =>
      match item with
      | .flags => acc
      | .part p => ⟨.seq p.expr acc.expr, max acc.depth (p.depth + 1), acc.weight + p.weight⟩)
      acc).expr.Proper := by
  induction items generalizing acc with
  | nil => exact hacc
  | cons item items ih =>
    have hrest : ∀ p, .part p ∈ items → p.expr.Proper := fun p hp =>
      h p (List.mem_cons_of_mem _ hp)
    cases item with
    | flags => exact ih hrest hacc
    | part p => exact ih hrest ⟨h p List.mem_cons_self, hacc⟩

theorem proper_sequence {items : List Item} (h : ∀ p, .part p ∈ items → p.expr.Proper) :
    (sequence items).expr.Proper := by
  unfold sequence
  split
  · exact trivial
  · exact h _ List.mem_cons_self
  · exact proper_foldl_sequence h trivial

theorem proper_alternatives {last : Part} {earlier : List Part} (hlast : last.expr.Proper)
    (h : ∀ p ∈ earlier, p.expr.Proper) : (alternatives last earlier).expr.Proper := by
  have fold (ps : List Part) (hps : ∀ p ∈ ps, p.expr.Proper) {acc : Part}
      (hacc : acc.expr.Proper) :
      (ps.foldl (fun acc p => ⟨.alt p.expr acc.expr, max acc.depth (p.depth + 1),
        acc.weight + p.weight + 8⟩) acc).expr.Proper := by
    induction ps generalizing acc with
    | nil => exact hacc
    | cons p ps ih =>
      exact ih (fun q hq => hps q (List.mem_cons_of_mem _ hq)) ⟨hps p List.mem_cons_self, hacc⟩
  unfold alternatives
  split
  · exact hlast
  · exact fold earlier h hlast

/-- A group of which every part that was read is proper. -/
structure GroupState.Proper (st : GroupState) : Prop where
  done : ∀ p ∈ st.done, p.expr.Proper
  items : ∀ p, .part p ∈ st.items → p.expr.Proper

namespace GroupState.Proper

variable {st : GroupState}

theorem start (names : List (List Char)) : GroupState.Proper ⟨[], [], names⟩ :=
  ⟨fun _ hp => absurd hp List.not_mem_nil, fun _ hp => absurd hp List.not_mem_nil⟩

theorem part (h : st.Proper) : st.part.expr.Proper :=
  proper_alternatives (proper_sequence h.items) h.done

theorem push (h : st.Proper) {p : Expr} (hp : p.Proper) (depth weight : Nat)
    (names : List (List Char)) :
    GroupState.Proper ⟨st.done, .part ⟨p, depth, weight⟩ :: st.items, names⟩ := by
  refine ⟨h.done, fun q hq => ?_⟩
  rcases List.mem_cons.1 hq with e | hq
  · cases e
    exact hp
  · exact h.items q hq

theorem flags (h : st.Proper) : GroupState.Proper { st with items := .flags :: st.items } := by
  refine ⟨h.done, fun q hq => ?_⟩
  rcases List.mem_cons.1 hq with e | hq
  · cases e
  · exact h.items q hq

theorem alternative (h : st.Proper) :
    GroupState.Proper { st with done := sequence st.items :: st.done, items := [] } :=
  ⟨List.forall_mem_cons.2 ⟨proper_sequence h.items, h.done⟩, fun _ hp => absurd hp List.not_mem_nil⟩

theorem repeatLast (h : st.Proper) {least : Nat} {most : Option Nat} {items : List Item}
    (hmost : ∀ m, most = some m → least ≤ m) (hr : repeatLast? least most st.items = some items) :
    GroupState.Proper { st with items := items } := by
  unfold repeatLast? at hr
  split at hr
  · next p rest hitems =>
    cases hr
    refine ⟨h.done, fun q hq => ?_⟩
    rcases List.mem_cons.1 hq with e | hq
    · cases e
      exact ⟨h.items p (hitems ▸ List.mem_cons_self), hmost⟩
    · exact h.items q (hitems ▸ List.mem_cons_of_mem _ hq)
  · cases hr

end GroupState.Proper

theorem proper_atomPart {o : Options} {a : Atom} {p : Part} (h : atomPart? o a = some p) :
    p.expr.Proper := by
  cases a with
  | literal c asByte =>
    simp only [atomPart?] at h
    split at h
    · cases h
    · cases h
      exact trivial
  | cls k w =>
    cases h
    exact trivial
  | look l =>
    cases h
    exact trivial

/-- A counted repetition whose limit is below its least count is refused. -/
theorem le_of_counts {o : Options} {s rest : List Char} {least m : Nat}
    (h : counts o s = some (least, some m, rest)) : least ≤ m := by
  unfold counts at h
  simp only [bind, Option.bind_eq_some_iff] at h
  obtain ⟨⟨n, t⟩, -, h⟩ := h
  simp only at h
  split at h
  · cases h
    exact Nat.le_refl _
  · split at h
    · cases h
    · obtain ⟨⟨most, v⟩, -, h⟩ := Option.bind_eq_some_iff.1 h
      simp only at h
      split at h
      · split at h
        · next hle =>
          cases h
          exact hle
        · cases h
      · cases h
  · cases h

/-- **Reading keeps repetitions proper**, one step of the reader after the other. -/
theorem proper_content {fuel : Nat} {o : Options} {st st' : GroupState} {s rest : List Char}
    (hst : st.Proper) (h : content fuel o st s = some (st', rest)) : st'.Proper := by
  induction fuel generalizing o st st' s rest with
  | zero =>
    unfold content at h
    cases h
  | succ fuel ih =>
    have repeated {least : Nat} {most : Option Nat} {t : List Char}
        (hmost : ∀ m, most = some m → least ≤ m)
        (h : content.repeated fuel o st least most t = some (st', rest)) : st'.Proper := by
      unfold content.repeated at h
      split at h
      · cases h
      · next items hr => exact ih (hst.repeatLast hmost hr) h
    have atomic {atom : Option (Atom × List Char)}
        (h : content.atomic fuel o st atom = some (st', rest)) : st'.Proper := by
      unfold content.atomic at h
      split at h
      · cases h
      · split at h
        · cases h
        · next p hp => exact ih (hst.push (proper_atomPart hp) p.depth p.weight st.names) h
    unfold content at h
    split at h
    · cases h
      exact hst
    · cases h
      exact hst
    · -- a group: its content is read like the whole, and goes into the group around as one part
      split at h
      · cases h
      · exact ih hst.flags h
      · next o' name weight inside _ =>
        extract_lets taken at h
        split at h
        · cases h
        · split at h
          · next inner u hinner =>
            have hinner : inner.part.expr.Proper := (ih (.start _) hinner).part
            exact ih (hst.push hinner (inner.part.depth + 1) (inner.part.weight + weight)
              inner.names) h
          · cases h
    · exact ih hst.alternative h
    · split at h
      · cases h
      · next k t hk => exact ih (hst.push (p := .chars k.cls) trivial k.depth k.weight st.names) h
    · exact repeated (fun m hm => Nat.zero_le m) h
    · exact repeated (fun m hm => by cases hm) h
    · exact repeated (fun m hm => by cases hm) h
    · split at h
      · cases h
      · next least most t' hcounts =>
        refine repeated (fun m hm => ?_) h
        subst hm
        exact le_of_counts hcounts
    all_goals exact atomic h

/-- **Every pattern that was read is proper.** -/
theorem proper_of_read? {s : List Char} {p : Expr} (h : read? s = some p) : p.Proper := by
  unfold read? at h
  split at h
  · next st hc =>
    simp only at h
    split at h
    · cases h
      exact (proper_content (.start []) hc).part
    · cases h
  · cases h

end ReleaseGate.Pattern
