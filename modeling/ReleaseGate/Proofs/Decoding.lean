import Mathlib.Data.List.Basic
import ReleaseGate.Text.Utf8

/-!
# Decoding with loss

Lossy decoding reads one piece after the other: a character, or a maximal invalid part. No piece
takes in an ASCII byte beside itself, so a byte sequence may be cut at any such byte and decoded in
parts (`decodeLossy_append`), and a line feed or another of the first control characters comes from
its own byte only (`control_not_mem_decodeLossy`).
-/

namespace ReleaseGate.Text.Utf8

/-! ### Encoded texts -/

theorem toList_loop (bs : ByteArray) (n i : Nat) (r : Bytes) (h : i + n = bs.data.toList.length) :
    ByteArray.toList.loop bs i r = r.reverse ++ bs.data.toList.drop i := by
  induction n generalizing i r with
  | zero =>
    have hi : ¬i < bs.size := by simp at h; omega
    rw [ByteArray.toList.loop, if_neg hi, List.drop_eq_nil_of_le (by omega), List.append_nil]
  | succ n ih =>
    have hi : i < bs.data.toList.length := by omega
    have hs : i < bs.size := by simpa using hi
    have hb : bs.get! i = bs.data.toList[i] := by
      rw [ByteArray.get!, Array.getElem_toList, getElem!_pos bs.data i (by simpa using hi)]
    rw [ByteArray.toList.loop, if_pos hs, ih (i + 1) _ (by omega), hb,
      List.drop_eq_getElem_cons hi, List.reverse_cons, List.append_assoc, List.singleton_append]

theorem toList_eq (bs : ByteArray) : bs.toList = bs.data.toList := by
  rw [ByteArray.toList, toList_loop _ _ 0 [] (Nat.zero_add _)]
  simp

/-- The bytes of a text are the bytes of its characters. -/
theorem encode_eq_flatMap (s : String) : encode s = s.toList.flatMap String.utf8EncodeChar := by
  have h : s.toByteArray = s.toList.utf8Encode := by simp
  rw [encode, String.toUTF8_eq_toByteArray, h, List.utf8Encode, toList_eq]
  simp

theorem encode_injective : Function.Injective encode := by
  intro s t h
  rw [encode, encode, toList_eq, toList_eq] at h
  exact String.toByteArray_inj.1 (ByteArray.ext (Array.toList_inj.1 h))

theorem encode_append (s t : String) : encode (s ++ t) = encode s ++ encode t := by
  simp [encode_eq_flatMap]

/-- An ASCII byte among the bytes of a character is the character itself. -/
theorem toNat_of_mem_utf8EncodeChar {c : Char} {b : UInt8} (h : b ∈ String.utf8EncodeChar c)
    (hb : b < 0x80) : c.toNat = b.toNat := by
  have hb' : b.toNat < 128 := hb
  -- the bytes of a longer character are all marked by their highest bit
  have high {n : Nat} (e : b = UInt8.ofNat n) (h₁ : 128 ≤ n) (h₂ : n < 256) : False := by
    rw [e, UInt8.toNat_ofNat', Nat.mod_eq_of_lt h₂] at hb'
    omega
  unfold String.utf8EncodeChar at h
  simp only at h
  split_ifs at h with h₁ h₂ h₃ <;> simp only [List.mem_cons, List.not_mem_nil, or_false] at h
  · rw [h, UInt8.toNat_ofNat', Char.toNat]
    omega
  · rcases h with h | h <;> exact (high h (by omega) (by omega)).elim
  · rcases h with h | h | h <;> exact (high h (by omega) (by omega)).elim
  · rcases h with h | h | h | h <;> exact (high h (by omega) (by omega)).elim

theorem eq_of_mem_utf8EncodeChar {c d : Char} {b : UInt8} (h : b ∈ String.utf8EncodeChar d)
    (hb : b < 0x80) (hc : c.toNat = b.toNat) : d = c :=
  Char.toNat_inj.1 ((toNat_of_mem_utf8EncodeChar h hb).trans hc.symm)

/-- A text without an ASCII character has no such byte. -/
theorem not_mem_encode {c : Char} {b : UInt8} (hb : b < 0x80) (hc : c.toNat = b.toNat) {s : String}
    (h : c ∉ s.toList) : b ∉ encode s := by
  rw [encode_eq_flatMap, List.mem_flatMap]
  rintro ⟨d, hd, hm⟩
  exact h (eq_of_mem_utf8EncodeChar hm hb hc ▸ hd)

theorem head?_encode {c : Char} {b : UInt8} (hb : b < 0x80) (hc : c.toNat = b.toNat) {s : String}
    (h : (encode s).head? = some b) : s.toList.head? = some c := by
  rw [encode_eq_flatMap] at h
  cases hs : s.toList with
  | nil => simp [hs] at h
  | cons d cs =>
    have hd : b ∈ String.utf8EncodeChar d := by
      rw [hs, List.flatMap_cons, List.head?_append_of_ne_nil _ String.utf8EncodeChar_ne_nil] at h
      exact List.mem_of_mem_head? h
    rw [List.head?_cons, eq_of_mem_utf8EncodeChar hd hb hc]

theorem getLast?_encode {c : Char} {b : UInt8} (hb : b < 0x80) (hc : c.toNat = b.toNat) {s : String}
    (h : (encode s).getLast? = some b) : s.toList.getLast? = some c := by
  rw [encode_eq_flatMap] at h
  rcases List.eq_nil_or_concat s.toList with hs | ⟨cs, d, hs⟩
  · simp [hs] at h
  · have hd : b ∈ String.utf8EncodeChar d := by
      rw [hs, List.concat_eq_append, List.flatMap_append, List.flatMap_singleton,
        List.getLast?_append_of_ne_nil _ String.utf8EncodeChar_ne_nil] at h
      exact List.mem_of_getLast? h
    rw [hs, List.concat_eq_append, List.getLast?_concat, eq_of_mem_utf8EncodeChar hd hb hc]

theorem lf_not_mem_encode {s : String} (h : '\n' ∉ s.toList) : 10 ∉ encode s :=
  not_mem_encode (by decide) (by decide) h

/-! ### Piece by piece -/

/-- What is shown for a piece. -/
def Piece.glyph : Piece → Char
  | char c _ => c
  | invalid _ => '\ufffd'

/-- The count of bytes in a piece. -/
def Piece.size : Piece → Nat
  | char _ n => n
  | invalid n => n

/-- Fuel beyond the length of the byte sequence changes nothing. -/
theorem decodeLossyWith_congr {f g : Nat} {bs : Bytes} (hf : bs.length ≤ f) (hg : bs.length ≤ g) :
    decodeLossyWith f bs = decodeLossyWith g bs := by
  induction f generalizing g bs with
  | zero =>
    obtain rfl : bs = [] := List.eq_nil_of_length_eq_zero (by omega)
    cases g <;> rfl
  | succ f ih =>
    cases bs with
    | nil => cases g <;> rfl
    | cons b bs =>
      rw [List.length_cons] at hf hg
      obtain ⟨g, rfl⟩ : ∃ k, g = k + 1 := ⟨g - 1, by omega⟩
      have hd (n : Nat) : decodeLossyWith f (bs.drop n) = decodeLossyWith g (bs.drop n) :=
        ih (by rw [List.length_drop]; omega) (by rw [List.length_drop]; omega)
      rw [decodeLossyWith, decodeLossyWith]
      cases next b bs <;> simp only [hd]

@[simp] theorem decodeLossy_nil : decodeLossy [] = [] := rfl

theorem decodeLossy_cons (b : UInt8) (bs : Bytes) :
    decodeLossy (b :: bs) =
      (next b bs).glyph :: decodeLossy (bs.drop ((next b bs).size - 1)) := by
  have h (n : Nat) : decodeLossyWith bs.length (bs.drop n) = decodeLossy (bs.drop n) :=
    decodeLossyWith_congr (by simp) (Nat.le_refl _)
  rw [decodeLossy, List.length_cons, decodeLossyWith]
  cases next b bs <;> simp only [Piece.glyph, Piece.size, h]

/-- An ASCII byte is a piece of its own. -/
theorem next_of_lt {b : UInt8} (h : b < 0x80) (bs : Bytes) :
    next b bs = .char (Char.ofNat b.toNat) 1 := by
  simp [next, followers, leadBits, follow, h]

theorem decodeLossy_cons_of_lt {b : UInt8} (h : b < 0x80) (bs : Bytes) :
    decodeLossy (b :: bs) = Char.ofNat b.toNat :: decodeLossy bs := by
  simp [decodeLossy_cons, next_of_lt h, Piece.glyph, Piece.size]

/-- A text of ASCII characters. -/
def IsAscii (s : String) : Prop := ∀ c ∈ s.toList, c.toNat < 128

instance (s : String) : Decidable (IsAscii s) :=
  decidable_of_iff (s.toList.all fun c => c.toNat < 128) (by simp [IsAscii])

/-- A text that starts with ASCII characters is decoded to one that starts with them. -/
theorem decodeLossy_encode_append {p : String} (hp : IsAscii p) (s : String) :
    decodeLossy (encode (p ++ s)) = p.toList ++ decodeLossy (encode s) := by
  rw [encode_append, encode_eq_flatMap p]
  unfold IsAscii at hp
  generalize p.toList = cs at *
  induction cs with
  | nil => rfl
  | cons c cs ih =>
    have hc : c.toNat < 128 := hp c List.mem_cons_self
    have he : String.utf8EncodeChar c = [UInt8.ofNat c.toNat] := by
      rw [String.utf8EncodeChar, Char.toNat]
      exact if_pos (Nat.le_of_lt_succ hc)
    have hn : (UInt8.ofNat c.toNat).toNat = c.toNat := by
      rw [UInt8.toNat_ofNat', Nat.mod_eq_of_lt (by omega)]
    have hb : UInt8.ofNat c.toNat < 0x80 := by
      rw [UInt8.lt_iff_toNat_lt, hn]
      exact hc
    rw [List.flatMap_cons, he, List.singleton_append, List.cons_append, decodeLossy_cons_of_lt hb,
      hn, Char.ofNat_toNat, ih fun d hd => hp d (List.mem_cons_of_mem _ hd), List.cons_append]

/-! ### Cutting at an ASCII byte -/

/-- What follows a lead byte ends before an ASCII byte. -/
theorem follow_append {x lo : UInt8} (hx : x < 0x80) (hlo : 0x80 ≤ lo) (acc : Nat) (hi : UInt8)
    (n : Nat) (bs rest : Bytes) : follow acc lo hi n (bs ++ x :: rest) = follow acc lo hi n bs := by
  induction bs generalizing acc lo hi n with
  | nil =>
    have : ¬lo ≤ x := fun h => absurd hx (UInt8.not_lt.2 (UInt8.le_trans hlo h))
    cases n <;> simp [follow, this]
  | cons b bs ih => cases n <;> simp [follow, ih (UInt8.le_refl 0x80)]

/-- No more is taken than there is. -/
theorem follow_size_le (acc : Nat) (lo hi : UInt8) (n : Nat) (bs : Bytes) :
    (∀ code, follow acc lo hi n bs = .inl code → n ≤ bs.length) ∧
      ∀ taken, follow acc lo hi n bs = .inr taken → taken ≤ bs.length := by
  induction bs generalizing acc lo hi n with
  | nil => cases n <;> simp [follow]
  | cons b bs ih =>
    cases n with
    | zero => simp [follow]
    | succ n =>
      rw [follow]
      have := ih (acc * 64 + (b.toNat - 0x80)) 0x80 0xBF n
      split
      · split <;> simp_all
      · simp

/-- The range of a second byte has no ASCII byte. -/
theorem le_secondRange (b : UInt8) : 0x80 ≤ (secondRange b).1 := by
  unfold secondRange
  split_ifs <;> decide

/-- The piece at the front ends before an ASCII byte. -/
theorem next_append {x : UInt8} (hx : x < 0x80) (b : UInt8) (bs rest : Bytes) :
    next b (bs ++ x :: rest) = next b bs := by
  simp only [next, follow_append hx (le_secondRange b)]

/-- A piece is no longer than what it is taken from. -/
theorem next_size_le (b : UInt8) (bs : Bytes) : (next b bs).size - 1 ≤ bs.length := by
  unfold next
  cases followers b with
  | none => simp [Piece.size]
  | some n =>
    have h := follow_size_le (leadBits b) (secondRange b).1 (secondRange b).2 n bs
    dsimp only
    split <;> simp_all [Piece.size]

/-- **A byte sequence may be decoded in parts**, where the second part starts with an ASCII byte. -/
theorem decodeLossy_append {x : UInt8} (hx : x < 0x80) (bs rest : Bytes) :
    decodeLossy (bs ++ x :: rest) = decodeLossy bs ++ decodeLossy (x :: rest) := by
  -- a piece takes more than one byte at a time, so the induction is on the length
  induction h : bs.length using Nat.strongRecOn generalizing bs with
  | ind k ih =>
    cases bs with
    | nil => simp
    | cons b bs =>
      have hs := next_size_le b bs
      rw [List.cons_append, decodeLossy_cons, decodeLossy_cons, next_append hx,
        List.drop_append_of_le_length hs, ih _ _ _ rfl, List.cons_append]
      rw [← h, List.length_cons, List.length_drop]
      omega

/-! ### Control characters -/

/-- What is taken never lowers the code point. -/
theorem le_of_follow {acc n code : Nat} {lo hi : UInt8} {bs : Bytes}
    (h : follow acc lo hi n bs = .inl code) : acc ≤ code := by
  induction bs generalizing acc lo hi n with
  | nil => cases n <;> simp_all [follow]
  | cons b bs ih =>
    cases n with
    | zero => simp_all [follow]
    | succ n =>
      rw [follow] at h
      split at h
      · split at h
        · next hf =>
          cases h
          have := ih hf
          omega
        · cases h
      · cases h

theorem le_of_follow_succ {acc n code : Nat} {lo hi : UInt8} {bs : Bytes}
    (h : follow acc lo hi (n + 1) bs = .inl code) : acc * 64 + (lo.toNat - 0x80) ≤ code := by
  cases bs with
  | nil => simp [follow] at h
  | cons b bs =>
    rw [follow] at h
    split at h
    · next hb =>
      have hlo : lo.toNat ≤ b.toNat := UInt8.le_iff_toNat_le.1 (by simp_all)
      split at h
      · next hf =>
        cases h
        have := le_of_follow hf
        omega
      · cases h
    · cases h

/-- The characters of several bytes come after the first control characters. -/
theorem le_leadBits {b : UInt8} (hb : ¬b < 0x80) {n : Nat} (h : followers b = some n) :
    0 < n ∧ 16 ≤ leadBits b * 64 + ((secondRange b).1.toNat - 0x80) := by
  have e0 (c : UInt8) : b = c ↔ b.toNat = c.toNat := UInt8.toNat_inj.symm
  unfold followers at h
  unfold leadBits secondRange
  simp only [beq_iff_eq, e0, UInt8.lt_iff_toNat_lt, UInt8.le_iff_toNat_le, Bool.and_eq_true,
    decide_eq_true_eq, UInt8.reduceToNat] at *
  split_ifs at h with h₁ h₂ h₃ <;> cases h <;> refine ⟨by decide, ?_⟩ <;>
    split_ifs <;> simp only [UInt8.reduceToNat] <;> omega

theorem ofNat_ne_control {n k : Nat} (h₀ : 0 < k) (hk : k < 16) (h : n ≠ k) :
    Char.ofNat n ≠ Char.ofNat k := by
  intro e
  have hv' : k.isValidChar := .inl (by omega)
  rw [Char.ofNat, Char.ofNat, dif_pos hv'] at e
  by_cases hv : n.isValidChar
  · rw [dif_pos hv] at e
    exact h (congrArg Char.toNat e)
  · rw [dif_neg hv] at e
    exact absurd (congrArg Char.toNat e) (by show 0 ≠ k; omega)

/-- Only its own byte shows as one of the first control characters. -/
theorem glyph_ne_control {k b : UInt8} (h₀ : 0 < k) (hk : k < 16) (hb : b ≠ k) (bs : Bytes) :
    (next b bs).glyph ≠ Char.ofNat k.toNat := by
  have h₀' : 0 < k.toNat := h₀
  have hk' : k.toNat < 16 := hk
  by_cases h : b < 0x80
  · rw [next_of_lt h]
    exact ofNat_ne_control h₀' hk' fun e => hb (UInt8.toNat_inj.1 e)
  · have replacement : Char.ofNat 0xFFFD ≠ Char.ofNat k.toNat :=
      ofNat_ne_control h₀' hk' (by omega)
    unfold next
    cases hf : followers b with
    | none => exact replacement
    | some n =>
      obtain ⟨hn, hl⟩ := le_leadBits h hf
      obtain ⟨n, rfl⟩ : ∃ k, n = k + 1 := ⟨n - 1, by omega⟩
      dsimp only
      split
      · next code hc =>
        have hcode := le_of_follow_succ hc
        exact ofNat_ne_control h₀' hk' (by omega)
      · exact replacement

/-- A control character that is no byte of a text is no character of it. -/
theorem control_not_mem_decodeLossy {k : UInt8} (h₀ : 0 < k) (hk : k < 16) {bs : Bytes}
    (h : k ∉ bs) : Char.ofNat k.toNat ∉ decodeLossy bs := by
  induction hn : bs.length using Nat.strongRecOn generalizing bs with
  | ind n ih =>
    cases bs with
    | nil => simp
    | cons b bs =>
      have hb : b ≠ k := fun e => h (e ▸ List.mem_cons_self)
      have hd : k ∉ bs.drop ((next b bs).size - 1) := fun m =>
        h (List.mem_cons_of_mem _ (List.mem_of_mem_drop m))
      rw [decodeLossy_cons, List.mem_cons]
      rintro (e | m)
      · exact glyph_ne_control h₀ hk hb bs e.symm
      · refine ih _ ?_ hd rfl m
        rw [← hn, List.length_cons, List.length_drop]
        omega

/-- A line of bytes is decoded to a line of text. -/
theorem lf_not_mem_decodeLossy {bs : Bytes} (h : 10 ∉ bs) : '\n' ∉ decodeLossy bs :=
  control_not_mem_decodeLossy (by decide) (by decide) h

end ReleaseGate.Text.Utf8
