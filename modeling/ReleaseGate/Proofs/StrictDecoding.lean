import ReleaseGate.Proofs.Decoding

/-!
# Decoding without loss

Strict decoding reads the same pieces as the lossy one and refuses an invalid part, so where it
gives a text, that is the text (`decodeLossy_of_decode?`). It reads back what was encoded, whatever
follows (`decode?_encode_append`), and may be done in parts that meet at an ASCII byte
(`decode?_append`).
-/

namespace ReleaseGate.Text.Utf8

/-! ### Piece by piece -/

/-- Fuel beyond the length of the byte sequence changes nothing. -/
theorem decodeWith_congr {f g : Nat} {bs : Bytes} (hf : bs.length ≤ f) (hg : bs.length ≤ g) :
    decodeWith f bs = decodeWith g bs := by
  induction f generalizing g bs with
  | zero =>
    obtain rfl : bs = [] := List.eq_nil_of_length_eq_zero (by omega)
    cases g <;> rfl
  | succ f ih =>
    cases bs with
    | nil => cases g <;> rfl
    | cons b bs =>
      rw [List.length_cons] at hf hg
      obtain ⟨g, rfl⟩ : ∃ k, g = k + 1 := ⟨g - 1, by omega⟩
      have hd (n : Nat) : decodeWith f (bs.drop n) = decodeWith g (bs.drop n) :=
        ih (by rw [List.length_drop]; omega) (by rw [List.length_drop]; omega)
      rw [decodeWith, decodeWith]
      cases next b bs <;> simp only [hd]

@[simp] theorem decode?_nil : decode? [] = some [] := rfl

theorem decode?_cons_of_char {b : UInt8} {bs : Bytes} {c : Char} {n : Nat}
    (h : next b bs = .char c n) : decode? (b :: bs) = (decode? (bs.drop (n - 1))).map (c :: ·) := by
  have hd : decodeWith bs.length (bs.drop (n - 1)) = decode? (bs.drop (n - 1)) :=
    decodeWith_congr (by simp) (Nat.le_refl _)
  rw [decode?, List.length_cons, decodeWith, h, ← hd]

theorem decode?_cons_of_invalid {b : UInt8} {bs : Bytes} {n : Nat} (h : next b bs = .invalid n) :
    decode? (b :: bs) = none := by
  rw [decode?, List.length_cons, decodeWith, h]

theorem decode?_cons_of_lt {b : UInt8} (h : b < 0x80) (bs : Bytes) :
    decode? (b :: bs) = (decode? bs).map (Char.ofNat b.toNat :: ·) :=
  decode?_cons_of_char (next_of_lt h bs)

/-- The text of a byte sequence loses nothing. -/
theorem decodeLossy_of_decode? {bs : Bytes} {s : List Char} (h : decode? bs = some s) :
    decodeLossy bs = s := by
  induction hk : bs.length using Nat.strongRecOn generalizing bs s with
  | ind k ih =>
    cases bs with
    | nil => simpa using h
    | cons b bs =>
      cases hn : next b bs with
      | invalid n =>
        rw [decode?_cons_of_invalid hn] at h
        cases h
      | char c n =>
        rw [decode?_cons_of_char hn] at h
        obtain ⟨r, hr, rfl⟩ := Option.map_eq_some_iff.1 h
        rw [decodeLossy_cons, hn, Piece.glyph, Piece.size]
        rw [ih _ ?_ hr rfl]
        rw [← hk, List.length_cons, List.length_drop]
        omega

/-- A line of bytes is decoded to a line of text, if it is text. -/
theorem lf_not_mem_of_decode? {bs : Bytes} {s : List Char} (h : decode? bs = some s)
    (hl : 10 ∉ bs) : '\n' ∉ s :=
  decodeLossy_of_decode? h ▸ lf_not_mem_decodeLossy hl

/-- **A byte sequence may be decoded in parts**, where the second part starts with an ASCII byte. -/
theorem decode?_append {x : UInt8} (hx : x < 0x80) (bs rest : Bytes) :
    decode? (bs ++ x :: rest) =
      (decode? bs).bind fun s => (decode? (x :: rest)).map (s ++ ·) := by
  -- a piece takes more than one byte at a time, so the induction is on the length
  induction h : bs.length using Nat.strongRecOn generalizing bs with
  | ind k ih =>
    cases bs with
    | nil => simp
    | cons b bs =>
      have hs := next_size_le b bs
      cases hn : next b bs with
      | invalid n =>
        rw [List.cons_append, decode?_cons_of_invalid hn,
          decode?_cons_of_invalid ((next_append hx b bs rest).trans hn), Option.bind_none]
      | char c n =>
        rw [hn, Piece.size] at hs
        rw [List.cons_append, decode?_cons_of_char hn,
          decode?_cons_of_char ((next_append hx b bs rest).trans hn),
          List.drop_append_of_le_length hs, ih _ ?_ _ rfl]
        · cases decode? (bs.drop (n - 1)) <;> simp [Function.comp_def]
        · rw [← h, List.length_cons, List.length_drop]
          omega

/-! ### Encoded texts -/

theorem toNat_ofNat_of_lt {n : Nat} (h : n < 256) : (UInt8.ofNat n).toNat = n := by
  rw [UInt8.toNat_ofNat', Nat.mod_eq_of_lt h]

/-- The lead byte of two. -/
theorem followers_eq_one {b : UInt8} (h₁ : 0xC2 ≤ b.toNat) (h₂ : b.toNat ≤ 0xDF) :
    followers b = some 1 ∧ leadBits b = b.toNat - 0xC0 := by
  simp only [followers, leadBits, UInt8.lt_iff_toNat_lt, UInt8.le_iff_toNat_le, Bool.and_eq_true,
    decide_eq_true_eq, UInt8.reduceToNat]
  constructor
  · rw [if_neg (by omega), if_pos (by omega)]
  · rw [if_neg (by omega), if_pos (by omega)]

/-- The lead byte of three. -/
theorem followers_eq_two {b : UInt8} (h₁ : 0xE0 ≤ b.toNat) (h₂ : b.toNat ≤ 0xEF) :
    followers b = some 2 ∧ leadBits b = b.toNat - 0xE0 := by
  simp only [followers, leadBits, UInt8.lt_iff_toNat_lt, UInt8.le_iff_toNat_le, Bool.and_eq_true,
    decide_eq_true_eq, UInt8.reduceToNat]
  constructor
  · rw [if_neg (by omega), if_neg (by omega), if_pos (by omega)]
  · rw [if_neg (by omega), if_neg (by omega), if_pos (by omega)]

/-- The lead byte of four. -/
theorem followers_eq_three {b : UInt8} (h₁ : 0xF0 ≤ b.toNat) (h₂ : b.toNat ≤ 0xF4) :
    followers b = some 3 ∧ leadBits b = b.toNat - 0xF0 := by
  simp only [followers, leadBits, UInt8.lt_iff_toNat_lt, UInt8.le_iff_toNat_le, Bool.and_eq_true,
    decide_eq_true_eq, UInt8.reduceToNat]
  constructor
  · rw [if_neg (by omega), if_neg (by omega), if_neg (by omega), if_pos (by omega)]
  · rw [if_neg (by omega), if_neg (by omega), if_neg (by omega)]

/-- What the range of the second byte takes: four lead bytes narrow it. -/
theorem secondRange_contains {b : UInt8} {x : Nat} (hx : 0x80 ≤ x ∧ x ≤ 0xBF)
    (he0 : b.toNat = 0xE0 → 0xA0 ≤ x) (hed : b.toNat = 0xED → x ≤ 0x9F)
    (hf0 : b.toNat = 0xF0 → 0x90 ≤ x) (hf4 : b.toNat = 0xF4 → x ≤ 0x8F) :
    (secondRange b).1.toNat ≤ x ∧ x ≤ (secondRange b).2.toNat := by
  have e (c : UInt8) : b = c ↔ b.toNat = c.toNat := UInt8.toNat_inj.symm
  unfold secondRange
  simp only [beq_iff_eq, e, UInt8.reduceToNat]
  split_ifs <;> simp only [UInt8.reduceToNat] <;> omega

/-- One more byte, which carries six bits. -/
theorem follow_cons {acc n m code : Nat} {lo hi : UInt8} {bs : Bytes}
    (hlo : lo.toNat ≤ m % 64 + 128) (hhi : m % 64 + 128 ≤ hi.toNat)
    (h : follow (acc * 64 + m % 64) 0x80 0xBF n bs = .inl code) :
    follow acc lo hi (n + 1) (UInt8.ofNat (m % 64 + 128) :: bs) = .inl code := by
  have hb : (UInt8.ofNat (m % 64 + 128)).toNat = m % 64 + 128 := toNat_ofNat_of_lt (by omega)
  have hr : (decide (lo ≤ UInt8.ofNat (m % 64 + 128)) &&
      decide (UInt8.ofNat (m % 64 + 128) ≤ hi)) = true := by
    simp only [UInt8.le_iff_toNat_le, hb, hlo, hhi, decide_true, Bool.and_self]
  have hm : (UInt8.ofNat (m % 64 + 128)).toNat - 0x80 = m % 64 := by omega
  rw [follow, if_pos hr, hm, h]

theorem next_of_follow {b : UInt8} {bs : Bytes} {n code : Nat} (hn : followers b = some n)
    (h : follow (leadBits b) (secondRange b).1 (secondRange b).2 n bs = .inl code) :
    next b bs = .char (Char.ofNat code) (n + 1) := by
  simp only [next, hn, h]

theorem next_two {b : UInt8} {v : Nat} (hb : b.toNat = v / 64 + 0xC0) (h₁ : 0x80 ≤ v)
    (h₂ : v ≤ 0x7FF) (rest : Bytes) :
    next b (UInt8.ofNat (v % 64 + 128) :: rest) = .char (Char.ofNat v) 2 := by
  obtain ⟨hf, hl⟩ := followers_eq_one (b := b) (by omega) (by omega)
  obtain ⟨hlo, hhi⟩ := secondRange_contains (b := b) (x := v % 64 + 128) (by omega) (by omega)
    (by omega) (by omega) (by omega)
  refine next_of_follow hf (follow_cons hlo hhi ?_)
  rw [follow, hl]
  exact congrArg Sum.inl (by omega)

theorem next_three {b : UInt8} {v : Nat} (hb : b.toNat = v / 4096 + 0xE0) (h₁ : 0x800 ≤ v)
    (h₂ : v < 0xD800 ∨ 0xDFFF < v ∧ v ≤ 0xFFFF) (rest : Bytes) :
    next b (UInt8.ofNat (v / 64 % 64 + 128) :: UInt8.ofNat (v % 64 + 128) :: rest) =
      .char (Char.ofNat v) 3 := by
  obtain ⟨hf, hl⟩ := followers_eq_two (b := b) (by omega) (by omega)
  -- the second byte keeps overlong forms and surrogates out
  obtain ⟨hlo, hhi⟩ := secondRange_contains (b := b) (x := v / 64 % 64 + 128) (by omega)
    (by omega) (by omega) (by omega) (by omega)
  refine next_of_follow hf (follow_cons hlo hhi (follow_cons ?_ ?_ ?_))
  · exact Nat.le_add_left 128 _
  · show v % 64 + 128 ≤ 191
    omega
  · rw [follow, hl]
    exact congrArg Sum.inl (by omega)

theorem next_four {b : UInt8} {v : Nat} (hb : b.toNat = v / 262144 + 0xF0) (h₁ : 0x10000 ≤ v)
    (h₂ : v < 0x110000) (rest : Bytes) :
    next b (UInt8.ofNat (v / 4096 % 64 + 128) :: UInt8.ofNat (v / 64 % 64 + 128) ::
      UInt8.ofNat (v % 64 + 128) :: rest) = .char (Char.ofNat v) 4 := by
  obtain ⟨hf, hl⟩ := followers_eq_three (b := b) (by omega) (by omega)
  obtain ⟨hlo, hhi⟩ := secondRange_contains (b := b) (x := v / 4096 % 64 + 128) (by omega)
    (by omega) (by omega) (by omega) (by omega)
  refine next_of_follow hf (follow_cons hlo hhi (follow_cons ?_ ?_ (follow_cons ?_ ?_ ?_)))
  · exact Nat.le_add_left 128 _
  · show v / 64 % 64 + 128 ≤ 191
    omega
  · exact Nat.le_add_left 128 _
  · show v % 64 + 128 ≤ 191
    omega
  · rw [follow, hl]
    exact congrArg Sum.inl (by omega)

/-- The bytes of a character are read as that character, whatever follows. -/
theorem next_utf8EncodeChar (c : Char) (rest : Bytes) :
    ∃ b bs, String.utf8EncodeChar c = b :: bs ∧ next b (bs ++ rest) = .char c (bs.length + 1) := by
  have hc : Char.ofNat c.val.toNat = c := Char.ofNat_toNat c
  have hv : c.val.toNat < 0xD800 ∨ 0xDFFF < c.val.toNat ∧ c.val.toNat < 0x110000 := c.valid
  generalize hvn : c.val.toNat = v at hc hv
  unfold String.utf8EncodeChar
  simp only [hvn]
  split_ifs with h₁ h₂ h₃ <;> refine ⟨_, _, rfl, ?_⟩ <;> rw [← hc]
  · have hb : (UInt8.ofNat v).toNat = v := toNat_ofNat_of_lt (by omega)
    rw [next_of_lt (UInt8.lt_iff_toNat_lt.2 (by rw [hb]; exact Nat.lt_succ_of_le h₁)), hb]
    rfl
  · exact next_two (by rw [toNat_ofNat_of_lt (by omega)]; omega) (by omega) h₂ rest
  · exact next_three (by rw [toNat_ofNat_of_lt (by omega)]; omega) (by omega) (by omega) rest
  · exact next_four (by rw [toNat_ofNat_of_lt (by omega)]; omega) (by omega) (by omega) rest

/-- A character is decoded, whatever follows. -/
theorem decode?_utf8EncodeChar_append (c : Char) (rest : Bytes) :
    decode? (String.utf8EncodeChar c ++ rest) = (decode? rest).map (c :: ·) := by
  obtain ⟨b, bs, he, hn⟩ := next_utf8EncodeChar c rest
  rw [he, List.cons_append, decode?_cons_of_char hn, Nat.add_sub_cancel, List.drop_left]

/-- **What was encoded is read back**, whatever follows. -/
theorem decode?_encode_append (s : String) (rest : Bytes) :
    decode? (encode s ++ rest) = (decode? rest).map (s.toList ++ ·) := by
  rw [encode_eq_flatMap]
  induction s.toList with
  | nil => simp
  | cons c cs ih =>
    rw [List.flatMap_cons, List.append_assoc, decode?_utf8EncodeChar_append, ih, Option.map_map]
    rfl

theorem decode?_encode (s : String) : decode? (encode s) = some s.toList := by
  simpa using decode?_encode_append s []

end ReleaseGate.Text.Utf8
