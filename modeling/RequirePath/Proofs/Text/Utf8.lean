import Mathlib.Tactic.SplitIfs
import RequirePath.Text.Utf8

/-! UTF-8 loses nothing: decoding takes the bytes of a text back to the text, and bytes that decode are the
bytes of what they decode to. Both follow from one sequence of bytes, the front of which is read as the
character that it is the encoding of, and as nothing else. -/

namespace RequirePath.Utf8

/-- A small number survives being stored in a byte. -/
theorem toNat_toUInt8 {n : Nat} (h : n < 256) : n.toUInt8.toNat = n := by
  rw [Nat.toUInt8, UInt8.toNat_ofNat', Nat.mod_eq_of_lt h]

theorem isContinuation_iff (b : UInt8) : isContinuation b = true ↔ 0x80 ≤ b.toNat ∧ b.toNat < 0xC0 := by
  simp [isContinuation, UInt8.le_iff_toNat_le, UInt8.lt_iff_toNat_lt]

/-- The second bytes that a first byte admits, in numbers. -/
theorem admitsSecond_iff (a b : UInt8) : admitsSecond a b = true ↔
    (0x80 ≤ b.toNat ∧ b.toNat < 0xC0) ∧ (a.toNat = 0xE0 → 0xA0 ≤ b.toNat) ∧ (a.toNat = 0xED → b.toNat < 0xA0) ∧
      (a.toNat = 0xF0 → 0x90 ≤ b.toNat) ∧ (a.toNat = 0xF4 → b.toNat < 0x90) := by
  simp only [admitsSecond, Bool.and_eq_true, isContinuation_iff, Bool.not_eq_true', Bool.and_eq_false_iff,
    beq_eq_false_iff_ne, decide_eq_false_iff_not, UInt8.le_iff_toNat_le, UInt8.lt_iff_toNat_lt, ne_eq,
    ← UInt8.toNat_inj, UInt8.reduceToNat]
  omega

theorem following?_eq (a : UInt8) : following? a =
    if a.toNat < 0x80 then some 0 else if a.toNat < 0xC2 then none else if a.toNat < 0xE0 then some 1
    else if a.toNat < 0xF0 then some 2 else if a.toNat < 0xF5 then some 3 else none := by
  simp only [following?, UInt8.lt_iff_toNat_lt, UInt8.reduceToNat]

theorem toNat_lt (c : Char) : c.toNat < 0x110000 := by
  have := c.valid
  simp only [UInt32.isValidChar, Nat.isValidChar] at this
  have h : c.toNat = c.val.toNat := rfl
  omega

theorem toNat_not_half (c : Char) : c.toNat < 0xD800 ∨ 0xE000 ≤ c.toNat := by
  have := c.valid
  simp only [UInt32.isValidChar, Nat.isValidChar] at this
  have h : c.toNat = c.val.toNat := rfl
  omega

theorem encode_append (cs cs' : List Char) : encode (cs ++ cs') = encode cs ++ encode cs' := List.flatMap_append

/-! ### Characters after their encoding -/

theorem sequence_one {n : Nat} (rest : List UInt8) (h : n < 0x80) :
    sequence n.toUInt8 rest = .inl (Char.ofNat n, 0) := by
  have ha : n.toUInt8.toNat = n := toNat_toUInt8 (by omega)
  have hf : following? n.toUInt8 = some 0 := by rw [following?_eq, ha, if_pos h]
  simp only [sequence, hf, ha]

theorem sequence_two {n : Nat} (rest : List UInt8) (h : 0x80 ≤ n) (h' : n < 0x800) :
    sequence (0xC0 + n / 64).toUInt8 ((0x80 + n % 64).toUInt8 :: rest) = .inl (Char.ofNat n, 1) := by
  have ha : (0xC0 + n / 64).toUInt8.toNat = 0xC0 + n / 64 := toNat_toUInt8 (by omega)
  have hb : (0x80 + n % 64).toUInt8.toNat = 0x80 + n % 64 := toNat_toUInt8 (by omega)
  have hf : following? (0xC0 + n / 64).toUInt8 = some 1 := by
    rw [following?_eq, ha, if_neg (by omega), if_neg (by omega), if_pos (by omega)]
  have hs : admitsSecond (0xC0 + n / 64).toUInt8 (0x80 + n % 64).toUInt8 = true := by
    rw [admitsSecond_iff, ha, hb]
    omega
  have hn : (0xC0 + n / 64) % 32 * 64 + (0x80 + n % 64) % 64 = n := by omega
  simp only [sequence, hf, hs, if_true, payload, ha, hb, hn]

theorem sequence_three {n : Nat} (rest : List UInt8) (h : 0x800 ≤ n) (h' : n < 0x10000)
    (hhalf : n < 0xD800 ∨ 0xE000 ≤ n) :
    sequence (0xE0 + n / 4096).toUInt8 ((0x80 + n / 64 % 64).toUInt8 :: (0x80 + n % 64).toUInt8 :: rest) =
      .inl (Char.ofNat n, 2) := by
  have ha : (0xE0 + n / 4096).toUInt8.toNat = 0xE0 + n / 4096 := toNat_toUInt8 (by omega)
  have hb : (0x80 + n / 64 % 64).toUInt8.toNat = 0x80 + n / 64 % 64 := toNat_toUInt8 (by omega)
  have hc : (0x80 + n % 64).toUInt8.toNat = 0x80 + n % 64 := toNat_toUInt8 (by omega)
  have hf : following? (0xE0 + n / 4096).toUInt8 = some 2 := by
    rw [following?_eq, ha, if_neg (by omega), if_neg (by omega), if_neg (by omega), if_pos (by omega)]
  have hs : admitsSecond (0xE0 + n / 4096).toUInt8 (0x80 + n / 64 % 64).toUInt8 = true := by
    rw [admitsSecond_iff, ha, hb]
    omega
  have ht : isContinuation (0x80 + n % 64).toUInt8 = true := by
    rw [isContinuation_iff, hc]
    omega
  have hn : (0xE0 + n / 4096) % 16 * 4096 + (0x80 + n / 64 % 64) % 64 * 64 + (0x80 + n % 64) % 64 = n := by omega
  simp only [sequence, hf, hs, ht, Bool.not_true, Bool.false_eq_true, if_false, payload, ha, hb, hc, hn]

theorem sequence_four {n : Nat} (rest : List UInt8) (h : 0x10000 ≤ n) (h' : n < 0x110000) :
    sequence (0xF0 + n / 262144).toUInt8 ((0x80 + n / 4096 % 64).toUInt8 :: (0x80 + n / 64 % 64).toUInt8 ::
      (0x80 + n % 64).toUInt8 :: rest) = .inl (Char.ofNat n, 3) := by
  have ha : (0xF0 + n / 262144).toUInt8.toNat = 0xF0 + n / 262144 := toNat_toUInt8 (by omega)
  have hb : (0x80 + n / 4096 % 64).toUInt8.toNat = 0x80 + n / 4096 % 64 := toNat_toUInt8 (by omega)
  have hc : (0x80 + n / 64 % 64).toUInt8.toNat = 0x80 + n / 64 % 64 := toNat_toUInt8 (by omega)
  have hd : (0x80 + n % 64).toUInt8.toNat = 0x80 + n % 64 := toNat_toUInt8 (by omega)
  have hf : following? (0xF0 + n / 262144).toUInt8 = some 3 := by
    rw [following?_eq, ha, if_neg (by omega), if_neg (by omega), if_neg (by omega), if_neg (by omega),
      if_pos (by omega)]
  have hs : admitsSecond (0xF0 + n / 262144).toUInt8 (0x80 + n / 4096 % 64).toUInt8 = true := by
    rw [admitsSecond_iff, ha, hb]
    omega
  have ht : isContinuation (0x80 + n / 64 % 64).toUInt8 = true := by
    rw [isContinuation_iff, hc]
    omega
  have hu : isContinuation (0x80 + n % 64).toUInt8 = true := by
    rw [isContinuation_iff, hd]
    omega
  have hn : (0xF0 + n / 262144) % 8 * 262144 + (0x80 + n / 4096 % 64) % 64 * 4096 + (0x80 + n / 64 % 64) % 64 * 64 +
      (0x80 + n % 64) % 64 = n := by omega
  simp only [sequence, hf, hs, ht, hu, Bool.not_true, Bool.false_eq_true, if_false, payload, ha, hb, hc, hd, hn]

/-- A character is read back from the front of any bytes that start with its own. -/
theorem sequence_encodeChar (c : Char) (rest : List UInt8) :
    ∃ b bs, encodeChar c = b :: bs ∧ sequence b (bs ++ rest) = .inl (c, bs.length) := by
  have hlt := toNat_lt c
  have hc := Char.ofNat_toNat c
  unfold encodeChar
  simp only
  split_ifs with h1 h2 h3
  · exact ⟨_, _, rfl, by rw [List.nil_append, sequence_one rest h1, hc]; rfl⟩
  · exact ⟨_, _, rfl, (sequence_two rest (by omega) h2).trans (by rw [hc]; rfl)⟩
  · exact ⟨_, _, rfl, (sequence_three rest (by omega) h3 (toNat_not_half c)).trans (by rw [hc]; rfl)⟩
  · exact ⟨_, _, rfl, (sequence_four rest (by omega) hlt).trans (by rw [hc]; rfl)⟩

/-! ### Encodings of what is read -/

theorem toNat_ofNat {n : Nat} (h : n < 0xD800 ∨ 0xE000 ≤ n ∧ n < 0x110000) : (Char.ofNat n).toNat = n := by
  have hv : n.isValidChar := by
    simp only [Nat.isValidChar]
    omega
  rw [Char.ofNat, dif_pos hv]
  rfl

theorem toUInt8_eq {n : Nat} {b : UInt8} (h : n = b.toNat) : n.toUInt8 = b := by
  rw [h, Nat.toUInt8, UInt8.ofNat_toNat]

theorem encodeChar_two {a b : UInt8} (h : 0xC2 ≤ a.toNat) (h' : a.toNat < 0xE0) (hs : admitsSecond a b = true) :
    encodeChar (Char.ofNat (a.toNat % 32 * 64 + payload b)) = [a, b] := by
  obtain ⟨hb, -⟩ := (admitsSecond_iff a b).1 hs
  have hn : (Char.ofNat (a.toNat % 32 * 64 + payload b)).toNat = a.toNat % 32 * 64 + b.toNat % 64 :=
    toNat_ofNat (by simp only [payload]; omega)
  have h₁ : 0xC0 + (a.toNat % 32 * 64 + b.toNat % 64) / 64 = a.toNat := by omega
  have h₂ : 0x80 + (a.toNat % 32 * 64 + b.toNat % 64) % 64 = b.toNat := by omega
  simp only [encodeChar, hn]
  rw [if_neg (by omega), if_pos (by omega), toUInt8_eq h₁, toUInt8_eq h₂]

theorem encodeChar_three {a b d : UInt8} (h : 0xE0 ≤ a.toNat) (h' : a.toNat < 0xF0) (hs : admitsSecond a b = true)
    (ht : isContinuation d = true) :
    encodeChar (Char.ofNat (a.toNat % 16 * 4096 + payload b * 64 + payload d)) = [a, b, d] := by
  obtain ⟨hb, hE0, hED, -⟩ := (admitsSecond_iff a b).1 hs
  have hd := (isContinuation_iff d).1 ht
  have hn : (Char.ofNat (a.toNat % 16 * 4096 + payload b * 64 + payload d)).toNat =
      a.toNat % 16 * 4096 + b.toNat % 64 * 64 + d.toNat % 64 :=
    toNat_ofNat (by simp only [payload]; omega)
  have h₁ : 0xE0 + (a.toNat % 16 * 4096 + b.toNat % 64 * 64 + d.toNat % 64) / 4096 = a.toNat := by omega
  have h₂ : 0x80 + (a.toNat % 16 * 4096 + b.toNat % 64 * 64 + d.toNat % 64) / 64 % 64 = b.toNat := by omega
  have h₃ : 0x80 + (a.toNat % 16 * 4096 + b.toNat % 64 * 64 + d.toNat % 64) % 64 = d.toNat := by omega
  simp only [encodeChar, hn]
  rw [if_neg (by omega), if_neg (by omega), if_pos (by omega), toUInt8_eq h₁, toUInt8_eq h₂, toUInt8_eq h₃]

theorem encodeChar_four {a b d e : UInt8} (h : 0xF0 ≤ a.toNat) (h' : a.toNat < 0xF5) (hs : admitsSecond a b = true)
    (ht : isContinuation d = true) (hu : isContinuation e = true) :
    encodeChar (Char.ofNat (a.toNat % 8 * 262144 + payload b * 4096 + payload d * 64 + payload e)) = [a, b, d, e] := by
  obtain ⟨hb, -, -, hF0, hF4⟩ := (admitsSecond_iff a b).1 hs
  have hd := (isContinuation_iff d).1 ht
  have he := (isContinuation_iff e).1 hu
  have hn : (Char.ofNat (a.toNat % 8 * 262144 + payload b * 4096 + payload d * 64 + payload e)).toNat =
      a.toNat % 8 * 262144 + b.toNat % 64 * 4096 + d.toNat % 64 * 64 + e.toNat % 64 :=
    toNat_ofNat (by simp only [payload]; omega)
  obtain ⟨m, hm⟩ : ∃ m, m = a.toNat % 8 * 262144 + b.toNat % 64 * 4096 + d.toNat % 64 * 64 + e.toNat % 64 := ⟨_, rfl⟩
  rw [← hm] at hn
  have h₁ : 0xF0 + m / 262144 = a.toNat := by omega
  have h₂ : 0x80 + m / 4096 % 64 = b.toNat := by omega
  have h₃ : 0x80 + m / 64 % 64 = d.toNat := by omega
  have h₄ : 0x80 + m % 64 = e.toNat := by omega
  simp only [encodeChar, hn]
  rw [if_neg (by omega), if_neg (by omega), if_neg (by omega), toUInt8_eq h₁, toUInt8_eq h₂, toUInt8_eq h₃,
    toUInt8_eq h₄]

/-- What is read at the front of bytes as a character is the encoding of that character. -/
theorem encodeChar_of_sequence {a : UInt8} {rest : List UInt8} {c : Char} {k : Nat}
    (h : sequence a rest = .inl (c, k)) : ∃ bs more, rest = bs ++ more ∧ bs.length = k ∧ encodeChar c = a :: bs := by
  unfold sequence at h
  rw [following?_eq] at h
  split_ifs at h with h1 h2 h3 h4 h5
  · simp only [Sum.inl.injEq, Prod.mk.injEq] at h
    obtain ⟨rfl, rfl⟩ := h
    refine ⟨[], rest, rfl, rfl, ?_⟩
    have hn : (Char.ofNat a.toNat).toNat = a.toNat := toNat_ofNat (by omega)
    simp only [encodeChar, hn, if_pos h1]
    rw [toUInt8_eq rfl]
  · rcases rest with _ | ⟨b, more⟩
    · simp at h
    · simp only at h
      split_ifs at h with hs
      simp only [Sum.inl.injEq, Prod.mk.injEq] at h
      obtain ⟨rfl, rfl⟩ := h
      exact ⟨[b], more, rfl, rfl, encodeChar_two (by omega) h3 hs⟩
  · rcases rest with _ | ⟨b, _ | ⟨d, more⟩⟩
    · simp at h
    · simp only at h
      split_ifs at h
    · simp only at h
      split_ifs at h with hs ht
      simp only [Bool.not_eq_true', Bool.not_eq_false] at hs ht
      simp only [Sum.inl.injEq, Prod.mk.injEq] at h
      obtain ⟨rfl, rfl⟩ := h
      exact ⟨[b, d], more, rfl, rfl, encodeChar_three (by omega) h4 hs ht⟩
  · rcases rest with _ | ⟨b, _ | ⟨d, _ | ⟨e, more⟩⟩⟩
    · simp at h
    · simp only at h
      split_ifs at h
    · simp only at h
      split_ifs at h
    · simp only at h
      split_ifs at h with hs ht hu
      simp only [Bool.not_eq_true', Bool.not_eq_false] at hs ht hu
      simp only [Sum.inl.injEq, Prod.mk.injEq] at h
      obtain ⟨rfl, rfl⟩ := h
      exact ⟨[b, d, e], more, rfl, rfl, encodeChar_four (by omega) h5 hs ht hu⟩

/-- The bytes of a sequence that has been read are passed over. -/
theorem decodeFrom_skip (bs rest : List UInt8) (position : Nat) :
    decodeFrom position bs.length (bs ++ rest) = decodeFrom (position + bs.length) 0 rest := by
  induction bs generalizing position with
  | nil => rfl
  | cons b bs ih =>
      simp only [List.cons_append, List.length_cons, decodeFrom]
      rw [ih, Nat.add_assoc, Nat.add_comm 1]

theorem decodeFrom_encode (cs : List Char) (position : Nat) : decodeFrom position 0 (encode cs) = .ok cs := by
  induction cs generalizing position with
  | nil => rfl
  | cons c cs ih =>
      obtain ⟨b, bs, hc, hs⟩ := sequence_encodeChar c (encode cs)
      have he : encode (c :: cs) = b :: (bs ++ encode cs) := by
        rw [encode, List.flatMap_cons, hc, List.cons_append, ← encode]
      rw [he]
      simp only [decodeFrom, hs]
      rw [decodeFrom_skip, ih]
      rfl

/-- The bytes of a text decode to the text. -/
theorem decode_encode (cs : List Char) : decode (encode cs) = .ok cs :=
  decodeFrom_encode cs 0

theorem encode_of_decodeFrom {bytes : List UInt8} {position : Nat} {cs : List Char}
    (h : decodeFrom position 0 bytes = .ok cs) : encode cs = bytes := by
  induction hn : bytes.length using Nat.strongRecOn generalizing bytes position cs with
  | _ n ih =>
      cases bytes with
      | nil =>
          simp only [decodeFrom, Except.ok.injEq] at h
          rw [← h]
          rfl
      | cons b rest =>
          simp only [decodeFrom] at h
          cases hs : sequence b rest with
          | inr fault => simp [hs] at h
          | inl found =>
              obtain ⟨c, k⟩ := found
              obtain ⟨bs, more, rfl, rfl, hc⟩ := encodeChar_of_sequence hs
              simp only [hs, decodeFrom_skip] at h
              cases hd : decodeFrom (position + 1 + bs.length) 0 more with
              | error fault => simp [hd, Except.map] at h
              | ok tail =>
                  simp only [hd, Except.map, Except.ok.injEq] at h
                  have hm : encode tail = more := ih more.length (by
                    rw [← hn, List.length_cons, List.length_append]
                    omega) hd rfl
                  rw [← h, encode, List.flatMap_cons, hc, ← encode, hm, List.cons_append]

/-- Bytes that decode are the bytes of the text that they decode to. -/
theorem encode_of_decode {bytes : List UInt8} {cs : List Char} (h : decode bytes = .ok cs) : encode cs = bytes :=
  encode_of_decodeFrom h

end RequirePath.Utf8
