import RequirePath.Proofs.Text.Utf8

/-! Bytes that are shown as a text though they need not be one. The characters that are there stay, and what starts no
character is passed over piece by piece, each shown as one replacement character. A piece is the longest start of a character
that stands there, or one byte; so one text shows the bytes, and it is what they are decoded to. -/

namespace RequirePath.Utf8

variable {b : UInt8} {c : Char} {rest bytes : List UInt8} {k : Nat} {reason : Reason}

/-- Bytes at whose front no character starts, cut after the longest start of a character that stands there, or after one byte
if there is none. -/
structure IllFormed (b : UInt8) (more rest : List UInt8) : Prop where
  none : ∀ c, ¬encodeChar c <+: b :: (more ++ rest)
  start : more = [] ∨ ∃ c, b :: more <+: encodeChar c
  longest : ∀ c front, front <+: more ++ rest → b :: front <+: encodeChar c → front.length ≤ more.length

/-- A text shows bytes: a character stands for its own bytes, and the replacement character for the longest start of a
character that never comes, or for a byte at which none starts. -/
inductive Shows : List UInt8 → List Char → Prop
  | done : Shows [] []
  | char (c : Char) {bytes : List UInt8} {cs : List Char} (h : Shows bytes cs) : Shows (encodeChar c ++ bytes) (c :: cs)
  | replaced {b : UInt8} {more bytes : List UInt8} {cs : List Char} (hill : IllFormed b more bytes) (h : Shows bytes cs) :
      Shows (b :: (more ++ bytes)) (replacement :: cs)

/-- The bytes of a character are read as that character. -/
theorem exists_sequence_of_prefix (h : encodeChar c <+: b :: rest) : ∃ k, sequence b rest = .inl (c, k) := by
  obtain ⟨more, hmore⟩ := h
  obtain ⟨b', bs, hc, hs⟩ := sequence_encodeChar c more
  rw [hc] at hmore
  obtain ⟨rfl, rfl⟩ := List.cons.inj hmore
  exact ⟨_, hs⟩

theorem exists_prefix_of_sequence (more rest : List UInt8) {found : Char × Nat}
    (h : sequence b (more ++ rest) = .inl found) (hk : more.length ≤ found.2) : ∃ c, b :: more <+: encodeChar c := by
  obtain ⟨bs, tail, happend, hlen, hc⟩ := encodeChar_of_sequence h
  refine ⟨found.1, ?_⟩
  rw [hc, List.prefix_cons_inj]
  have hmore : more <+: bs ++ tail := happend ▸ List.prefix_append more rest
  exact List.prefix_of_prefix_length_le hmore (List.prefix_append bs tail) (hlen ▸ hk)

theorem following?_cases (b : UInt8) :
    following? b = none ∨ following? b = some 0 ∨ following? b = some 1 ∨ following? b = some 2 ∨ following? b = some 3 := by
  rw [following?_eq]
  split_ifs <;> simp

/-! What has been admitted of a character makes one with the least continuation in the place of what is missing. -/

theorem exists_prefix_of_second {d : UInt8} (hf : following? b = some 2 ∨ following? b = some 3)
    (hd : admitsSecond b d = true) : ∃ c, [b, d] <+: encodeChar c := by
  have hleast : isContinuation 0x80 = true := rfl
  rcases hf with hf | hf
  · have hread : sequence b ([d] ++ [0x80]) =
        .inl (Char.ofNat (b.toNat % 16 * 4096 + payload d * 64 + payload 0x80), 2) := by
      simp only [sequence, hf, List.cons_append, List.nil_append, hd, hleast, Bool.not_true, Bool.false_eq_true, if_false]
    exact exists_prefix_of_sequence [d] [0x80] hread (Nat.le_succ 1)
  · have hread : sequence b ([d] ++ [0x80, 0x80]) =
        .inl (Char.ofNat (b.toNat % 8 * 262144 + payload d * 4096 + payload 0x80 * 64 + payload 0x80), 3) := by
      simp only [sequence, hf, List.cons_append, List.nil_append, hd, hleast, Bool.not_true, Bool.false_eq_true, if_false]
    exact exists_prefix_of_sequence [d] [0x80, 0x80] hread (Nat.le_add_right 1 2)

theorem exists_prefix_of_third {d e : UInt8} (hf : following? b = some 3) (hd : admitsSecond b d = true)
    (he : isContinuation e = true) : ∃ c, [b, d, e] <+: encodeChar c := by
  have hleast : isContinuation 0x80 = true := rfl
  have hread : sequence b ([d, e] ++ [0x80]) =
      .inl (Char.ofNat (b.toNat % 8 * 262144 + payload d * 4096 + payload e * 64 + payload 0x80), 3) := by
    simp only [sequence, hf, List.cons_append, List.nil_append, hd, he, hleast, Bool.not_true, Bool.false_eq_true, if_false]
  exact exists_prefix_of_sequence [d, e] [0x80] hread (Nat.le_succ 2)

/-- What is read as ill-formed is one byte, or the start of a character. -/
theorem exists_piece_of_sequence (h : sequence b rest = .inr (k, reason)) :
    ∃ more bytes, rest = more ++ bytes ∧ more.length = k ∧ (more = [] ∨ ∃ c, b :: more <+: encodeChar c) := by
  have hnone {r : Reason} (heq : (.inr (0, r) : (Char × Nat) ⊕ (Nat × Reason)) = .inr (k, reason)) :
      ∃ more bytes, rest = more ++ bytes ∧ more.length = k ∧ (more = [] ∨ ∃ c, b :: more <+: encodeChar c) := by
    cases heq
    exact ⟨[], rest, rfl, rfl, Or.inl rfl⟩
  rcases following?_cases b with hf | hf | hf | hf | hf
  all_goals simp only [sequence, hf] at h
  · exact hnone h
  · cases h
  · split at h
    · split_ifs at h
      exact hnone h
    · exact hnone h
  · split at h
    · next d e tail =>
        split_ifs at h with hd he
        · exact hnone h
        · cases h
          exact ⟨[d], e :: tail, rfl, rfl, Or.inr (exists_prefix_of_second (Or.inl hf) (by simpa using hd))⟩
    · next d =>
        split_ifs at h with hd
        · cases h
          exact ⟨[d], [], rfl, rfl, Or.inr (exists_prefix_of_second (Or.inl hf) hd)⟩
        · exact hnone h
    · exact hnone h
  · split at h
    · next d e f tail =>
        split_ifs at h with hd he hf'
        · exact hnone h
        · cases h
          exact ⟨[d], e :: f :: tail, rfl, rfl, Or.inr (exists_prefix_of_second (Or.inr hf) (by simpa using hd))⟩
        · cases h
          exact ⟨[d, e], f :: tail, rfl, rfl,
            Or.inr (exists_prefix_of_third hf (by simpa using hd) (by simpa using he))⟩
    · next d e =>
        split_ifs at h with hd he
        · exact hnone h
        · cases h
          exact ⟨[d], [e], rfl, rfl, Or.inr (exists_prefix_of_second (Or.inr hf) (by simpa using hd))⟩
        · cases h
          exact ⟨[d, e], [], rfl, rfl, Or.inr (exists_prefix_of_third hf (by simpa using hd) (by simpa using he))⟩
    · next d =>
        split_ifs at h with hd
        · cases h
          exact ⟨[d], [], rfl, rfl, Or.inr (exists_prefix_of_second (Or.inr hf) hd)⟩
        · exact hnone h
    · exact hnone h

/-- A byte that makes a sequence ill-formed does so whatever comes after it. -/
theorem sequence_append_of_error {front rest : List UInt8} (h : sequence b (front ++ rest) = .inr (k, reason))
    (hk : k < front.length) (rest' : List UInt8) : sequence b (front ++ rest') = .inr (k, reason) := by
  rcases following?_cases b with hf | hf | hf | hf | hf
  all_goals simp only [sequence, hf] at h ⊢
  · exact h
  · cases h
  · cases front with
    | nil => exact absurd hk (Nat.not_lt_zero k)
    | cons d front => exact h
  · rcases front with _ | ⟨d, _ | ⟨e, front⟩⟩
    · exact absurd hk (Nat.not_lt_zero k)
    · rcases rest with _ | ⟨e, rest⟩ <;> rcases rest' with _ | ⟨e', rest'⟩ <;> grind
    · exact h
  · rcases front with _ | ⟨d, _ | ⟨e, _ | ⟨f, front⟩⟩⟩
    · exact absurd hk (Nat.not_lt_zero k)
    · have hd : admitsSecond b d = false := by
        rcases rest with _ | ⟨e, _ | ⟨f, rest⟩⟩ <;> grind
      rcases rest' with _ | ⟨e, _ | ⟨f, rest'⟩⟩ <;> grind
    · rcases rest with _ | ⟨f, rest⟩ <;> rcases rest' with _ | ⟨f', rest'⟩ <;> grind
    · exact h

/-- So no start of a character is longer than the ill-formed sequence. -/
theorem length_le_of_sequence {front rest : List UInt8} (h : sequence b (front ++ rest) = .inr (k, reason))
    (hc : b :: front <+: encodeChar c) : front.length ≤ k := by
  refine Nat.le_of_not_lt fun hk => ?_
  obtain ⟨tail, htail⟩ := hc
  obtain ⟨b', bs, hbs, hread⟩ := sequence_encodeChar c []
  rw [hbs] at htail
  obtain ⟨rfl, rfl⟩ := List.cons.inj htail
  rw [List.append_nil] at hread
  cases (sequence_append_of_error h hk tail).symm.trans hread

/-- An ill-formed sequence is cut off its bytes. -/
theorem exists_illFormed_of_sequence (h : sequence b rest = .inr (k, reason)) :
    ∃ more bytes, rest = more ++ bytes ∧ more.length = k ∧ IllFormed b more bytes := by
  obtain ⟨more, bytes, rfl, rfl, hstart⟩ := exists_piece_of_sequence h
  refine ⟨more, bytes, rfl, rfl, fun c hc => ?_, hstart, fun c front hfront hc => ?_⟩
  · obtain ⟨k, hk⟩ := exists_sequence_of_prefix hc
    cases h.symm.trans hk
  · obtain ⟨tail, htail⟩ := hfront
    rw [← htail] at h
    exact length_le_of_sequence h hc

/-! ### The text that shows bytes -/

theorem decodeLossyFrom_skip (bs rest : List UInt8) : decodeLossyFrom bs.length (bs ++ rest) = decodeLossyFrom 0 rest := by
  induction bs with
  | nil => rfl
  | cons b bs ih => exact ih

/-- What any bytes are decoded to shows them. -/
theorem shows_decodeLossy (bytes : List UInt8) : Shows bytes (decodeLossy bytes) := by
  induction hn : bytes.length using Nat.strongRecOn generalizing bytes with
  | _ n ih =>
      cases bytes with
      | nil => exact .done
      | cons b rest =>
          rw [decodeLossy, decodeLossyFrom]
          cases hs : sequence b rest with
          | inl found =>
              obtain ⟨c, k⟩ := found
              obtain ⟨bs, tail, rfl, rfl, hc⟩ := encodeChar_of_sequence hs
              have htail := ih tail.length (by rw [← hn, List.length_cons, List.length_append]; omega) tail rfl
              dsimp only
              rw [decodeLossyFrom_skip, ← List.cons_append, ← hc]
              exact .char c htail
          | inr fault =>
              obtain ⟨k, reason⟩ := fault
              obtain ⟨more, tail, rfl, rfl, hill⟩ := exists_illFormed_of_sequence hs
              have htail := ih tail.length (by rw [← hn, List.length_cons, List.length_append]; omega) tail rfl
              dsimp only
              rw [decodeLossyFrom_skip]
              exact .replaced hill htail

/-- No character starts another way than another does. -/
theorem eq_of_encodeChar_append {c' : Char} {rest' : List UInt8} (h : encodeChar c ++ rest = encodeChar c' ++ rest') :
    c = c' ∧ rest = rest' := by
  obtain ⟨b, bs, hc, hs⟩ := sequence_encodeChar c rest
  obtain ⟨b', bs', hc', hs'⟩ := sequence_encodeChar c' rest'
  have hsame : b :: (bs ++ rest) = b' :: (bs' ++ rest') := by
    rw [hc, hc'] at h
    exact h
  obtain ⟨rfl, htail⟩ := List.cons.inj hsame
  rw [htail, hs'] at hs
  obtain ⟨rfl, -⟩ := Prod.mk.inj (Sum.inl.inj hs)
  exact ⟨rfl, List.append_cancel_left h⟩

/-- An ill-formed sequence is cut off in one way. -/
theorem IllFormed.unique {more more' rest' : List UInt8} (h : IllFormed b more rest) (h' : IllFormed b more' rest')
    (heq : more ++ rest = more' ++ rest') : more = more' ∧ rest = rest' := by
  have hle {front front' tail tail' : List UInt8} (h : IllFormed b front tail) (h' : IllFormed b front' tail')
      (heq : front ++ tail = front' ++ tail') : front.length ≤ front'.length := by
    rcases h.start with rfl | ⟨c, hc⟩
    · exact Nat.zero_le _
    · exact h'.longest c front (heq ▸ List.prefix_append front tail) hc
  exact List.append_inj heq (Nat.le_antisymm (hle h h' heq) (hle h' h heq.symm))

/-- Bytes are shown by one text. -/
theorem Shows.unique {cs cs' : List Char} (h : Shows bytes cs) (h' : Shows bytes cs') : cs = cs' := by
  induction h generalizing cs' with
  | done =>
      generalize hb : ([] : List UInt8) = bytes at h'
      cases h' with
      | done => rfl
      | char c _ =>
          obtain ⟨b, bs, hc, -⟩ := sequence_encodeChar c []
          rw [hc] at hb
          cases hb
      | replaced _ _ => cases hb
  | @char c bytes cs h ih =>
      generalize hb : encodeChar c ++ bytes = all at h'
      cases h' with
      | done =>
          obtain ⟨b, bs, hc, -⟩ := sequence_encodeChar c []
          rw [hc] at hb
          cases hb
      | char c' h' =>
          obtain ⟨rfl, rfl⟩ := eq_of_encodeChar_append hb
          rw [ih h']
      | replaced hill _ => exact absurd (hb ▸ List.prefix_append _ _) (hill.none c)
  | @replaced b more bytes cs hill h ih =>
      generalize hb : b :: (more ++ bytes) = all at h'
      cases h' with
      | done => cases hb
      | char c' _ => exact absurd (hb ▸ List.prefix_append _ _) (hill.none c')
      | replaced hill' h' =>
          obtain ⟨rfl, htail⟩ := List.cons.inj hb
          obtain ⟨rfl, rfl⟩ := hill.unique hill' htail
          rw [ih h']

/-- The text that bytes are decoded to is the one that shows them. -/
theorem shows_iff {cs : List Char} : Shows bytes cs ↔ decodeLossy bytes = cs := by
  constructor
  · exact (shows_decodeLossy bytes).unique
  · rintro rfl
    exact shows_decodeLossy bytes

/-- A text is shown as itself. -/
theorem decodeLossy_encode (cs : List Char) : decodeLossy (encode cs) = cs := by
  refine shows_iff.1 ?_
  induction cs with
  | nil => exact .done
  | cons c cs ih => exact .char c ih

end RequirePath.Utf8
