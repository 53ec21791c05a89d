import RequirePath.Proofs.Json.Grammar
import RequirePath.Proofs.Json.RoundTrip

/-! What the reader takes is spelled by the characters that it takes, within the bounds of the reader. Numbers and
strings come first, then values by induction on the steps of the reader. -/

namespace RequirePath.Json

variable {cs rest : List Char} {v : Value}

/-! ### Numbers -/

theorem takeDigits_append_drop (cs : List Char) : takeDigits cs ++ cs.drop (takeDigits cs).length = cs :=
  List.prefix_iff_eq_append.1 (List.takeWhile_prefix _)

theorem isDigits_takeDigits (h : (takeDigits cs).isEmpty = false) : IsDigits (takeDigits cs) :=
  ⟨by simpa using h, List.all_eq_true.1 List.all_takeWhile⟩

theorem isWhole_wholeDigits (h : (wholeDigits cs).isEmpty = false) : IsWhole (wholeDigits cs) := by
  unfold wholeDigits at h ⊢
  split at h
  · exact Or.inl rfl
  · next hzero =>
      refine Or.inr ⟨isDigits_takeDigits h, ?_⟩
      cases cs with
      | nil => simp [takeDigits]
      | cons c more =>
          intro hc
          have hne : c ≠ '0' := by
            rintro rfl
            exact hzero more rfl
          rw [takeDigits, List.takeWhile_cons] at hc
          split_ifs at hc
          · exact hne (Option.some.inj hc)
          · cases hc

theorem wholeDigits_append_drop (cs : List Char) : wholeDigits cs ++ cs.drop (wholeDigits cs).length = cs := by
  unfold wholeDigits
  split
  · rfl
  · exact takeDigits_append_drop cs

/-- What is taken for a fraction is one; the characters after it are left. -/
theorem exists_isFraction (cs : List Char) :
    ∃ frac ds after, (fraction cs).getD ([], cs) = (ds, after) ∧ cs = frac ++ after ∧ IsFraction ds frac := by
  have habsent : fraction cs = none → ∃ frac ds after, (fraction cs).getD ([], cs) = (ds, after) ∧
      cs = frac ++ after ∧ IsFraction ds frac := by
    intro h
    exact ⟨[], [], cs, by rw [h]; rfl, rfl, .absent⟩
  unfold fraction at habsent ⊢
  split
  · next rest =>
      by_cases hds : (takeDigits rest).isEmpty = true
      -- a point without digits is no part of the number
      · simpa [hds] using habsent
      · refine ⟨'.' :: takeDigits rest, takeDigits rest, rest.drop (takeDigits rest).length, ?_, ?_, ?_⟩
        · rw [if_neg hds]
          rfl
        · rw [List.cons_append, takeDigits_append_drop]
        · exact .point (isDigits_takeDigits (by simpa using hds))
  · exact ⟨[], [], cs, rfl, rfl, .absent⟩

/-- An exponent with its sign, read from the characters after the sign. -/
def signedExponent (sign : Int) (body : List Char) : Option (Int × List Char) :=
  if (takeDigits body).isEmpty then none
  else some (sign * Text.digitsValue (takeDigits body), body.drop (takeDigits body).length)

theorem exponent_plus {e : Char} (he : e = 'e' ∨ e = 'E') (more : List Char) :
    exponent (e :: '+' :: more) = signedExponent 1 more :=
  if_pos he

theorem exponent_minus {e : Char} (he : e = 'e' ∨ e = 'E') (more : List Char) :
    exponent (e :: '-' :: more) = signedExponent (-1) more :=
  if_pos he

theorem exponent_bare {e : Char} (he : e = 'e' ∨ e = 'E') (hplus : cs.head? ≠ some '+') (hminus : cs.head? ≠ some '-') :
    exponent (e :: cs) = signedExponent 1 cs := by
  simp only [exponent, if_pos he, signedExponent]
  split
  · exact absurd rfl hplus
  · exact absurd rfl hminus
  · rfl

/-- What is taken for an exponent is one; the characters after it are left. -/
theorem exists_isExponent (cs : List Char) :
    ∃ exp n after, (exponent cs).getD (0, cs) = (n, after) ∧ cs = exp ++ after ∧ IsExponent n exp := by
  have habsent : exponent cs = none → ∃ exp n after, (exponent cs).getD (0, cs) = (n, after) ∧
      cs = exp ++ after ∧ IsExponent n exp := by
    intro h
    exact ⟨[], 0, cs, by rw [h]; rfl, rfl, .absent⟩
  have htaken : ∀ sign body pre, exponent cs = signedExponent sign body → cs = pre ++ body →
      (∀ ds, IsDigits ds → IsExponent (sign * Text.digitsValue ds) (pre ++ ds)) →
      ∃ exp n after, (exponent cs).getD (0, cs) = (n, after) ∧ cs = exp ++ after ∧ IsExponent n exp := by
    intro sign body pre heq hcs hspelled
    by_cases hds : (takeDigits body).isEmpty = true
    · exact habsent (heq.trans (if_pos hds))
    · rw [heq, signedExponent, if_neg hds]
      refine ⟨pre ++ takeDigits body, _, _, rfl, ?_, hspelled _ (isDigits_takeDigits (by simpa using hds))⟩
      rw [List.append_assoc, takeDigits_append_drop, hcs]
  cases cs with
  | nil => exact habsent rfl
  | cons e rest =>
      by_cases he : e = 'e' ∨ e = 'E'
      · by_cases hplus : rest.head? = some '+'
        · obtain ⟨more, rfl⟩ : ∃ more, rest = '+' :: more := List.head?_eq_some_iff.1 hplus
          refine htaken 1 more [e, '+'] (exponent_plus he more) rfl fun ds hds => ?_
          rw [Int.one_mul]
          exact .plus he hds
        · by_cases hminus : rest.head? = some '-'
          · obtain ⟨more, rfl⟩ : ∃ more, rest = '-' :: more := List.head?_eq_some_iff.1 hminus
            refine htaken (-1) more [e, '-'] (exponent_minus he more) rfl fun ds hds => ?_
            rw [Int.neg_one_mul]
            exact .minus he hds
          · refine htaken 1 rest [e] (exponent_bare he hplus hminus) rfl fun ds hds => ?_
            rw [Int.one_mul]
            exact .bare he hds
      · exact habsent (if_neg he)

/-- A number that is read is spelled by the characters before the rest, and its whole digits are within the bound. -/
theorem number_sound {negative : Bool} {start : List Char} (h : number negative start cs = .ok (v, rest)) :
    ∃ spelled, cs = spelled ++ rest ∧ IsNumeral digitLimit negative v spelled := by
  unfold number at h
  obtain ⟨frac, ds, afterFrac, hfrac, hafter, hisFrac⟩ := exists_isFraction (cs.drop (wholeDigits cs).length)
  obtain ⟨exp, n, after, hexp, hafterExp, hisExp⟩ := exists_isExponent afterFrac
  simp only [hfrac, hexp] at h
  have hcs : cs = wholeDigits cs ++ (frac ++ (exp ++ after)) := by
    rw [← hafterExp, ← hafter, wholeDigits_append_drop]
  -- the reader tells a float by the characters that its fraction and its exponent took
  have hlength : (after.length < (cs.drop (wholeDigits cs).length).length) ↔ frac ++ exp ≠ [] := by
    rw [hafter, hafterExp, ← List.append_assoc, List.length_append, ← List.length_pos_iff]
    exact Nat.lt_add_left_iff_pos
  by_cases hempty : (wholeDigits cs).isEmpty = true
  · rw [if_pos hempty] at h
    cases h
  rw [if_neg hempty] at h
  have hwhole : IsWhole (wholeDigits cs) := isWhole_wholeDigits (by simpa using hempty)
  by_cases hmore : after.length < (cs.drop (wholeDigits cs).length).length
  · rw [if_pos hmore] at h
    obtain ⟨rfl, rfl⟩ := Prod.mk.inj (Except.ok.inj h)
    refine ⟨_, ?_, .float hwhole hisFrac hisExp (hlength.1 hmore)⟩
    rw [List.append_assoc, List.append_assoc, ← hcs]
  rw [if_neg hmore] at h
  have hnone : frac ++ exp = [] := by simpa using mt hlength.2 hmore
  rw [← List.append_assoc frac, hnone, List.nil_append] at hcs
  by_cases hdigits : digitLimit < (wholeDigits cs).length
  · rw [if_pos hdigits] at h
    cases h
  · rw [if_neg hdigits] at h
    obtain ⟨rfl, rfl⟩ := Prod.mk.inj (Except.ok.inj h)
    exact ⟨wholeDigits cs, hcs, .int hwhole (Nat.le_of_not_lt hdigits)⟩

/-! ### Strings -/

theorem map_eq_ok {ε α β : Type} {f : α → β} {r : Except ε α} {b : β} (h : r.map f = .ok b) :
    ∃ a, r = .ok a ∧ f a = b := by
  cases r with
  | error e => cases h
  | ok a => exact ⟨a, rfl, Except.ok.inj h⟩

/-- What is taken for an escape is one, before the characters that follow it. -/
theorem escapeAt_sound {start : List Char} {d : Char} {k : Nat} (h : escapeAt start cs = .ok (d, k)) :
    ∃ xs following, cs = xs ++ following ∧ xs.length = k ∧ IsEscape d xs following := by
  unfold escapeAt at h
  split at h
  · cases h
  · next a b c d' e rest =>
      cases hquad : hexQuad? a b c d' with
      | none =>
          rw [hquad] at h
          cases h
      | some high =>
          simp only [hquad] at h
          split at h
          · next a' b' c' d'' f more hhigh =>
              cases hnext : hexQuad? a' b' c' d'' with
              | none =>
                  rw [hnext] at h
                  cases h
              | some low =>
                  simp only [hnext, Except.ok.injEq] at h
                  by_cases hlow : isLowHalf low = true
                  · rw [if_pos hlow] at h
                    obtain ⟨rfl, rfl⟩ := Prod.mk.inj h
                    exact ⟨_, f :: more, rfl, rfl, .pair hquad hhigh hnext hlow⟩
                  · rw [if_neg hlow] at h
                    obtain ⟨rfl, rfl⟩ := Prod.mk.inj h
                    refine ⟨['u', a, b, c, d'], _, rfl, rfl, .unit hquad ?_⟩
                    rintro - ⟨a₁, b₁, c₁, d₁, e₁, n, more', heq, hn, hlow'⟩
                    cases heq
                    rw [hnext, Option.some.injEq] at hn
                    rw [hn] at hlow
                    exact hlow hlow'
          · next halone =>
              obtain ⟨rfl, rfl⟩ := Prod.mk.inj (Except.ok.inj h)
              refine ⟨['u', a, b, c, d'], _, rfl, rfl, .unit hquad ?_⟩
              rintro hhigh ⟨a₁, b₁, c₁, d₁, e₁, n, more', heq, -, -⟩
              obtain ⟨rfl, rfl⟩ := List.cons.inj heq
              exact halone a₁ b₁ c₁ d₁ e₁ more' hhigh rfl rfl
  · cases h
  · next c rest _ _ =>
      cases hc : simpleEscape? c with
      | none =>
          rw [hc] at h
          cases h
      | some d' =>
          rw [hc] at h
          obtain ⟨rfl, rfl⟩ := Prod.mk.inj (Except.ok.inj h)
          exact ⟨[c], rest, rfl, rfl, .letter hc⟩

theorem IsEscape.of_prefix {d : Char} {xs following : List Char} (h : IsEscape d xs (following ++ rest)) :
    IsEscape d xs following := by
  cases h with
  | letter hc => exact .letter hc
  | unit hn halone => exact .unit hn fun hhigh hlow => halone hhigh (hlow.append rest)
  | pair hh hhigh hl hlow => exact .pair hh hhigh hl hlow

/-- A string that is read is spelled by the characters before the rest. -/
theorem stringRest_sound (start : List Char) {chars : List Char} (h : stringRest start 0 cs = .ok (chars, rest)) :
    ∃ spelled, cs = spelled ++ rest ∧ IsQuoted chars spelled := by
  -- on the length, as an escape takes more than one character
  induction hn : cs.length using Nat.strongRecOn generalizing cs chars with
  | ind n ih =>
      cases cs with
      | nil => cases h
      | cons c more =>
          rw [stringRest_zero] at h
          by_cases hquote : c = '\x22'
          · rw [if_pos hquote] at h
            obtain ⟨rfl, rfl⟩ := Prod.mk.inj (Except.ok.inj h)
            exact ⟨['\x22'], by rw [hquote]; rfl, .close⟩
          rw [if_neg hquote] at h
          by_cases hslash : c = '\\'
          · rw [if_pos hslash] at h
            cases he : escapeAt start more with
            | error e =>
                rw [he] at h
                cases h
            | ok p =>
                rw [he] at h
                obtain ⟨⟨chars', rest'⟩, hread, heq⟩ := map_eq_ok h
                obtain ⟨rfl, rfl⟩ := Prod.mk.inj heq
                obtain ⟨xs, following, rfl, hlength, hescape⟩ := escapeAt_sound he
                rw [← hlength, stringRest_skip] at hread
                have hshorter : following.length < n := by
                  rw [← hn, List.length_cons, List.length_append]
                  omega
                obtain ⟨spelled, rfl, hspelled⟩ := ih following.length hshorter hread rfl
                refine ⟨'\\' :: (xs ++ spelled), ?_, .escape hescape.of_prefix hspelled⟩
                rw [hslash, List.cons_append, List.append_assoc]
          rw [if_neg hslash] at h
          by_cases hcontrol : c.toNat < 0x20
          · rw [if_pos hcontrol] at h
            cases h
          · rw [if_neg hcontrol] at h
            obtain ⟨⟨chars', rest'⟩, hread, heq⟩ := map_eq_ok h
            obtain ⟨rfl, rfl⟩ := Prod.mk.inj heq
            obtain ⟨spelled, rfl, hspelled⟩ := ih more.length (hn ▸ Nat.lt_succ_self _) hread rfl
            exact ⟨c :: spelled, rfl, .plain hquote hslash (Nat.le_of_not_lt hcontrol) hspelled⟩

/-! ### Values -/

theorem exists_blank (cs : List Char) : ∃ b, Blank b ∧ cs = b ++ skipBlanks cs := by
  refine ⟨cs.takeWhile isBlank, List.all_eq_true.1 List.all_takeWhile, ?_⟩
  exact List.takeWhile_append_dropWhile.symm

theorem scalar_sound (depth : Nat) (h : scalar cs = .ok (v, rest)) :
    ∃ spelled, cs = spelled ++ rest ∧ Spells digitLimit depth (.value v) spelled := by
  rcases scalar_cases cs with ⟨v', name, rest', hname, rfl, hread⟩ | ⟨more, rfl, hread⟩ | ⟨-, hread⟩
  · obtain ⟨rfl, rfl⟩ := Prod.mk.inj (Except.ok.inj (hread.symm.trans h))
    exact ⟨name, rfl, .constant hname⟩
  · obtain ⟨spelled, rfl, hspelled⟩ := number_sound (hread.symm.trans h)
    exact ⟨'-' :: spelled, rfl, .negative hspelled⟩
  · obtain ⟨spelled, rfl, hspelled⟩ := number_sound (hread.symm.trans h)
    exact ⟨spelled, rfl, .positive hspelled⟩

/-- What is read within a number of steps is spelled: a value, and the insides of arrays and objects after any
blanks. -/
structure Sound (steps : Nat) : Prop where
  value : ∀ {depth cs v rest}, value steps depth cs = .ok (v, rest) →
    ∃ spelled, cs = spelled ++ rest ∧ Spells digitLimit depth (.value v) spelled
  items : ∀ {depth cs vs rest}, items steps depth cs = .ok (vs, rest) → ∀ b, Blank b →
    ∃ spelled, b ++ cs = spelled ++ rest ∧ Spells digitLimit (depth + 1) (.items vs) spelled
  fields : ∀ {depth cs fs rest}, fields steps depth cs = .ok (fs, rest) → ∀ b, Blank b →
    ∃ spelled, b ++ cs = spelled ++ rest ∧ Spells digitLimit (depth + 1) (.fields fs) spelled

theorem Sound.value_succ {steps depth : Nat} (hs : Sound steps) (h : Json.value (steps + 1) depth cs = .ok (v, rest)) :
    ∃ spelled, cs = spelled ++ rest ∧ Spells digitLimit depth (.value v) spelled := by
  rw [Json.value.eq_def] at h
  dsimp only at h
  split at h
  · next more =>
      obtain ⟨⟨chars, rest'⟩, hread, heq⟩ := map_eq_ok h
      obtain ⟨rfl, rfl⟩ := Prod.mk.inj heq
      obtain ⟨spelled, rfl, hspelled⟩ := stringRest_sound _ hread
      exact ⟨'\x22' :: spelled, rfl, .text hspelled⟩
  · next more =>
      obtain ⟨b, hb, hmore⟩ := exists_blank more
      cases depth with
      | zero => cases h
      | succ inner =>
          dsimp only at h
          split at h
          · next after hskip =>
              obtain ⟨rfl, rfl⟩ := Prod.mk.inj (Except.ok.inj h)
              refine ⟨'[' :: (b ++ [']']), ?_, .emptyArray hb⟩
              rw [hmore, hskip, List.cons_append, List.append_assoc]
              rfl
          · obtain ⟨⟨vs, rest'⟩, hread, heq⟩ := map_eq_ok h
            obtain ⟨rfl, rfl⟩ := Prod.mk.inj heq
            obtain ⟨spelled, hcs, hspelled⟩ := hs.items hread b hb
            exact ⟨'[' :: spelled, by rw [hmore, hcs, List.cons_append], .array hspelled⟩
  · next more =>
      obtain ⟨b, hb, hmore⟩ := exists_blank more
      cases depth with
      | zero => cases h
      | succ inner =>
          dsimp only at h
          split at h
          · next after hskip =>
              obtain ⟨rfl, rfl⟩ := Prod.mk.inj (Except.ok.inj h)
              refine ⟨'\x7b' :: (b ++ ['\x7d']), ?_, .emptyObject hb⟩
              rw [hmore, hskip, List.cons_append, List.append_assoc]
              rfl
          · obtain ⟨⟨fs, rest'⟩, hread, heq⟩ := map_eq_ok h
            obtain ⟨rfl, rfl⟩ := Prod.mk.inj heq
            obtain ⟨spelled, hcs, hspelled⟩ := hs.fields hread b hb
            exact ⟨'\x7b' :: spelled, by rw [hmore, hcs, List.cons_append], .object hspelled⟩
  · exact scalar_sound depth h

theorem Sound.items_succ {steps depth : Nat} {vs : List Value} (hs : Sound steps)
    (h : Json.items (steps + 1) depth cs = .ok (vs, rest)) (b : List Char) (hb : Blank b) :
    ∃ spelled, b ++ cs = spelled ++ rest ∧ Spells digitLimit (depth + 1) (.items vs) spelled := by
  rw [Json.items] at h
  cases hv : Json.value steps depth cs with
  | error e =>
      rw [hv] at h
      cases h
  | ok p =>
      obtain ⟨v, afterValue⟩ := p
      simp only [hv] at h
      obtain ⟨spelled, rfl, hspelled⟩ := hs.value hv
      obtain ⟨b', hb', hafter⟩ := exists_blank afterValue
      split at h
      · next after hskip =>
          obtain ⟨rfl, rfl⟩ := Prod.mk.inj (Except.ok.inj h)
          refine ⟨_, ?_, .lastItem hb hspelled hb'⟩
          rw [hafter, hskip]
          simp
      · next next hskip =>
          obtain ⟨⟨vs', rest'⟩, hread, heq⟩ := map_eq_ok h
          obtain ⟨rfl, rfl⟩ := Prod.mk.inj heq
          obtain ⟨b₂, hb₂, hnext⟩ := exists_blank next
          obtain ⟨more, hcs, hmore⟩ := hs.items hread b₂ hb₂
          refine ⟨_, ?_, .item hb hspelled hb' hmore⟩
          rw [hafter, hskip, hnext, hcs]
          simp
      · cases h

theorem Sound.fields_succ {steps depth : Nat} {fs : List (String × Value)} (hs : Sound steps)
    (h : Json.fields (steps + 1) depth cs = .ok (fs, rest)) (b : List Char) (hb : Blank b) :
    ∃ spelled, b ++ cs = spelled ++ rest ∧ Spells digitLimit (depth + 1) (.fields fs) spelled := by
  rw [Json.fields.eq_def] at h
  dsimp only at h
  split at h
  · next more =>
      cases hname : stringRest ('\x22' :: more) 0 more with
      | error e =>
          rw [hname] at h
          cases h
      | ok p =>
          obtain ⟨name, afterName⟩ := p
          simp only [hname] at h
          obtain ⟨quoted, rfl, hquoted⟩ := stringRest_sound _ hname
          obtain ⟨b₁, hb₁, hafterName⟩ := exists_blank afterName
          split at h
          · next beforeValue hcolon =>
              obtain ⟨b₂, hb₂, hbefore⟩ := exists_blank beforeValue
              cases hv : Json.value steps depth (skipBlanks beforeValue) with
              | error e =>
                  rw [hv] at h
                  cases h
              | ok p =>
                  obtain ⟨v, afterValue⟩ := p
                  simp only [hv] at h
                  obtain ⟨spelled, hvalue, hspelled⟩ := hs.value hv
                  obtain ⟨b', hb', hafter⟩ := exists_blank afterValue
                  rw [hafterName, hcolon, hbefore, hvalue, hafter]
                  split at h
                  · next after hskip =>
                      obtain ⟨rfl, rfl⟩ := Prod.mk.inj (Except.ok.inj h)
                      refine ⟨_, ?_, .lastField hb hquoted hb₁ hb₂ hspelled hb'⟩
                      rw [hskip]
                      simp
                  · next next hskip =>
                      obtain ⟨⟨fs', rest'⟩, hread, heq⟩ := map_eq_ok h
                      obtain ⟨rfl, rfl⟩ := Prod.mk.inj heq
                      obtain ⟨b₃, hb₃, hnext⟩ := exists_blank next
                      obtain ⟨more, hcs, hmore⟩ := hs.fields hread b₃ hb₃
                      refine ⟨_, ?_, .field hb hquoted hb₁ hb₂ hspelled hb' hmore⟩
                      rw [hskip, hnext, hcs]
                      simp
                  · cases h
          · cases h
  · cases h

theorem sound (steps : Nat) : Sound steps := by
  induction steps with
  | zero =>
      refine ⟨fun h => ?_, fun h => ?_, fun h => ?_⟩
      · cases h
      · cases h
      · cases h
  | succ steps ih => exact ⟨ih.value_succ, ih.items_succ, ih.fields_succ⟩

/-- What is read as a document is one, within the bounds of the reader. -/
theorem document_sound (h : document cs = .ok v) : IsDocument digitLimit depthLimit v cs := by
  unfold document at h
  split at h
  · cases h
  · cases hv : value (2 * cs.length + 2) depthLimit (skipBlanks cs) with
    | error e =>
        rw [hv] at h
        cases h
    | ok p =>
        obtain ⟨v', rest⟩ := p
        simp only [hv] at h
        obtain ⟨b, hb, hcs⟩ := exists_blank cs
        obtain ⟨spelled, hspelled, hvalue⟩ := (sound _).value hv
        obtain ⟨b', hb', hrest⟩ := exists_blank rest
        split at h
        · next hnil =>
            cases h
            rw [hnil, List.append_nil] at hrest
            exact ⟨b, spelled, b', hb, hvalue, hb', by rw [← hrest, ← hspelled, ← hcs]⟩
        · cases h

end RequirePath.Json
