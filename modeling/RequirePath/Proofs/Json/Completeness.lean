import RequirePath.Proofs.Json.Soundness

/-! What is spelled is read, or the reader stops at a bound that the spelling passes. So the reader takes the
documents within its bounds and no others, and it finds no problem with a document out of bounds. -/

namespace RequirePath.Json

variable {cs rest : List Char} {v : Value} {digits : Nat}

/-! ### Numbers -/

/-- Characters that may come right after a value: none, or some that start with a blank, a comma or a closing
bracket. -/
def Follows (rest : List Char) : Prop :=
  ∀ c ∈ rest.head?, isBlank c = true ∨ c ∈ [',', ']', '\x7d']

/-- The characters do not start with a digit. -/
def NoDigit (rest : List Char) : Prop :=
  ∀ c ∈ rest.head?, c.isDigit = false

theorem Follows.head_ne {d : Char} (h : Follows rest) (hd : isBlank d = false) (hd' : d ∉ [',', ']', '\x7d']) :
    rest.head? ≠ some d := by
  intro heq
  rcases h d heq with hblank | hmem
  · rw [hblank] at hd
    cases hd
  · exact hd' hmem

theorem Follows.noDigit (h : Follows rest) : NoDigit rest := by
  intro c hc
  cases hdigit : c.isDigit with
  | false => rfl
  | true =>
      have hstarts : startsValue c = true := by simp [startsValue, hdigit]
      have hclosing : c ∉ [',', ']', '\x7d'] := by
        simp only [List.mem_cons, List.not_mem_nil, or_false, not_or]
        exact ⟨ne_of_holds hstarts (by decide), ne_of_holds hstarts (by decide), ne_of_holds hstarts (by decide)⟩
      exact absurd hc (h.head_ne (isBlank_of_startsValue hstarts) hclosing)

theorem takeDigits_append {ds : List Char} (hds : ∀ c ∈ ds, c.isDigit = true) (hrest : NoDigit rest) :
    takeDigits (ds ++ rest) = ds := by
  have hnone : rest.takeWhile Char.isDigit = [] := by
    cases rest with
    | nil => rfl
    | cons c more => rw [List.takeWhile_cons, hrest c rfl, if_neg (by simp)]
  rw [takeDigits, List.takeWhile_append_of_pos hds, hnone, List.append_nil]

theorem wholeDigits_append {whole : List Char} (h : IsWhole whole) (hrest : NoDigit rest) :
    wholeDigits (whole ++ rest) = whole := by
  rcases h with rfl | ⟨hds, hzero⟩
  · rfl
  · unfold wholeDigits
    split
    · next more heq =>
        obtain ⟨c, ds, rfl, -⟩ := hds.cons
        obtain ⟨rfl, -⟩ := List.cons.inj heq
        exact absurd rfl hzero
    · exact takeDigits_append hds.digits hrest

theorem fraction_append {ds frac : List Char} (h : IsFraction ds frac) (hrest : NoDigit rest)
    (hpoint : rest.head? ≠ some '.') : (fraction (frac ++ rest)).getD ([], frac ++ rest) = (ds, rest) := by
  cases h with
  | absent =>
      have hnone : fraction rest = none := by
        unfold fraction
        split
        · exact absurd rfl hpoint
        · rfl
      rw [List.nil_append, hnone]
      rfl
  | point hds =>
      have htake := takeDigits_append hds.digits hrest
      rw [List.cons_append, fraction]
      simp only [htake, List.drop_left]
      rw [if_neg (by simpa using hds.ne_nil)]
      rfl

theorem signedExponent_append {ds : List Char} (sign : Int) (hds : IsDigits ds) (hrest : NoDigit rest) :
    signedExponent sign (ds ++ rest) = some (sign * Text.digitsValue ds, rest) := by
  rw [signedExponent, takeDigits_append hds.digits hrest, List.drop_left, if_neg (by simpa using hds.ne_nil)]

theorem exponent_append {n : Int} {exp : List Char} (h : IsExponent n exp) (hrest : NoDigit rest)
    (hlower : rest.head? ≠ some 'e') (hupper : rest.head? ≠ some 'E') :
    (exponent (exp ++ rest)).getD (0, exp ++ rest) = (n, rest) := by
  cases h with
  | absent =>
      have hnone : exponent rest = none := by
        cases rest with
        | nil => rfl
        | cons e more =>
            refine if_neg ?_
            rintro (rfl | rfl)
            · exact hlower rfl
            · exact hupper rfl
      rw [List.nil_append, hnone]
      rfl
  | bare he hds =>
      obtain ⟨c, more, rfl, hc⟩ := hds.cons
      have hne : ∀ d : Char, d.isDigit = false → ((c :: more) ++ rest).head? ≠ some d := by
        intro d hd heq
        obtain rfl : c = d := Option.some.inj heq
        rw [hc] at hd
        cases hd
      rw [List.cons_append, exponent_bare he (hne '+' (by decide)) (hne '-' (by decide)),
        signedExponent_append 1 hds hrest, Int.one_mul]
      rfl
  | plus he hds =>
      rw [List.cons_append, List.cons_append, exponent_plus he, signedExponent_append 1 hds hrest, Int.one_mul]
      rfl
  | minus he hds =>
      rw [List.cons_append, List.cons_append, exponent_minus he, signedExponent_append (-1) hds hrest, Int.neg_one_mul]
      rfl

/-- An exponent and what follows it start neither with a digit nor with a point. -/
theorem IsExponent.follows {n : Int} {exp : List Char} (h : IsExponent n exp) (hrest : Follows rest) :
    NoDigit (exp ++ rest) ∧ (exp ++ rest).head? ≠ some '.' := by
  have hletter : ∀ {e : Char} {more : List Char}, e = 'e' ∨ e = 'E' →
      NoDigit (e :: more) ∧ (e :: more).head? ≠ some '.' := by
    rintro e more (rfl | rfl) <;> simp [NoDigit]
  cases h with
  | absent => exact ⟨hrest.noDigit, hrest.head_ne (by decide) (by decide)⟩
  | bare he => exact hletter he
  | plus he => exact hletter he
  | minus he => exact hletter he

theorem IsFraction.noDigit {ds frac : List Char} (h : IsFraction ds frac) (hrest : NoDigit rest) :
    NoDigit (frac ++ rest) := by
  cases h with
  | absent => exact hrest
  | point => simp [NoDigit]

/-! ### Readings -/

/-- Reading stops at a bound that a spelling passes, one on the digits of integers or one on the depth. -/
def StopsWithin (digits spelledDepth depth : Nat) (e : Stop) : Prop :=
  (e = .tooDeep ∧ depth < spelledDepth) ∨ ∃ n, e = .tooManyDigits n ∧ digitLimit < n ∧ n ≤ digits

/-- Reading gives what is spelled, or stops at a bound that the spelling passes. -/
def Gives {α : Type} (digits spelledDepth depth : Nat) (r : Read α) (a : α) (rest : List Char) : Prop :=
  r = .ok (a, rest) ∨ ∃ e, r = .error e ∧ StopsWithin digits spelledDepth depth e

theorem StopsWithin.succ {spelledDepth depth : Nat} {e : Stop} (h : StopsWithin digits spelledDepth depth e) :
    StopsWithin digits (spelledDepth + 1) (depth + 1) e :=
  h.imp_left fun ⟨he, hlt⟩ => ⟨he, Nat.succ_lt_succ hlt⟩

theorem Gives.map {α β : Type} {spelledDepth depth : Nat} {r : Read α} {a : α} {f : α × List Char → β × List Char}
    {b : β} (h : Gives digits spelledDepth depth r a rest) (hf : f (a, rest) = (b, rest)) :
    Gives digits spelledDepth depth (r.map f) b rest := by
  rcases h with rfl | ⟨e, rfl, he⟩
  · exact Or.inl (congrArg Except.ok hf)
  · exact Or.inr ⟨e, rfl, he⟩

theorem number_complete {negative : Bool} (start : List Char) (h : IsNumeral digits negative v cs)
    (hrest : Follows rest) (spelledDepth depth : Nat) :
    Gives digits spelledDepth depth (number negative start (cs ++ rest)) v rest := by
  -- whether it is an integer is asked after all three parts were tried, so both kinds go one way up to there
  have hread : ∀ {whole frac exp ds : List Char} {n : Int}, IsWhole whole → IsFraction ds frac → IsExponent n exp →
      number negative start (whole ++ (frac ++ (exp ++ rest))) =
        if rest.length < (frac ++ (exp ++ rest)).length then
          .ok (.float (Binary64.ofDecimal negative (Text.digitsValue (whole ++ ds)) (n - ds.length)), rest)
        else if digitLimit < whole.length then .error (.tooManyDigits whole.length)
        else .ok (.int (if negative then -(Text.digitsValue whole : Int) else (Text.digitsValue whole : Int)), rest) := by
    intro whole frac exp ds n hwhole hfrac hexp
    obtain ⟨hnoDigit, hpoint⟩ := hexp.follows hrest
    have hne : (whole.isEmpty = true) = False := by simpa using hwhole.isDigits.ne_nil
    simp only [number, wholeDigits_append hwhole (hfrac.noDigit hnoDigit), List.drop_left,
      fraction_append hfrac hnoDigit hpoint,
      exponent_append hexp hrest.noDigit (hrest.head_ne (by decide) (by decide))
        (hrest.head_ne (by decide) (by decide)), hne, if_false]
  cases h with
  | int hwhole hdigits =>
      have hint := hread hwhole .absent .absent
      rw [List.nil_append, List.nil_append, if_neg (Nat.lt_irrefl _)] at hint
      by_cases hlimit : digitLimit < cs.length
      · rw [if_pos hlimit] at hint
        exact Or.inr ⟨_, hint, Or.inr ⟨_, rfl, hlimit, hdigits⟩⟩
      · rw [if_neg hlimit] at hint
        exact Or.inl hint
  | float hwhole hfrac hexp hmore =>
      rw [List.append_assoc, List.append_assoc, hread hwhole hfrac hexp, if_pos]
      · exact Or.inl rfl
      · rw [← List.append_assoc, List.length_append]
        exact Nat.lt_add_left_iff_pos.2 (List.length_pos_iff.2 hmore)

/-! ### Strings -/

theorem IsQuoted.cons {chars : List Char} (h : IsQuoted chars cs) : ∃ c more, cs = c :: more := by
  cases h <;> exact ⟨_, _, rfl⟩

/-- A four-digit escape in a string has its digits, and a character comes after them. -/
theorem IsQuoted.unit_next {chars more : List Char} (h : IsQuoted chars cs) (heq : cs ++ rest = '\\' :: 'u' :: more) :
    ∃ a b c d e n spelled, cs = '\\' :: 'u' :: a :: b :: c :: d :: e :: spelled ∧ hexQuad? a b c d = some n := by
  cases h with
  | close => cases heq
  | plain hquote hslash => exact absurd (List.cons.inj heq).1 hslash
  | escape hd hcs =>
      obtain ⟨e, spelled, rfl⟩ := hcs.cons
      cases hd with
      | letter hc =>
          obtain ⟨rfl, -⟩ := List.cons.inj (List.cons.inj heq).2
          cases hc
      | unit hn => exact ⟨_, _, _, _, e, _, spelled, rfl, hn⟩
      | pair hn => exact ⟨_, _, _, _, _, _, _, rfl, hn⟩

/-- An escape is read from the string that it stands in. -/
theorem escapeAt_complete (start rest : List Char) {d : Char} {xs chars : List Char} (h : IsEscape d xs cs)
    (hcs : IsQuoted chars cs) : escapeAt start (xs ++ (cs ++ rest)) = .ok (d, xs.length) := by
  obtain ⟨e, following, he⟩ := hcs.cons
  cases h with
  | letter hc =>
      refine escapeAt_simple _ _ ?_ hc
      rintro rfl
      cases hc
  | unit hn halone =>
      rw [he]
      simp only [List.cons_append, List.nil_append, escapeAt, hn]
      split
      · next a' b' c' d' f more hhigh hmore =>
          -- another four-digit escape comes next, but it is not the second half of this one
          obtain ⟨a, b, c, d, g, low, spelled, hspelled, hlow⟩ := hcs.unit_next (by rw [he, List.cons_append, hmore])
          have hnot : ¬isLowHalf low = true := fun hl => halone hhigh ⟨a, b, c, d, g, low, spelled, hspelled, hlow, hl⟩
          obtain rfl := (List.cons.inj (he.symm.trans hspelled)).2
          cases hmore
          simp only [hlow, if_neg hnot, List.length_cons, List.length_nil]
      · rfl
  | pair hh hhigh hl hlow =>
      rw [he]
      simp only [List.cons_append, List.nil_append, escapeAt, hh, hhigh, hl, hlow, if_true, List.length_cons,
        List.length_nil]

/-- A string is read up to its closing quote. -/
theorem stringRest_complete (start : List Char) {chars : List Char} (h : IsQuoted chars cs) (rest : List Char) :
    stringRest start 0 (cs ++ rest) = .ok (chars, rest) := by
  induction h with
  | close => rfl
  | plain hquote hslash hcontrol h ih =>
      rw [List.cons_append, stringRest_zero, if_neg hquote, if_neg hslash, if_neg (Nat.not_lt.2 hcontrol), ih]
      rfl
  | escape hd h ih =>
      have hescape := escapeAt_complete start rest hd h
      rw [List.cons_append, List.append_assoc]
      have hread := stringRest_escape _ hescape
      rw [List.cons_append] at hread
      rw [hread, ih]
      rfl

/-! ### Values -/

theorem follows_nil : Follows [] := by
  simp [Follows]

theorem Blank.follows {b : List Char} (hb : Blank b) (hrest : Follows rest) : Follows (b ++ rest) := by
  cases b with
  | nil => exact hrest
  | cons c b =>
      intro d hd
      obtain rfl : c = d := Option.some.inj hd
      exact Or.inl (hb c List.mem_cons_self)

theorem follows_cons {c : Char} (hc : c ∈ [',', ']', '\x7d']) : Follows (c :: rest) := by
  intro d hd
  obtain rfl : c = d := Option.some.inj hd
  exact Or.inr hc

theorem skipBlanks_append {b : List Char} (hb : Blank b) (cs : List Char) : skipBlanks (b ++ cs) = skipBlanks cs :=
  List.dropWhile_append_of_pos hb

theorem skipBlanks_starts {c : Char} {more : List Char} (hc : startsValue c = true) :
    skipBlanks (c :: more) = c :: more :=
  skipBlanks_cons more (isBlank_of_startsValue hc)

theorem Spells.skipBlanks_value {depth : Nat} (h : Spells digits depth (.value v) cs) (rest : List Char) :
    skipBlanks (cs ++ rest) = cs ++ rest := by
  obtain ⟨c, more, rfl, hc⟩ := h.value_cons
  exact skipBlanks_starts hc

/-- The inside of an array or an object starts, after blanks, with what starts a value. -/
theorem Spells.items_cons {depth : Nat} {vs : List Value} (h : Spells digits depth (.items vs) cs)
    (rest : List Char) : ∃ c more, skipBlanks (cs ++ rest) = c :: more ∧ startsValue c = true := by
  have hfirst : ∀ {b first tail : List Char} {depth : Nat} {v : Value}, Blank b →
      Spells digits depth (.value v) first →
      ∃ c more, skipBlanks (b ++ (first ++ tail) ++ rest) = c :: more ∧ startsValue c = true := by
    intro b first tail depth v hb hv
    rw [List.append_assoc, List.append_assoc, skipBlanks_append hb, hv.skipBlanks_value]
    obtain ⟨c, more, rfl, hc⟩ := hv.value_cons
    exact ⟨c, _, rfl, hc⟩
  cases h with
  | lastItem hb hv => exact hfirst hb hv
  | item hb hv => exact hfirst hb hv

theorem Spells.fields_cons {depth : Nat} {fs : List (String × Value)} (h : Spells digits depth (.fields fs) cs)
    (rest : List Char) : ∃ more, skipBlanks (cs ++ rest) = '\x22' :: more := by
  have hfirst : ∀ {b tail : List Char}, Blank b →
      ∃ more, skipBlanks (b ++ ('\x22' :: tail) ++ rest) = '\x22' :: more := by
    intro b tail hb
    rw [List.append_assoc, skipBlanks_append hb]
    exact ⟨_, skipBlanks_starts (by decide)⟩
  cases h with
  | lastField hb => exact hfirst hb
  | field hb => exact hfirst hb

theorem Spells.inside_pos {depth : Nat} {part : Part} (h : Spells digits depth part cs) (hpart : ∀ v, part ≠ .value v) :
    0 < depth := by
  cases h with
  | lastItem => exact Nat.succ_pos _
  | item => exact Nat.succ_pos _
  | lastField => exact Nat.succ_pos _
  | field => exact Nat.succ_pos _
  | _ => exact absurd rfl (hpart _)

theorem scalar_digit {c : Char} (more : List Char) (hc : c.isDigit = true) :
    scalar (c :: more) = number false (c :: more) (c :: more) := by
  refine scalar_other more fun hmem => ?_
  simp only [List.mem_cons, List.not_mem_nil, or_false] at hmem
  rcases hmem with rfl | rfl | rfl | rfl | rfl | rfl <;> cases hc

theorem scalar_minus {c : Char} (more : List Char) (hc : c.isDigit = true) :
    scalar ('-' :: c :: more) = number true ('-' :: c :: more) (c :: more) := by
  rcases scalar_cases ('-' :: c :: more) with ⟨v, name, rest, hname, heq, -⟩ | ⟨rest, heq, hread⟩ | ⟨hminus, -⟩
  · cases hname with
    | negativeInfinity => exact absurd (List.cons.inj (List.cons.inj heq).2).1 (ne_of_holds hc (by decide))
    | _ => exact absurd (List.cons.inj heq).1 (by decide)
  · obtain rfl := (List.cons.inj heq).2
    exact hread
  · exact absurd rfl (hminus (c :: more))

/-- What is spelled is read with as many steps as it has characters, if the reading does not stop at a bound. -/
def Completes (digits spelledDepth : Nat) : Part → List Char → Prop
  | .value v, cs => ∀ steps depth rest, Follows rest → cs.length ≤ steps →
      Gives digits spelledDepth depth (value steps depth (cs ++ rest)) v rest
  | .items vs, cs => ∀ steps depth rest, cs.length ≤ steps →
      Gives digits spelledDepth (depth + 1) (items steps depth (skipBlanks (cs ++ rest))) vs rest
  | .fields fs, cs => ∀ steps depth rest, cs.length ≤ steps →
      Gives digits spelledDepth (depth + 1) (fields steps depth (skipBlanks (cs ++ rest))) fs rest

theorem exists_succ {n steps : Nat} (h : n + 1 ≤ steps) : ∃ m, steps = m + 1 ∧ n ≤ m :=
  ⟨steps - 1, by omega, by omega⟩

/-- A first item is read, and then what comes after it. -/
theorem items_first {steps spelledDepth : Nat} (depth : Nat) {b b' : List Char} (hb : Blank b)
    (h : Spells digits spelledDepth (.value v) cs) (hb' : Blank b') (hc : Completes digits spelledDepth (.value v) cs)
    (hsteps : cs.length ≤ steps) {tail : List Char} (htail : Follows tail) :
    items (steps + 1) depth (skipBlanks (b ++ (cs ++ (b' ++ tail)))) =
        (match skipBlanks tail with
        | ']' :: after => .ok ([v], after)
        | ',' :: next => (items steps depth (skipBlanks next)).map fun r => (v :: r.1, r.2)
        | other => .error (.problem .comma other)) ∨
      ∃ e, items (steps + 1) depth (skipBlanks (b ++ (cs ++ (b' ++ tail)))) = .error e ∧
        StopsWithin digits spelledDepth depth e := by
  rw [skipBlanks_append hb, h.skipBlanks_value, items_succ]
  rcases hc steps depth (b' ++ tail) (hb'.follows htail) hsteps with hv | ⟨e, hv, he⟩
  · rw [hv, ← skipBlanks_append hb' tail]
    exact Or.inl rfl
  · rw [hv]
    exact Or.inr ⟨e, rfl, he⟩

/-- A first field is read, and then what comes after it. -/
theorem fields_first {steps spelledDepth : Nat} (depth : Nat) {name b spelled b₁ b₂ b' : List Char} (hb : Blank b)
    (hname : IsQuoted name spelled) (hb₁ : Blank b₁) (hb₂ : Blank b₂) (h : Spells digits spelledDepth (.value v) cs)
    (hb' : Blank b') (hc : Completes digits spelledDepth (.value v) cs) (hsteps : cs.length ≤ steps) {tail : List Char}
    (htail : Follows tail) :
    fields (steps + 1) depth (skipBlanks (b ++ ('\x22' :: (spelled ++ (b₁ ++ ':' :: (b₂ ++ (cs ++ (b' ++ tail)))))))) =
        (match skipBlanks tail with
        | '\x7d' :: after => .ok ([(String.ofList name, v)], after)
        | ',' :: next => (fields steps depth (skipBlanks next)).map fun r => ((String.ofList name, v) :: r.1, r.2)
        | other => .error (.problem .comma other)) ∨
      ∃ e, fields (steps + 1) depth
          (skipBlanks (b ++ ('\x22' :: (spelled ++ (b₁ ++ ':' :: (b₂ ++ (cs ++ (b' ++ tail)))))))) = .error e ∧
        StopsWithin digits spelledDepth depth e := by
  have hcolon : skipBlanks (b₁ ++ ':' :: (b₂ ++ (cs ++ (b' ++ tail)))) = ':' :: (b₂ ++ (cs ++ (b' ++ tail))) := by
    rw [skipBlanks_append hb₁, skipBlanks_cons _ (by decide)]
  have hvalue : skipBlanks (b₂ ++ (cs ++ (b' ++ tail))) = cs ++ (b' ++ tail) := by
    rw [skipBlanks_append hb₂, h.skipBlanks_value]
  rw [skipBlanks_append hb, skipBlanks_starts (by decide), fields]
  simp only [stringRest_complete _ hname, hcolon, hvalue]
  rcases hc steps depth (b' ++ tail) (hb'.follows htail) hsteps with hv | ⟨e, hv, he⟩
  · rw [hv, ← skipBlanks_append hb' tail]
    exact Or.inl rfl
  · rw [hv]
    exact Or.inr ⟨e, rfl, he⟩

theorem constant_complete (h : IsConstant v cs) (steps depth : Nat) (rest : List Char) :
    value (steps + 1) depth (cs ++ rest) = .ok (v, rest) := by
  cases h <;> exact value_scalar steps depth _ (by decide)

/-- An array is read if its inside is. -/
theorem array_complete {spelledDepth : Nat} {vs : List Value} (h : Spells digits spelledDepth (.items vs) cs)
    (hc : Completes digits spelledDepth (.items vs) cs) :
    Completes digits spelledDepth (.value (.array vs)) ('[' :: cs) := by
  intro steps depth rest _ hsteps
  obtain ⟨steps, rfl, hle⟩ := exists_succ hsteps
  rw [List.cons_append]
  cases depth with
  | zero =>
      rw [value_array_zero]
      exact Or.inr ⟨_, rfl, Or.inl ⟨rfl, h.inside_pos fun v hv => by cases hv⟩⟩
  | succ inner =>
      have hinside := hc steps inner rest hle
      obtain ⟨c, more, hskip, hstarts⟩ := h.items_cons rest
      rw [value_array_succ]
      rw [hskip] at hinside ⊢
      split
      · next heq => exact absurd (List.cons.inj heq).1 (ne_of_holds hstarts (by decide))
      · exact hinside.map rfl

/-- An object is read if its inside is. -/
theorem object_complete {spelledDepth : Nat} {fs : List (String × Value)}
    (h : Spells digits spelledDepth (.fields fs) cs) (hc : Completes digits spelledDepth (.fields fs) cs) :
    Completes digits spelledDepth (.value (.object (Fields.ofList fs))) ('\x7b' :: cs) := by
  intro steps depth rest _ hsteps
  obtain ⟨steps, rfl, hle⟩ := exists_succ hsteps
  rw [List.cons_append]
  cases depth with
  | zero =>
      rw [value_object_zero]
      exact Or.inr ⟨_, rfl, Or.inl ⟨rfl, h.inside_pos fun v hv => by cases hv⟩⟩
  | succ inner =>
      have hinside := hc steps inner rest hle
      obtain ⟨more, hskip⟩ := h.fields_cons rest
      rw [value_object_succ]
      rw [hskip] at hinside ⊢
      split
      · next heq => exact absurd (List.cons.inj heq).1 (by decide)
      · exact hinside.map rfl

/-- Empty brackets are read, with any blanks between them. -/
theorem empty_complete {spelledDepth : Nat} {b : List Char} (hb : Blank b) :
    Completes digits (spelledDepth + 1) (.value (.array [])) ('[' :: (b ++ [']'])) ∧
      Completes digits (spelledDepth + 1) (.value (.object [])) ('\x7b' :: (b ++ ['\x7d'])) := by
  have hskip : ∀ (c : Char) (rest : List Char), isBlank c = false → skipBlanks (b ++ [c] ++ rest) = c :: rest := by
    intro c rest hc
    rw [List.append_assoc, skipBlanks_append hb]
    exact skipBlanks_cons rest hc
  constructor
  · intro steps depth rest _ hsteps
    obtain ⟨steps, rfl, -⟩ := exists_succ hsteps
    rw [List.cons_append]
    cases depth with
    | zero => exact Or.inr ⟨_, value_array_zero _ _, Or.inl ⟨rfl, Nat.succ_pos _⟩⟩
    | succ inner =>
        rw [value_array_succ, hskip ']' rest (by decide)]
        exact Or.inl rfl
  · intro steps depth rest _ hsteps
    obtain ⟨steps, rfl, -⟩ := exists_succ hsteps
    rw [List.cons_append]
    cases depth with
    | zero => exact Or.inr ⟨_, value_object_zero _ _, Or.inl ⟨rfl, Nat.succ_pos _⟩⟩
    | succ inner =>
        rw [value_object_succ, hskip '\x7d' rest (by decide)]
        exact Or.inl rfl

/-- A number is read if its digits after the sign are. -/
theorem numeral_complete {negative : Bool} (h : IsNumeral digits negative v cs) (spelledDepth : Nat) :
    Completes digits spelledDepth (.value v) (if negative then '-' :: cs else cs) := by
  intro steps depth rest hrest hsteps
  obtain ⟨c, more, rfl, hc⟩ := h.cons
  have hnumber := fun start => number_complete start h hrest spelledDepth depth
  rw [List.cons_append] at hnumber
  cases negative with
  | false =>
      obtain ⟨steps, rfl, -⟩ := exists_succ (show more.length + 1 ≤ steps from hsteps)
      have hnot : c ∉ ['\x22', '[', '\x7b'] := by
        simp only [List.mem_cons, List.not_mem_nil, or_false, not_or]
        exact ⟨ne_of_holds hc (by decide), ne_of_holds hc (by decide), ne_of_holds hc (by decide)⟩
      rw [if_neg (by decide), List.cons_append, value_scalar steps depth _ hnot, scalar_digit _ hc]
      exact hnumber _
  | true =>
      obtain ⟨steps, rfl, -⟩ := exists_succ (show (c :: more).length + 1 ≤ steps from hsteps)
      rw [if_pos rfl, List.cons_append, List.cons_append, value_scalar steps depth _ (by decide), scalar_minus _ hc]
      exact hnumber _

theorem Spells.completes {spelledDepth : Nat} {part : Part} (h : Spells digits spelledDepth part cs) :
    Completes digits spelledDepth part cs := by
  -- on the spelling: every rule has a character that its premises lack, so they have a step less to be read in
  induction h with
  | @constant depth v cs h =>
      intro steps depth' rest _ hsteps
      obtain ⟨c, more, rfl, -⟩ := (Spells.constant h : Spells digits depth (.value v) cs).value_cons
      obtain ⟨steps, rfl, -⟩ := exists_succ hsteps
      exact Or.inl (constant_complete h steps depth' rest)
  | positive h => exact numeral_complete h _
  | negative h => exact numeral_complete h _
  | text h =>
      intro steps depth rest _ hsteps
      obtain ⟨steps, rfl, -⟩ := exists_succ hsteps
      rw [List.cons_append, value_text, stringRest_complete _ h]
      exact Or.inl rfl
  | emptyArray hb => exact (empty_complete hb).1
  | emptyObject hb => exact (empty_complete hb).2
  | array h ih => exact array_complete h ih
  | object h ih => exact object_complete h ih
  | @lastItem _ v b cs b' hb h hb' ih =>
      intro steps depth rest hsteps
      simp only [List.length_append, List.length_cons, List.length_nil] at hsteps
      obtain ⟨steps, rfl, hle⟩ := exists_succ (n := cs.length) (by omega : cs.length + 1 ≤ steps)
      simp only [List.append_assoc, List.cons_append, List.nil_append]
      have htail : Follows (']' :: rest) := follows_cons (by decide)
      rcases items_first depth hb h hb' ih hle htail with hread | ⟨e, hread, he⟩
      · rw [hread]
        exact Or.inl rfl
      · exact Or.inr ⟨e, hread, he.succ⟩
  | @item _ v vs b cs b' more hb h hb' hmore ih ihmore =>
      intro steps depth rest hsteps
      simp only [List.length_append, List.length_cons] at hsteps
      obtain ⟨steps, rfl, hle⟩ := exists_succ (n := cs.length) (by omega : cs.length + 1 ≤ steps)
      simp only [List.append_assoc, List.cons_append]
      have htail : Follows (',' :: (more ++ rest)) := follows_cons (by decide)
      rcases items_first depth hb h hb' ih hle htail with hread | ⟨e, hread, he⟩
      · rw [hread]
        exact (ihmore steps depth rest (by omega)).map rfl
      · exact Or.inr ⟨e, hread, he.succ⟩
  | @lastField _ name v b spelled b₁ b₂ cs b' hb hname hb₁ hb₂ h hb' ih =>
      intro steps depth rest hsteps
      simp only [List.length_append, List.length_cons] at hsteps
      obtain ⟨steps, rfl, hle⟩ := exists_succ (n := cs.length) (by omega : cs.length + 1 ≤ steps)
      simp only [List.append_assoc, List.cons_append, List.nil_append]
      have htail : Follows ('\x7d' :: rest) := follows_cons (by decide)
      rcases fields_first depth hb hname hb₁ hb₂ h hb' ih hle htail with hread | ⟨e, hread, he⟩
      · rw [hread]
        exact Or.inl rfl
      · exact Or.inr ⟨e, hread, he.succ⟩
  | @field _ name v fs b spelled b₁ b₂ cs b' more hb hname hb₁ hb₂ h hb' hmore ih ihmore =>
      intro steps depth rest hsteps
      simp only [List.length_append, List.length_cons] at hsteps
      obtain ⟨steps, rfl, hle⟩ := exists_succ (n := cs.length) (by omega : cs.length + 1 ≤ steps)
      simp only [List.append_assoc, List.cons_append]
      have htail : Follows (',' :: (more ++ rest)) := follows_cons (by decide)
      rcases fields_first depth hb hname hb₁ hb₂ h hb' ih hle htail with hread | ⟨e, hread, he⟩
      · rw [hread]
        exact (ihmore steps depth rest (by omega)).map rfl
      · exact Or.inr ⟨e, hread, he.succ⟩

/-! ### Documents -/

theorem IsDocument.head_ne {depth : Nat} (h : IsDocument digits depth v cs) : cs.head? ≠ some '\ufeff' := by
  obtain ⟨b, spelled, b', hb, hv, hb', rfl⟩ := h
  intro heq
  cases b with
  | nil =>
      obtain ⟨c, more, rfl, hc⟩ := hv.value_cons
      exact ne_of_holds hc (by decide) (Option.some.inj heq)
  | cons c b =>
      obtain rfl : c = '\ufeff' := Option.some.inj heq
      exact absurd (hb '\ufeff' List.mem_cons_self) (by decide)

/-- A document is read, or the reader stops at a bound that the document passes. -/
theorem document_complete {depth : Nat} (h : IsDocument digits depth v cs) :
    document cs = .ok v ∨ ∃ e, document cs = .error e ∧ StopsWithin digits depth depthLimit e := by
  have hmark := h.head_ne
  obtain ⟨b, spelled, b', hb, hv, hb', hcs⟩ := h
  have hskip : skipBlanks cs = spelled ++ b' := by
    rw [hcs, skipBlanks_append hb, hv.skipBlanks_value]
  have hend : skipBlanks b' = [] := by
    have := skipBlanks_append hb' []
    rwa [List.append_nil] at this
  have hfollows : Follows b' := by
    have := hb'.follows follows_nil
    rwa [List.append_nil] at this
  have hread := hv.completes (2 * cs.length + 2) depthLimit b' hfollows (by simp [hcs]; omega)
  unfold document
  split
  · exact absurd rfl hmark
  · rw [hskip]
    rcases hread with hread | ⟨e, hread, he⟩
    · simp only [hread, hend]
      exact Or.inl trivial
    · simp only [hread]
      exact Or.inr ⟨e, rfl, he⟩

/-- The documents that are read are those within the bounds of the reader. -/
theorem document_eq_ok_iff : document cs = .ok v ↔ IsDocument digitLimit depthLimit v cs := by
  refine ⟨document_sound, fun h => ?_⟩
  rcases document_complete h with hread | ⟨e, -, ⟨-, hdepth⟩ | ⟨n, -, hlimit, hn⟩⟩
  · exact hread
  · exact absurd hdepth (Nat.lt_irrefl _)
  · exact absurd hlimit (Nat.not_lt.2 hn)

/-- Where the reader finds a problem, there is no document of any digits and any depth. -/
theorem not_isDocument_of_problem {depth : Nat} {kind : Problem} {left : List Char}
    (h : document cs = .error (.problem kind left)) : ¬IsDocument digits depth v cs := by
  intro hdoc
  rcases document_complete hdoc with hread | ⟨e, hread, ⟨rfl, -⟩ | ⟨n, rfl, -⟩⟩
  all_goals
    rw [h] at hread
    cases hread

end RequirePath.Json
