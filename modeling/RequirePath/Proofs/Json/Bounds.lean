import RequirePath.Proofs.Json.Completeness

/-! Where the reader stops at a bound, the text passes it: it has more opening brackets than the depth allows, or so
many digits in a row. -/

namespace RequirePath.Json

variable {cs rest : List Char} {e : Stop}

/-- The bracket or the brace that opens an array or an object. -/
def isOpening (c : Char) : Bool :=
  c == '[' || c == '\x7b'

/-- The text has so many digits in a row. -/
def HasDigits (n : Nat) (cs : List Char) : Prop :=
  ∃ run, run <:+: cs ∧ run.length = n ∧ ∀ c ∈ run, c.isDigit = true

/-- The text passes the bound at which a reading has stopped. -/
def Passes (depth : Nat) (cs : List Char) : Stop → Prop
  | .problem _ _ => True
  | .tooDeep => depth < cs.countP isOpening
  | .tooManyDigits n => digitLimit < n ∧ HasDigits n cs

theorem Passes.of_suffix {depth : Nat} (h : Passes depth cs e) (hs : cs <:+ rest) : Passes depth rest e := by
  cases e with
  | problem kind left => trivial
  | tooDeep => exact Nat.lt_of_lt_of_le h hs.sublist.countP_le
  | tooManyDigits n =>
      obtain ⟨hn, run, hrun, hlength, hdigits⟩ := h
      exact ⟨hn, run, hrun.trans hs.isInfix, hlength, hdigits⟩

/-- A bracket lets the inside be one deeper. -/
theorem Passes.opening {inner : Nat} {c : Char} (h : Passes inner cs e) (hc : isOpening c = true) :
    Passes (inner + 1) (c :: cs) e := by
  cases e with
  | problem kind left => trivial
  | tooDeep =>
      have hlt : inner < cs.countP isOpening := h
      simpa [Passes, List.countP_cons, hc] using hlt
  | tooManyDigits n =>
      have hsuffix : Passes inner (c :: cs) (.tooManyDigits n) := h.of_suffix (List.suffix_cons c cs)
      exact hsuffix

/-! ### What the parts of the reader stop at -/

theorem map_eq_error {ε α β : Type} {f : α → β} {r : Except ε α} {e : ε} (h : r.map f = .error e) : r = .error e := by
  cases r with
  | error e' => exact congrArg Except.error (Except.error.inj h)
  | ok a => cases h

theorem escapeAt_error {start : List Char} (h : escapeAt start cs = .error e) : ∃ kind left, e = .problem kind left := by
  unfold escapeAt at h
  split at h
  · cases h
    exact ⟨_, _, rfl⟩
  · split at h
    · cases h
      exact ⟨_, _, rfl⟩
    · split at h
      · split at h
        · cases h
          exact ⟨_, _, rfl⟩
        · cases h
      · cases h
  · cases h
    exact ⟨_, _, rfl⟩
  · split at h
    · cases h
      exact ⟨_, _, rfl⟩
    · cases h

theorem stringRest_error {start : List Char} {skip : Nat} (h : stringRest start skip cs = .error e) :
    ∃ kind left, e = .problem kind left := by
  induction cs generalizing skip with
  | nil =>
      cases h
      exact ⟨_, _, rfl⟩
  | cons c cs ih =>
      cases skip with
      | succ k => exact ih h
      | zero =>
          rw [stringRest_zero] at h
          split_ifs at h with hquote hslash hcontrol
          · cases he : escapeAt start cs with
            | error e' =>
                rw [he] at h
                cases h
                exact escapeAt_error he
            | ok p =>
                rw [he] at h
                exact ih (map_eq_error h)
          · cases h
            exact ⟨_, _, rfl⟩
          · exact ih (map_eq_error h)

theorem passes_number {negative : Bool} {start : List Char} (depth : Nat) (h : number negative start cs = .error e) :
    Passes depth cs e := by
  unfold number at h
  by_cases hempty : (wholeDigits cs).isEmpty = true
  · rw [if_pos hempty] at h
    cases h
    trivial
  rw [if_neg hempty] at h
  dsimp only at h
  split at h
  · cases h
  · split at h
    · next hdigits =>
        cases h
        have hwhole : IsWhole (wholeDigits cs) := isWhole_wholeDigits (by simpa using hempty)
        refine ⟨hdigits, wholeDigits cs, ?_, rfl, hwhole.isDigits.digits⟩
        exact ⟨[], _, wholeDigits_append_drop cs⟩
    · cases h

theorem passes_scalar (depth : Nat) (h : scalar cs = .error e) : Passes depth cs e := by
  rcases scalar_cases cs with ⟨v, name, rest, -, -, hread⟩ | ⟨more, rfl, hread⟩ | ⟨-, hread⟩
  · cases hread.symm.trans h
  · exact (passes_number depth (hread.symm.trans h)).of_suffix (List.suffix_cons _ _)
  · exact passes_number depth (hread.symm.trans h)

theorem skipBlanks_suffix (cs : List Char) : skipBlanks cs <:+ cs :=
  List.dropWhile_suffix _

theorem suffix_of_skipBlanks {c : Char} {next : List Char} (h : skipBlanks cs = c :: next) : next <:+ cs :=
  (List.suffix_cons c next).trans (h ▸ skipBlanks_suffix cs)

theorem suffix_of_value {steps depth : Nat} {v : Value} (h : value steps depth cs = .ok (v, rest)) : rest <:+ cs := by
  obtain ⟨spelled, rfl, -⟩ := (sound steps).value h
  exact List.suffix_append spelled rest

theorem suffix_of_stringRest {start chars : List Char} (h : stringRest start 0 cs = .ok (chars, rest)) : rest <:+ cs := by
  obtain ⟨spelled, rfl, -⟩ := stringRest_sound start h
  exact List.suffix_append spelled rest

/-- What is read within a number of steps stops at a bound only if the text passes it. -/
structure StopsPassed (steps : Nat) : Prop where
  value : ∀ {depth cs e}, value steps depth cs = .error e → Passes depth cs e
  items : ∀ {depth cs e}, items steps depth cs = .error e → Passes depth cs e
  fields : ∀ {depth cs e}, fields steps depth cs = .error e → Passes depth cs e

variable {steps depth : Nat}

theorem StopsPassed.value_succ (hs : StopsPassed steps) (h : Json.value (steps + 1) depth cs = .error e) :
    Passes depth cs e := by
  rw [Json.value.eq_def] at h
  dsimp only at h
  split at h
  · obtain ⟨kind, left, rfl⟩ := stringRest_error (map_eq_error h)
    trivial
  · cases depth with
    | zero =>
        cases h
        simp [Passes, isOpening]
    | succ inner =>
        dsimp only at h
        split at h
        · cases h
        · exact ((hs.items (map_eq_error h)).of_suffix (skipBlanks_suffix _)).opening (by decide)
  · cases depth with
    | zero =>
        cases h
        simp [Passes, isOpening]
    | succ inner =>
        dsimp only at h
        split at h
        · cases h
        · exact ((hs.fields (map_eq_error h)).of_suffix (skipBlanks_suffix _)).opening (by decide)
  · exact passes_scalar depth h

theorem StopsPassed.items_succ (hs : StopsPassed steps) (h : Json.items (steps + 1) depth cs = .error e) :
    Passes depth cs e := by
  rw [Json.items] at h
  cases hv : Json.value steps depth cs with
  | error e' =>
      rw [hv] at h
      cases h
      exact hs.value hv
  | ok p =>
      rw [hv] at h
      dsimp only at h
      split at h
      · cases h
      · next next hskip =>
          have hnext := (skipBlanks_suffix next).trans (suffix_of_skipBlanks hskip)
          exact (hs.items (map_eq_error h)).of_suffix (hnext.trans (suffix_of_value hv))
      · cases h
        trivial

theorem StopsPassed.fields_succ (hs : StopsPassed steps) (h : Json.fields (steps + 1) depth cs = .error e) :
    Passes depth cs e := by
  rw [Json.fields.eq_def] at h
  dsimp only at h
  split at h
  · next more =>
      cases hname : stringRest ('\x22' :: more) 0 more with
      | error e' =>
          rw [hname] at h
          cases h
          obtain ⟨kind, left, rfl⟩ := stringRest_error hname
          trivial
      | ok p =>
          rw [hname] at h
          dsimp only at h
          have hafterName := (suffix_of_stringRest hname).trans (List.suffix_cons '\x22' more)
          split at h
          · next beforeValue hcolon =>
              have hbefore := (skipBlanks_suffix beforeValue).trans ((suffix_of_skipBlanks hcolon).trans hafterName)
              cases hv : Json.value steps depth (skipBlanks beforeValue) with
              | error e' =>
                  rw [hv] at h
                  cases h
                  exact (hs.value hv).of_suffix hbefore
              | ok p =>
                  rw [hv] at h
                  dsimp only at h
                  split at h
                  · cases h
                  · next next hskip =>
                      have hnext := (skipBlanks_suffix next).trans (suffix_of_skipBlanks hskip)
                      have hafter := hnext.trans ((suffix_of_value hv).trans hbefore)
                      exact (hs.fields (map_eq_error h)).of_suffix hafter
                  · cases h
                    trivial
          · cases h
            trivial
  · cases h
    trivial

theorem stopsPassed (steps : Nat) : StopsPassed steps := by
  induction steps with
  | zero =>
      refine ⟨fun h => ?_, fun h => ?_, fun h => ?_⟩
      · cases h
        trivial
      · cases h
        trivial
      · cases h
        trivial
  | succ steps ih => exact ⟨ih.value_succ, ih.items_succ, ih.fields_succ⟩

/-- A document at which the reader stops for a bound passes it. -/
theorem passes_of_document (h : document cs = .error e) : Passes depthLimit cs e := by
  unfold document at h
  split at h
  · cases h
    trivial
  · cases hv : value (2 * cs.length + 2) depthLimit (skipBlanks cs) with
    | error e' =>
        rw [hv] at h
        cases h
        exact ((stopsPassed _).value hv).of_suffix (skipBlanks_suffix cs)
    | ok p =>
        rw [hv] at h
        dsimp only at h
        split at h
        · cases h
        · cases h
          trivial

/-! ### Texts at which the reader stops -/

theorem value_brackets (depth : Nat) {steps : Nat} (hsteps : 2 * depth < steps) (rest : List Char) :
    value steps depth (List.replicate (depth + 1) '[' ++ rest) = .error .tooDeep := by
  induction depth generalizing steps with
  | zero =>
      obtain ⟨steps, rfl, -⟩ := exists_succ hsteps
      exact value_array_zero steps rest
  | succ inner ih =>
      -- two steps for each bracket, one for the array and one for its first item
      obtain ⟨steps, rfl, hle⟩ := exists_succ hsteps
      obtain ⟨steps, rfl, -⟩ := exists_succ (n := 2 * inner + 1) hle
      have hinner : value steps inner ('[' :: (List.replicate inner '[' ++ rest)) = .error .tooDeep := ih (by omega)
      have hskip : skipBlanks ('[' :: (List.replicate inner '[' ++ rest)) = '[' :: (List.replicate inner '[' ++ rest) :=
        skipBlanks_starts (by decide)
      have hitems : items (steps + 1) inner ('[' :: (List.replicate inner '[' ++ rest)) = .error .tooDeep := by
        rw [items_succ, hinner]
      rw [List.replicate_succ, List.replicate_succ, List.cons_append, List.cons_append, value_array_succ, hskip]
      split
      · next heq => exact absurd (List.cons.inj heq).1 (by decide)
      · rw [hitems]
        rfl

/-- Brackets that open deeper than the bound stop the reader, whatever follows them. -/
theorem document_brackets {n : Nat} (hn : depthLimit < n) (rest : List Char) :
    document (List.replicate n '[' ++ rest) = .error .tooDeep := by
  obtain ⟨k, rfl⟩ := Nat.exists_eq_add_of_le hn
  rw [← List.replicate_append_replicate, List.append_assoc]
  have hskip : ∀ more, skipBlanks (List.replicate (depthLimit + 1) '[' ++ more) = List.replicate (depthLimit + 1) '[' ++ more :=
    fun more => skipBlanks_starts (by decide)
  unfold document
  split
  · next heq => exact absurd (List.cons.inj heq).1 (by decide)
  · rw [hskip, value_brackets depthLimit]
    rw [List.length_append, List.length_replicate]
    omega

/-- An integer of more digits than the bound stops the reader. -/
theorem document_digits {n : Nat} (hn : digitLimit < n) :
    document (List.replicate n '1') = .error (.tooManyDigits n) := by
  obtain ⟨m, rfl⟩ : ∃ m, n = m + 1 := ⟨n - 1, by omega⟩
  have hones : ∀ c ∈ List.replicate (m + 1) '1', c.isDigit = true := by
    intro c hc
    rw [List.eq_of_mem_replicate hc]
    decide
  have hwhole : wholeDigits (List.replicate (m + 1) '1') = List.replicate (m + 1) '1' := by
    have hisWhole : IsWhole (List.replicate (m + 1) '1') :=
      Or.inr ⟨⟨by simp, hones⟩, by simp [List.replicate_succ]⟩
    have happend : wholeDigits (List.replicate (m + 1) '1' ++ []) = List.replicate (m + 1) '1' :=
      wholeDigits_append hisWhole (by simp [NoDigit])
    rwa [List.append_nil] at happend
  have hnumber : number false (List.replicate (m + 1) '1') (List.replicate (m + 1) '1') =
      .error (.tooManyDigits (m + 1)) := by
    have hend : (List.replicate (m + 1) '1').drop (List.replicate (m + 1) '1').length = [] := List.drop_length
    simp only [number, hwhole, hend]
    rw [if_neg (by simp)]
    simp only [fraction, exponent, Option.getD_none, Nat.lt_irrefl, if_false, List.length_replicate, if_pos hn]
  have hskip : skipBlanks (List.replicate (m + 1) '1') = List.replicate (m + 1) '1' := skipBlanks_starts (by decide)
  have hvalue : ∀ steps depth, value (steps + 1) depth (List.replicate (m + 1) '1') = .error (.tooManyDigits (m + 1)) := by
    intro steps depth
    rw [← hnumber]
    exact (value_scalar steps depth _ (by decide)).trans (scalar_digit _ (by decide))
  unfold document
  split
  · next heq => exact absurd (List.cons.inj heq).1 (by decide)
  · rw [hskip, hvalue]

end RequirePath.Json
