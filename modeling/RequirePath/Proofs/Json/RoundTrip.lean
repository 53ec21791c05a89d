import Mathlib.Tactic.SplitIfs
import RequirePath.Json.Writer
import RequirePath.Proofs.Json.Grammar

/-! The JSON reader takes back what the writer gives. What each of them does with one part of a value comes first.
`ReadsBack` is the statement for one value, before any characters that may follow a value; it is shown for texts, and
for arrays and objects whose parts read back. -/

namespace RequirePath.Json

/-! ### One part at a time -/

theorem chars_text (s : String) : chars (.text s) = stringChars s.toList := rfl

theorem chars_array (vs : List Value) : chars (.array vs) = '[' :: charsOfItems vs ++ [']'] := rfl

theorem chars_object (fs : Fields) : chars (.object fs) = '\x7b' :: charsOfFields fs ++ ['\x7d'] := rfl

theorem charsOfItems_nil : charsOfItems [] = [] := rfl

theorem charsOfItems_singleton (v : Value) : charsOfItems [v] = chars v := rfl

theorem charsOfItems_cons_cons (v w : Value) (vs : List Value) :
    charsOfItems (v :: w :: vs) = chars v ++ ',' :: ' ' :: charsOfItems (w :: vs) := rfl

theorem charsOfFields_nil : charsOfFields [] = [] := rfl

theorem charsOfFields_singleton (name : String) (v : Value) :
    charsOfFields [(name, v)] = stringChars name.toList ++ ':' :: ' ' :: chars v := rfl

theorem charsOfFields_cons_cons (name : String) (v : Value) (p : String × Value) (fs : List (String × Value)) :
    charsOfFields ((name, v) :: p :: fs) =
      stringChars name.toList ++ ':' :: ' ' :: chars v ++ ',' :: ' ' :: charsOfFields (p :: fs) := rfl

theorem stringRest_succ (start : List Char) (skip : Nat) (c : Char) (rest : List Char) :
    stringRest start (skip + 1) (c :: rest) = stringRest start skip rest := rfl

theorem stringRest_zero (start : List Char) (c : Char) (rest : List Char) :
    stringRest start 0 (c :: rest) =
      if c = '\x22' then .ok ([], rest)
      else if c = '\\' then
        match escapeAt start rest with
        | .error e => .error e
        | .ok (d, k) => (stringRest start k rest).map fun r => (d :: r.1, r.2)
      else if c.toNat < 0x20 then .error (.problem .controlCharacter (c :: rest))
      else (stringRest start 0 rest).map fun r => (c :: r.1, r.2) := rfl

theorem value_zero (depth : Nat) (cs : List Char) : value 0 depth cs = .error (.problem .value cs) := rfl

theorem value_nil (steps depth : Nat) : value (steps + 1) depth [] = scalar [] := rfl

/-- A value that starts neither with a quote nor with a bracket is a constant or a number. -/
theorem value_scalar {c : Char} (steps depth : Nat) (more : List Char) (hc : c ∉ ['\x22', '[', '\x7b']) :
    value (steps + 1) depth (c :: more) = scalar (c :: more) := by
  simp only [List.mem_cons, List.not_mem_nil, or_false, not_or] at hc
  rw [value.eq_def]
  dsimp only
  split
  · next heq => exact absurd (List.cons.inj heq).1 hc.1
  · next heq => exact absurd (List.cons.inj heq).1 hc.2.1
  · next heq => exact absurd (List.cons.inj heq).1 hc.2.2
  · rfl

/-- A constant is read, and the number after a minus sign or one without it. -/
theorem scalar_cases (cs : List Char) :
    (∃ v name rest, IsConstant v name ∧ cs = name ++ rest ∧ scalar cs = .ok (v, rest)) ∨
      (∃ rest, cs = '-' :: rest ∧ scalar cs = number true cs rest) ∨
      (∀ rest, cs ≠ '-' :: rest) ∧ scalar cs = number false cs cs := by
  generalize hread : scalar cs = r
  unfold scalar at hread
  split at hread
  · exact .inl ⟨_, _, _, .null, rfl, hread.symm⟩
  · exact .inl ⟨_, _, _, .true, rfl, hread.symm⟩
  · exact .inl ⟨_, _, _, .false, rfl, hread.symm⟩
  · exact .inl ⟨_, _, _, .nan, rfl, hread.symm⟩
  · exact .inl ⟨_, _, _, .infinity, rfl, hread.symm⟩
  · exact .inl ⟨_, _, _, .negativeInfinity, rfl, hread.symm⟩
  · exact .inr (.inl ⟨_, rfl, hread.symm⟩)
  · next hminus => exact .inr (.inr ⟨hminus, hread.symm⟩)

/-- What starts with none of the letters of a constant and with no sign can only be a number. -/
theorem scalar_other {c : Char} (more : List Char) (hc : c ∉ ['n', 't', 'f', 'N', 'I', '-']) :
    scalar (c :: more) = number false (c :: more) (c :: more) := by
  rcases scalar_cases (c :: more) with ⟨v, name, rest, hname, heq, -⟩ | ⟨rest, heq, -⟩ | ⟨-, hread⟩
  · cases hname <;> obtain rfl := (List.cons.inj heq).1 <;> exact absurd (by decide) hc
  · obtain rfl := (List.cons.inj heq).1
    exact absurd (by decide) hc
  · exact hread

theorem number_of_not_isDigit {c : Char} (negative : Bool) (start more : List Char) (hc : c.isDigit = false) :
    number negative start (c :: more) = .error (.problem .value start) := by
  have hwhole : wholeDigits (c :: more) = [] := by
    unfold wholeDigits
    split
    · next heq =>
        rw [(List.cons.inj heq).1] at hc
        cases hc
    · rw [takeDigits, List.takeWhile_cons, if_neg (by rw [hc]; exact Bool.false_ne_true)]
  rw [number, hwhole]
  rfl

theorem value_text (steps depth : Nat) (more : List Char) :
    value (steps + 1) depth ('\x22' :: more) =
      (stringRest ('\x22' :: more) 0 more).map fun r => (.text (String.ofList r.1), r.2) := rfl

theorem value_array_zero (steps : Nat) (more : List Char) : value (steps + 1) 0 ('[' :: more) = .error .tooDeep := rfl

theorem value_array_succ (steps inner : Nat) (more : List Char) :
    value (steps + 1) (inner + 1) ('[' :: more) =
      match skipBlanks more with
      | ']' :: after => .ok (.array [], after)
      | first => (items steps inner first).map fun r => (.array r.1, r.2) := rfl

theorem value_object_zero (steps : Nat) (more : List Char) : value (steps + 1) 0 ('\x7b' :: more) = .error .tooDeep := rfl

theorem value_object_succ (steps inner : Nat) (more : List Char) :
    value (steps + 1) (inner + 1) ('\x7b' :: more) =
      match skipBlanks more with
      | '\x7d' :: after => .ok (.object [], after)
      | first => (fields steps inner first).map fun r => (.object (Fields.ofList r.1), r.2) := rfl

theorem items_succ (steps depth : Nat) (cs : List Char) :
    items (steps + 1) depth cs =
      match value steps depth cs with
      | .error e => .error e
      | .ok (v, rest) =>
        match skipBlanks rest with
        | ']' :: after => .ok ([v], after)
        | ',' :: next => (items steps depth (skipBlanks next)).map fun r => (v :: r.1, r.2)
        | other => .error (.problem .comma other) := rfl

/-! ### Strings -/

/-- The characters of an escape that has been read are passed over. -/
theorem stringRest_skip (start xs rest : List Char) :
    stringRest start xs.length (xs ++ rest) = stringRest start 0 rest := by
  induction xs with
  | nil => rfl
  | cons x xs ih => exact (stringRest_succ start xs.length x (xs ++ rest)).trans ih

/-- The four digits of a control character, read back. -/
def unitReadsBack (n : Nat) : Bool :=
  match Text.hexDigits 4 n with
  | [a, b, c, d] => hexQuad? a b c d == some n
  | _ => false

theorem hexDigits_control {n : Nat} (h : n < 0x20) :
    ∃ a b c d, Text.hexDigits 4 n = [a, b, c, d] ∧ hexQuad? a b c d = some n := by
  have hall : ∀ n < 0x20, unitReadsBack n = true := by decide
  have hn := hall n h
  unfold unitReadsBack at hn
  split at hn
  · next a b c d hd => exact ⟨a, b, c, d, hd, by simpa using hn⟩
  · simp at hn

/-- An escape stands for one character, and takes the characters after its backslash. -/
theorem stringRest_escape {start rest : List Char} {c : Char} (xs : List Char)
    (h : escapeAt start (xs ++ rest) = .ok (c, xs.length)) :
    stringRest start 0 ('\\' :: xs ++ rest) = (stringRest start 0 rest).map fun r => (c :: r.1, r.2) := by
  simp only [List.cons_append, stringRest_zero, h, Char.reduceEq, if_false, if_true, stringRest_skip]

theorem escapeAt_simple {c d : Char} (start rest : List Char) (hu : c ≠ 'u') (h : simpleEscape? c = some d) :
    escapeAt start (c :: rest) = .ok (d, 1) := by
  unfold escapeAt
  split
  · next heq => cases heq
  · next heq => exact absurd (List.cons.inj heq).1 hu
  · next heq => exact absurd (List.cons.inj heq).1 hu
  · next heq =>
      obtain ⟨rfl, rfl⟩ := List.cons.inj heq
      rw [h]

theorem escapeAt_unit {a b c d e : Char} {n : Nat} (start rest : List Char) (h : hexQuad? a b c d = some n)
    (hn : n < 0x20) : escapeAt start ('u' :: a :: b :: c :: d :: e :: rest) = .ok (Char.ofNat n, 5) := by
  have hh : isHighHalf n = false := by
    simp only [isHighHalf, Bool.and_eq_false_iff, decide_eq_false_iff_not]
    omega
  have hl : isLowHalf n = false := by
    simp only [isLowHalf, Bool.and_eq_false_iff, decide_eq_false_iff_not]
    omega
  simp only [escapeAt, h, hh, charOfUnit, hl, Bool.or_self, Bool.false_eq_true, if_false]

/-- A written character is read back. Something always follows it, at the least the closing quote. -/
theorem stringRest_escaped (start : List Char) (c e : Char) (rest : List Char) :
    stringRest start 0 (escaped c ++ e :: rest) =
      (stringRest start 0 (e :: rest)).map fun r => (c :: r.1, r.2) := by
  unfold escaped
  split_ifs with h1 h2 h3 h4 h5 h6 h7
  · refine stringRest_escape [c] (escapeAt_simple _ _ ?_ ?_)
    · rintro rfl
      simp at h1
    · rcases h1 with rfl | rfl <;> rfl
  · rw [h2]
    exact stringRest_escape ['n'] (escapeAt_simple _ _ (by decide) rfl)
  · rw [h3]
    exact stringRest_escape ['r'] (escapeAt_simple _ _ (by decide) rfl)
  · rw [h4]
    exact stringRest_escape ['t'] (escapeAt_simple _ _ (by decide) rfl)
  · rw [h5]
    exact stringRest_escape ['f'] (escapeAt_simple _ _ (by decide) rfl)
  · rw [h6]
    exact stringRest_escape ['b'] (escapeAt_simple _ _ (by decide) rfl)
  · obtain ⟨x, y, z, w, hd, hq⟩ := hexDigits_control h7
    rw [hd]
    have he := escapeAt_unit (e := e) start rest hq h7
    rw [Char.ofNat_toNat] at he
    exact stringRest_escape ['u', x, y, z, w] he
  · simp only [not_or] at h1
    simp only [List.cons_append, List.nil_append, stringRest_zero, h1.1, h1.2, h7, if_false]

theorem stringRest_flatMap (start cs rest : List Char) :
    stringRest start 0 (cs.flatMap escaped ++ '\x22' :: rest) = .ok (cs, rest) := by
  induction cs with
  | nil => rfl
  | cons c cs ih =>
      rw [List.flatMap_cons, List.append_assoc]
      obtain ⟨e, more, he⟩ : ∃ e more, cs.flatMap escaped ++ '\x22' :: rest = e :: more := by
        cases h : cs.flatMap escaped ++ '\x22' :: rest with
        | nil => simp at h
        | cons e more => exact ⟨e, more, rfl⟩
      rw [he, stringRest_escaped, ← he, ih]
      rfl

/-! ### Values -/

/-- Characters that may stand right after a value: none, or some that start with a comma or a closing
bracket. -/
def Delimits (rest : List Char) : Prop :=
  ∀ c ∈ rest.head?, c = ',' ∨ c = ']' ∨ c = '\x7d'

/-- A value is read back from its written form, whatever follows it, with as many steps as it has characters
and the given depth to spare. -/
def ReadsBack (depth : Nat) (v : Value) : Prop :=
  ∀ steps rest, Delimits rest → (chars v).length ≤ steps → value steps depth (chars v ++ rest) = .ok (v, rest)

/-- What is read as a value starts with a character that is neither blank nor a closing bracket. -/
theorem head_of_value {steps depth : Nat} {cs : List Char} {r : Value × List Char}
    (h : value steps depth cs = .ok r) :
    ∃ c more, cs = c :: more ∧ isBlank c = false ∧ c ≠ ']' ∧ c ≠ '\x7d' := by
  cases steps with
  | zero =>
      rw [value_zero] at h
      cases h
  | succ steps =>
      cases cs with
      | nil =>
          rw [value_nil] at h
          cases h
      | cons c more =>
          have hstops : c ∉ [' ', '\t', '\n', '\r', ']', '\x7d'] := by
            intro hmem
            simp only [List.mem_cons, List.not_mem_nil, or_false] at hmem
            have hnumber : value (steps + 1) depth (c :: more) = number false (c :: more) (c :: more) := by
              rcases hmem with rfl | rfl | rfl | rfl | rfl | rfl <;>
                exact (value_scalar steps depth more (by decide)).trans (scalar_other more (by decide))
            have hdigit : c.isDigit = false := by
              rcases hmem with rfl | rfl | rfl | rfl | rfl | rfl <;> rfl
            rw [hnumber, number_of_not_isDigit _ _ _ hdigit] at h
            cases h
          simp only [List.mem_cons, List.not_mem_nil, or_false, not_or] at hstops
          obtain ⟨hspace, htab, hfeed, hreturn, hbracket, hbrace⟩ := hstops
          exact ⟨c, more, rfl, by simp [isBlank, hspace, htab, hfeed, hreturn], hbracket, hbrace⟩

theorem delimits_nil : Delimits [] := by
  simp [Delimits]

theorem delimits_cons {c : Char} {rest : List Char} (h : c = ',' ∨ c = ']' ∨ c = '\x7d') :
    Delimits (c :: rest) := by
  simpa [Delimits] using h

theorem skipBlanks_cons {c : Char} (rest : List Char) (h : isBlank c = false) :
    skipBlanks (c :: rest) = c :: rest := by
  rw [skipBlanks, List.dropWhile_cons, h, if_neg (by simp)]

theorem skipBlanks_blank (rest : List Char) : skipBlanks (' ' :: rest) = skipBlanks rest := by
  rw [skipBlanks, List.dropWhile_cons, if_pos (by decide), skipBlanks]

theorem ReadsBack.value_eq {depth steps : Nat} {v : Value} {rest : List Char} (h : ReadsBack depth v)
    (hrest : Delimits rest) (hsteps : (chars v).length ≤ steps) :
    value steps depth (chars v ++ rest) = .ok (v, rest) :=
  h steps rest hrest hsteps

theorem ReadsBack.head {depth : Nat} {v : Value} (h : ReadsBack depth v) :
    ∃ c more, chars v = c :: more ∧ isBlank c = false ∧ c ≠ ']' ∧ c ≠ '\x7d' := by
  have hv := h.value_eq delimits_nil (Nat.le_refl _)
  rw [List.append_nil] at hv
  exact head_of_value hv

theorem readsBack_text (depth : Nat) (s : String) : ReadsBack depth (.text s) := by
  intro steps rest _ hsteps
  obtain ⟨steps, rfl⟩ : ∃ n, steps = n + 1 := ⟨steps - 1, by
    simp only [chars_text, stringChars, List.cons_append, List.length_cons] at hsteps
    omega⟩
  simp only [chars_text, stringChars, List.cons_append, List.append_assoc, List.nil_append, value_text,
    stringRest_flatMap, Except.map, String.ofList_toList]

/-- The items start as the first of them does. -/
theorem exists_charsOfItems {c : Char} {more : List Char} {v : Value} (h : chars v = c :: more) (vs : List Value) :
    ∃ tail, charsOfItems (v :: vs) = c :: tail := by
  cases vs with
  | nil => exact ⟨more, h⟩
  | cons w ws =>
      rw [charsOfItems_cons_cons, h]
      exact ⟨_, rfl⟩

theorem exists_charsOfFields (p : String × Value) (fs : List (String × Value)) :
    ∃ tail, charsOfFields (p :: fs) = '\x22' :: tail := by
  obtain ⟨name, v⟩ := p
  cases fs with
  | nil => exact ⟨_, rfl⟩
  | cons q qs => exact ⟨_, rfl⟩

/-- Items that each read back are read back as a list. -/
theorem items_charsOfItems {depth : Nat} {vs : List Value} (hne : vs ≠ []) (h : ∀ v ∈ vs, ReadsBack depth v)
    (rest : List Char) (steps : Nat) (hsteps : (charsOfItems vs).length < steps) :
    items steps depth (charsOfItems vs ++ ']' :: rest) = .ok (vs, rest) := by
  induction vs generalizing steps with
  | nil => exact absurd rfl hne
  | cons v vs ih =>
      obtain ⟨steps, rfl⟩ : ∃ n, steps = n + 1 := ⟨steps - 1, by omega⟩
      have hv := h v List.mem_cons_self
      cases vs with
      | nil =>
          rw [charsOfItems_singleton] at hsteps ⊢
          rw [items_succ, hv.value_eq (delimits_cons (by simp)) (by omega)]
          simp only [skipBlanks_cons rest (show isBlank ']' = false by decide)]
      | cons w ws =>
          have hw := ih (by simp) (fun u hu => h u (List.mem_cons_of_mem _ hu)) steps
          obtain ⟨c, more, hc, hblank, -, -⟩ := (h w (by simp)).head
          obtain ⟨tail, htail⟩ := exists_charsOfItems hc ws
          simp only [charsOfItems_cons_cons, List.length_append, List.length_cons] at hsteps
          simp only [charsOfItems_cons_cons, List.append_assoc, List.cons_append]
          rw [items_succ, hv.value_eq (delimits_cons (by simp)) (by omega)]
          simp only [skipBlanks_cons _ (show isBlank ',' = false by decide), skipBlanks_blank]
          rw [htail, List.cons_append, skipBlanks_cons _ hblank, ← List.cons_append, ← htail, hw (by omega)]
          rfl

/-- An array reads back if its items do. -/
theorem readsBack_array {depth : Nat} {vs : List Value} (h : ∀ v ∈ vs, ReadsBack depth v) :
    ReadsBack (depth + 1) (.array vs) := by
  intro steps rest _ hsteps
  simp only [chars_array, List.cons_append, List.length_cons, List.length_append] at hsteps
  obtain ⟨steps, rfl⟩ : ∃ n, steps = n + 1 := ⟨steps - 1, by omega⟩
  simp only [chars_array, List.cons_append, List.append_assoc, List.nil_append, value_array_succ]
  cases vs with
  | nil =>
      simp only [charsOfItems_nil, List.nil_append, skipBlanks_cons rest (show isBlank ']' = false by decide)]
  | cons v vs =>
      obtain ⟨c, more, hc, hblank, hbracket, -⟩ := (h v List.mem_cons_self).head
      obtain ⟨tail, htail⟩ := exists_charsOfItems hc vs
      have hitems := items_charsOfItems (by simp) h rest steps (by omega)
      rw [htail] at hitems
      rw [htail, List.cons_append, skipBlanks_cons _ hblank]
      split
      · next heq => exact absurd (List.cons.inj heq).1 hbracket
      · rw [← List.cons_append, hitems]
        rfl

/-- Fields whose values each read back are read back as a list of pairs. -/
theorem fields_charsOfFields {depth : Nat} {fs : List (String × Value)} (hne : fs ≠ [])
    (h : ∀ p ∈ fs, ReadsBack depth p.2) (rest : List Char) (steps : Nat)
    (hsteps : (charsOfFields fs).length < steps) :
    fields steps depth (charsOfFields fs ++ '\x7d' :: rest) = .ok (fs, rest) := by
  induction fs generalizing steps with
  | nil => exact absurd rfl hne
  | cons p fs ih =>
      obtain ⟨name, v⟩ := p
      obtain ⟨steps, rfl⟩ : ∃ n, steps = n + 1 := ⟨steps - 1, by omega⟩
      have hv : ReadsBack depth v := h (name, v) List.mem_cons_self
      obtain ⟨d, tail, hd, hdb, -, -⟩ := hv.head
      have hblank (more : List Char) : skipBlanks (chars v ++ more) = chars v ++ more := by
        rw [hd, List.cons_append, skipBlanks_cons _ hdb]
      cases fs with
      | nil =>
          simp only [charsOfFields_singleton, stringChars, List.cons_append, List.append_assoc, List.length_cons,
            List.length_append] at hsteps ⊢
          simp only [fields, List.nil_append, stringRest_flatMap,
            skipBlanks_cons _ (show isBlank ':' = false by decide), skipBlanks_blank, hblank]
          rw [hv.value_eq (delimits_cons (by simp)) (by omega)]
          simp only [skipBlanks_cons rest (show isBlank '\x7d' = false by decide), String.ofList_toList]
      | cons q qs =>
          have hq := ih (by simp) (fun u hu => h u (List.mem_cons_of_mem _ hu)) steps
          obtain ⟨tail', htail⟩ := exists_charsOfFields q qs
          simp only [charsOfFields_cons_cons, stringChars, List.cons_append, List.append_assoc, List.length_cons,
            List.length_append] at hsteps
          simp only [charsOfFields_cons_cons, stringChars, List.cons_append, List.append_assoc]
          simp only [fields, List.nil_append, stringRest_flatMap,
            skipBlanks_cons _ (show isBlank ':' = false by decide), skipBlanks_blank, hblank]
          rw [hv.value_eq (delimits_cons (by simp)) (by omega)]
          simp only [skipBlanks_cons _ (show isBlank ',' = false by decide), skipBlanks_blank]
          rw [htail, List.cons_append, skipBlanks_cons _ (by decide), ← List.cons_append, ← htail, hq (by omega)]
          simp only [Except.map, String.ofList_toList]

/-- An object reads back if the values of its fields do and none of its names comes twice. -/
theorem readsBack_object (depth : Nat) {fs : Fields} (h : ∀ p ∈ fs, ReadsBack depth p.2)
    (hd : Fields.ofList fs = fs) : ReadsBack (depth + 1) (.object fs) := by
  intro steps rest _ hsteps
  simp only [chars_object, List.cons_append, List.length_cons, List.length_append] at hsteps
  obtain ⟨steps, rfl⟩ : ∃ n, steps = n + 1 := ⟨steps - 1, by omega⟩
  simp only [chars_object, List.cons_append, List.append_assoc, List.nil_append, value_object_succ]
  cases fs with
  | nil =>
      simp only [charsOfFields_nil, List.nil_append, skipBlanks_cons rest (show isBlank '\x7d' = false by decide)]
  | cons p fs =>
      obtain ⟨tail, htail⟩ := exists_charsOfFields p fs
      have hfields := fields_charsOfFields (by simp) h rest steps (by omega)
      rw [htail] at hfields
      rw [htail, List.cons_append, skipBlanks_cons _ (by decide)]
      split
      · next heq => exact absurd (List.cons.inj heq).1 (by decide)
      · rw [← List.cons_append, hfields]
        simp only [Except.map, hd]

/-- A value that reads back within the depth of a document is the document of its written form. -/
theorem document_chars {v : Value} (h : ReadsBack depthLimit v) (hmark : (chars v).head? ≠ some '\ufeff') :
    document (chars v) = .ok v := by
  obtain ⟨c, more, hc, hblank, -, -⟩ := h.head
  have hv := h (2 * (chars v).length + 2) [] delimits_nil (by omega)
  rw [List.append_nil, hc] at hv
  rw [hc] at hmark ⊢
  unfold document
  split
  · next heq => exact absurd (congrArg some (List.cons.inj heq).1) hmark
  · rw [skipBlanks_cons _ hblank, hv]
    rfl

/-! ### Characters -/

theorem le_of_mem_pair {x y d : Char} (hx : 0x20 ≤ x.toNat) (hy : 0x20 ≤ y.toNat) (h : d ∈ [x, y]) :
    0x20 ≤ d.toNat := by
  simp only [List.mem_cons, List.not_mem_nil, or_false] at h
  rcases h with rfl | rfl <;> assumption

theorem le_of_mem_hexDigits {n : Nat} {d : Char} (hn : n < 0x20) (h : d ∈ Text.hexDigits 4 n) : 0x20 ≤ d.toNat := by
  have hall : ∀ n < 0x20, ((Text.hexDigits 4 n).all fun d => 0x20 ≤ d.toNat) = true := by decide
  exact of_decide_eq_true (List.all_eq_true.1 (hall n hn) d h)

/-- No control character stands for itself in a written string. -/
theorem le_of_mem_escaped {c d : Char} (h : d ∈ escaped c) : 0x20 ≤ d.toNat := by
  unfold escaped at h
  split_ifs at h with h1 h2 h3 h4 h5 h6 h7
  · exact le_of_mem_pair (by decide) (by rcases h1 with rfl | rfl <;> decide) h
  · exact le_of_mem_pair (by decide) (by decide) h
  · exact le_of_mem_pair (by decide) (by decide) h
  · exact le_of_mem_pair (by decide) (by decide) h
  · exact le_of_mem_pair (by decide) (by decide) h
  · exact le_of_mem_pair (by decide) (by decide) h
  · rcases List.mem_cons.1 h with rfl | h
    · decide
    rcases List.mem_cons.1 h with rfl | h
    · decide
    exact le_of_mem_hexDigits h7 h
  · rw [List.mem_singleton.1 h]
    omega

theorem le_of_mem_stringChars {cs : List Char} {d : Char} (h : d ∈ stringChars cs) : 0x20 ≤ d.toNat := by
  simp only [stringChars, List.cons_append, List.mem_cons, List.mem_append, List.mem_flatMap,
    List.not_mem_nil, or_false] at h
  rcases h with rfl | ⟨c, -, hd⟩ | rfl
  · decide
  · exact le_of_mem_escaped hd
  · decide

/-- No control character is in the written form of a value. -/
def OnOneLine (v : Value) : Prop :=
  ∀ d ∈ chars v, 0x20 ≤ d.toNat

theorem onOneLine_text (s : String) : OnOneLine (.text s) :=
  fun _ hd => le_of_mem_stringChars hd

theorem onOneLine_array {vs : List Value} (h : ∀ v ∈ vs, OnOneLine v) : OnOneLine (.array vs) := by
  have hitems : ∀ d ∈ charsOfItems vs, 0x20 ≤ d.toNat := by
    induction vs with
    | nil => simp [charsOfItems_nil]
    | cons v vs ih =>
        have hv := h v List.mem_cons_self
        have hvs := ih fun u hu => h u (List.mem_cons_of_mem _ hu)
        cases vs with
        | nil => exact hv
        | cons w ws =>
            intro d hd
            simp only [charsOfItems_cons_cons, List.mem_append, List.mem_cons] at hd
            rcases hd with hd | rfl | rfl | hd
            · exact hv d hd
            · decide
            · decide
            · exact hvs d hd
  intro d hd
  simp only [chars_array, List.cons_append, List.mem_cons, List.mem_append, List.not_mem_nil, or_false] at hd
  rcases hd with rfl | hd | rfl
  · decide
  · exact hitems d hd
  · decide

theorem onOneLine_object {fs : Fields} (h : ∀ p ∈ fs, OnOneLine p.2) : OnOneLine (.object fs) := by
  have hfields : ∀ d ∈ charsOfFields fs, 0x20 ≤ d.toNat := by
    induction fs with
    | nil => simp [charsOfFields_nil]
    | cons p fs ih =>
        obtain ⟨name, v⟩ := p
        have hv : OnOneLine v := h (name, v) List.mem_cons_self
        have hfs := ih fun q hq => h q (List.mem_cons_of_mem _ hq)
        cases fs with
        | nil =>
            intro d hd
            simp only [charsOfFields_singleton, List.mem_append, List.mem_cons] at hd
            rcases hd with hd | rfl | rfl | hd
            · exact le_of_mem_stringChars hd
            · decide
            · decide
            · exact hv d hd
        | cons q qs =>
            intro d hd
            simp only [charsOfFields_cons_cons, List.mem_append, List.mem_cons] at hd
            rcases hd with (hd | rfl | rfl | hd) | rfl | rfl | hd
            · exact le_of_mem_stringChars hd
            · decide
            · decide
            · exact hv d hd
            · decide
            · decide
            · exact hfs d hd
  intro d hd
  simp only [chars_object, List.cons_append, List.mem_cons, List.mem_append, List.not_mem_nil, or_false] at hd
  rcases hd with rfl | hd | rfl
  · decide
  · exact hfields d hd
  · decide

end RequirePath.Json
