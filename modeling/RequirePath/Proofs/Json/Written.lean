import RequirePath.Proofs.Json.Completeness
import RequirePath.Proofs.Json.Fields
import RequirePath.Proofs.Json.LineEnds
import RequirePath.Proofs.Json.RoundTrip

/-! The written form of a value is a document of that value, whatever the depth of its brackets and the digits of its integers
are. It has no control characters in it, so it stays on one line. Numbers that are no integers are left out, since those are
written with the digits that tell them apart from others. -/

namespace RequirePath

/-- A value without fractions whose objects give each name once, with integers of so many digits at the most and brackets of
such a depth at the most. -/
inductive Value.Fits (digits : Nat) : Nat → Value → Prop
  | null {depth : Nat} : Fits digits depth .null
  | bool {depth : Nat} (b : Bool) : Fits digits depth (.bool b)
  | int {depth : Nat} {n : Int} (h : (Nat.toDigits 10 n.natAbs).length ≤ digits) : Fits digits depth (.int n)
  | text {depth : Nat} (s : String) : Fits digits depth (.text s)
  | array {depth : Nat} {vs : List Value} (h : ∀ v ∈ vs, Fits digits depth v) : Fits digits (depth + 1) (.array vs)
  | object {depth : Nat} {fs : Fields} (hd : Fields.Distinct fs) (h : ∀ p ∈ fs, Fits digits depth p.2) :
      Fits digits (depth + 1) (.object fs)

namespace Json

variable {digits depth n : Nat} {v : Value} {vs : List Value} {fs : Fields} {b : List Char}

/-! ### Numbers -/

theorem digitsValue_toDigits (n : Nat) : Text.digitsValue (Nat.toDigits 10 n) = n := by
  have hvalue : Text.digitsValue (Nat.toDigits 10 n) = Nat.ofDigitChars 10 (Nat.toDigits 10 n) 0 := by
    unfold Text.digitsValue Nat.ofDigitChars
    simp only [Nat.mul_comm]
  rw [hvalue, Nat.ofDigitChars_toDigits (by decide) (by decide)]

/-- No number but zero starts with a zero. -/
theorem head?_toDigits (h : 0 < n) : (Nat.toDigits 10 n).head? ≠ some '0' := by
  -- on the number, whose first digit is that of its tenth
  induction n using Nat.strongRecOn with
  | ind n ih =>
      by_cases hn : n < 10
      · rw [Nat.toDigits_of_lt_base hn]
        have hall : ∀ n < 10, 0 < n → [Nat.digitChar n].head? ≠ some '0' := by decide
        exact hall n hn h
      · obtain ⟨d, more, htenth⟩ := List.exists_cons_of_ne_nil (Nat.toDigits_ne_nil (n := n / 10) (b := 10))
        have hlead := ih (n / 10) (by omega) (by omega)
        rw [htenth] at hlead
        rw [Nat.toDigits_of_base_le (by decide) (by omega), htenth]
        exact hlead

theorem isWhole_toDigits (n : Nat) : IsWhole (Nat.toDigits 10 n) := by
  by_cases hn : n = 0
  · subst hn
    exact Or.inl (by decide)
  · exact Or.inr ⟨⟨Nat.toDigits_ne_nil, fun c hc => Nat.isDigit_of_mem_toDigits (by decide) (by decide) hc⟩,
      head?_toDigits (Nat.pos_of_ne_zero hn)⟩

theorem chars_ofNat (n : Nat) : chars (.int (.ofNat n)) = Nat.toDigits 10 n := Nat.toList_repr

theorem chars_negSucc (n : Nat) : chars (.int (.negSucc n)) = '-' :: Nat.toDigits 10 (n + 1) := by
  show ("-" ++ Nat.repr (n + 1)).toList = _
  rw [String.toList_append, Nat.toList_repr]
  rfl

theorem spells_int {n : Int} (h : (Nat.toDigits 10 n.natAbs).length ≤ digits) :
    Spells digits depth (.value (.int n)) (chars (.int n)) := by
  cases n with
  | ofNat n =>
      have hnumeral : IsNumeral digits false _ _ := .int (isWhole_toDigits n) h
      rw [digitsValue_toDigits] at hnumeral
      rw [chars_ofNat]
      exact .positive hnumeral
  | negSucc n =>
      have hnumeral : IsNumeral digits true _ _ := .int (isWhole_toDigits (n + 1)) h
      rw [digitsValue_toDigits] at hnumeral
      rw [chars_negSucc]
      exact .negative hnumeral

/-! ### Strings -/

theorem isQuoted_escaped (cs : List Char) : IsQuoted cs (cs.flatMap escaped ++ ['\x22']) := by
  obtain ⟨spelled, heq, h⟩ := stringRest_sound [] (stringRest_flatMap [] cs [])
  rwa [List.append_nil, ← heq] at *

theorem spells_text (s : String) : Spells digits depth (.value (.text s)) (chars (.text s)) := by
  have h : Spells digits depth (.value (.text (String.ofList s.toList))) _ := .text (isQuoted_escaped s.toList)
  rwa [String.ofList_toList] at h

/-! ### Values -/

theorem blank_nil : Blank [] := nofun

theorem blank_space : Blank [' '] := by
  intro c hc
  rw [List.mem_singleton.1 hc]
  rfl

/-- Items that are each spelled are spelled with commas between them, whatever blanks stand before the first. -/
theorem spells_items (hne : vs ≠ []) (h : ∀ v ∈ vs, Spells digits depth (.value v) (chars v)) (hb : Blank b) :
    Spells digits (depth + 1) (.items vs) (b ++ (charsOfItems vs ++ [']'])) := by
  induction vs generalizing b with
  | nil => exact absurd rfl hne
  | cons v vs ih =>
      have hv := h v List.mem_cons_self
      cases vs with
      | nil => exact .lastItem hb hv blank_nil
      | cons w ws =>
          have hmore := ih (List.cons_ne_nil _ _) (fun u hu => h u (List.mem_cons_of_mem _ hu)) blank_space
          have hall := Spells.item hb hv blank_nil hmore
          simpa only [charsOfItems_cons_cons, List.append_assoc, List.cons_append, List.nil_append] using hall

theorem spells_fields (hne : fs ≠ []) (h : ∀ p ∈ fs, Spells digits depth (.value p.2) (chars p.2)) (hb : Blank b) :
    Spells digits (depth + 1) (.fields fs) (b ++ (charsOfFields fs ++ ['\x7d'])) := by
  induction fs generalizing b with
  | nil => exact absurd rfl hne
  | cons p fs ih =>
      obtain ⟨name, v⟩ := p
      have hv := h (name, v) List.mem_cons_self
      have hname := isQuoted_escaped name.toList
      cases fs with
      | nil =>
          have hall := Spells.lastField hb hname blank_nil blank_space hv blank_nil
          simpa only [charsOfFields_singleton, stringChars, List.append_assoc, List.cons_append, List.nil_append,
            String.ofList_toList] using hall
      | cons q qs =>
          have hmore := ih (List.cons_ne_nil _ _) (fun u hu => h u (List.mem_cons_of_mem _ hu)) blank_space
          have hall := Spells.field hb hname blank_nil blank_space hv blank_nil hmore
          simpa only [charsOfFields_cons_cons, stringChars, List.append_assoc, List.cons_append, List.nil_append,
            String.ofList_toList] using hall

/-- The written form of a value spells it. -/
theorem spells_chars (h : v.Fits digits depth) : Spells digits depth (.value v) (chars v) := by
  induction h with
  | null => exact .constant .null
  | bool b =>
      cases b with
      | false => exact .constant .false
      | true => exact .constant .true
  | int h => exact spells_int h
  | text s => exact spells_text s
  | @array depth vs h ih =>
      by_cases hne : vs = []
      · subst hne
        exact .emptyArray blank_nil
      · exact .array (spells_items hne ih blank_nil)
  | @object depth fs hd h ih =>
      by_cases hne : fs = []
      · subst hne
        exact .emptyObject blank_nil
      · have hall := Spells.object (spells_fields hne ih blank_nil)
        rwa [Fields.ofList_of_distinct hd] at hall

theorem isDocument_chars (h : v.Fits digits depth) : IsDocument digits depth v (chars v) :=
  ⟨[], chars v, [], blank_nil, spells_chars h, blank_nil, (List.append_nil _).symm⟩

/-- A document within the bounds of the reader is read. -/
theorem IsDocument.document_eq {cs : List Char} (h : IsDocument digits depth v cs) (hdigits : digits ≤ digitLimit)
    (hdepth : depth ≤ depthLimit) : document cs = .ok v := by
  rcases document_complete h with hread | ⟨e, -, ⟨-, hdeep⟩ | ⟨n, -, hmany, hn⟩⟩
  · exact hread
  · omega
  · omega

/-- The written form of a value has no control characters in it. -/
theorem onOneLine_of_fits (h : v.Fits digits depth) : OnOneLine v := by
  induction h with
  | null => exact shown_of_all (by decide)
  | bool b => cases b <;> exact shown_of_all (by decide)
  | @int depth n h =>
      cases n with
      | ofNat n =>
          rw [OnOneLine, chars_ofNat]
          exact (isWhole_toDigits n).isDigits.shown
      | negSucc n =>
          rw [OnOneLine, chars_negSucc]
          exact (isWhole_toDigits (n + 1)).isDigits.shown.cons (by decide)
  | text s => exact onOneLine_text s
  | array h ih => exact onOneLine_array ih
  | object hd h ih => exact onOneLine_object ih

end Json

end RequirePath
