import XQueryScope.Proofs.Text.Blank
import XQueryScope.Text.Numeral

/-!
# What a numeral denotes

`Numeral cs n` says that `cs` is a string of decimal digits for the number `n`, leading zeros
allowed.  Every non-empty string of digits is a numeral (`numeral_iff`), and there is no largest
one; a reader for a bounded range finds the number if it lies in the range, and nothing if it lies
beyond (`Numeral.readBelow?_eq`).
-/

namespace XQueryScope.Text

variable {c : Char} {cs : List Char} {n k : Nat}

/-- `cs` is a string of decimal digits, at least one, that denotes `n`. -/
inductive Numeral : List Char → Nat → Prop where
  | digit {k : Nat} : k < 10 → Numeral [Nat.digitChar k] k
  | append {cs : List Char} {n k : Nat} : Numeral cs n → k < 10 →
      Numeral (cs ++ [Nat.digitChar k]) (10 * n + k)

/-! ## 1. Digits -/

theorem digitValue_digitChar (hk : k < 10) : digitValue (Nat.digitChar k) = k := by
  rw [digitValue, Nat.toNat_digitChar_of_lt_ten hk]
  exact Nat.add_sub_cancel_left 48 k

theorem exists_digitChar (h : c.isDigit = true) : ∃ k < 10, c = Nat.digitChar k := by
  have hrange : 48 ≤ c.toNat ∧ c.toNat ≤ 57 := by
    simp only [Char.isDigit, Bool.and_eq_true, decide_eq_true_eq, UInt32.le_iff_toNat_le] at h
    exact h
  refine ⟨c.toNat - 48, by omega, Char.toNat_inj.mp ?_⟩
  rw [Nat.toNat_digitChar_of_lt_ten (by omega)]
  omega

theorem isBlank_of_isDigit (h : c.isDigit = true) : isBlank c = false := by
  obtain ⟨k, hk, rfl⟩ := exists_digitChar h
  have hall : ∀ k < 10, isBlank (Nat.digitChar k) = false := by decide
  exact hall k hk

theorem digitsValue_append (cs : List Char) (c : Char) :
    digitsValue (cs ++ [c]) = 10 * digitsValue cs + digitValue c := by
  simp [digitsValue]

/-! ## 2. Numerals -/

theorem Numeral.isNumeral (h : Numeral cs n) : isNumeral cs = true := by
  induction h with
  | digit hk => simp [Text.isNumeral, Nat.isDigit_digitChar, hk]
  | append _ hk ih =>
    simp only [Text.isNumeral, Bool.and_eq_true] at ih ⊢
    simp [ih.2, Nat.isDigit_digitChar, hk]

theorem Numeral.digitsValue_eq (h : Numeral cs n) : digitsValue cs = n := by
  induction h with
  | digit hk => simp [digitsValue, digitValue_digitChar hk]
  | append _ hk ih => rw [digitsValue_append, ih, digitValue_digitChar hk]

/-- **Every string of digits is a numeral.** -/
theorem numeral_digitsValue (h : isNumeral cs = true) : Numeral cs (digitsValue cs) := by
  -- by the length of the string, the last digit being split off
  induction hlen : cs.length generalizing cs with
  | zero =>
    rw [List.length_eq_zero_iff.mp hlen] at h
    cases h
  | succ len ih =>
    rcases cs.eq_nil_or_concat with rfl | ⟨front, c, rfl⟩
    · cases h
    rw [List.concat_eq_append] at h hlen ⊢
    simp only [isNumeral, Bool.and_eq_true, List.all_append, List.all_cons, List.all_nil] at h
    obtain ⟨k, hk, rfl⟩ := exists_digitChar h.2.2.1
    rw [digitsValue_append, digitValue_digitChar hk]
    cases front with
    | nil =>
      have hone : 10 * digitsValue [] + k = k := by simp [digitsValue]
      rw [hone]
      exact .digit hk
    | cons x front =>
      refine .append (ih ?_ (by simpa using hlen)) hk
      simpa [isNumeral] using h.2.1

theorem numeral_iff :
    Numeral cs n ↔ cs ≠ [] ∧ (∀ c ∈ cs, c.isDigit = true) ∧ digitsValue cs = n := by
  have hdigits : isNumeral cs = true ↔ cs ≠ [] ∧ ∀ c ∈ cs, c.isDigit = true := by
    simp [isNumeral]
  rw [← and_assoc, ← hdigits]
  constructor
  · intro h
    exact ⟨h.isNumeral, h.digitsValue_eq⟩
  · rintro ⟨h, rfl⟩
    exact numeral_digitsValue h

/-! ## 3. Reading a numeral -/

theorem Numeral.bare (h : Numeral cs n) : Bare cs := by
  have hdigits := (numeral_iff.mp h).2.1
  constructor
  · intro c hc
    exact isBlank_of_isDigit (hdigits c (List.mem_of_mem_head? hc))
  · intro c hc
    exact isBlank_of_isDigit (hdigits c (List.mem_of_mem_getLast? hc))

theorem Numeral.readNat?_eq (h : Numeral cs n) : readNat? cs = some n := by
  have hplain : unsigned cs = cs := by
    unfold unsigned
    split
    · exact absurd ((numeral_iff.mp h).2.1 '+' List.mem_cons_self) (by decide)
    · rfl
  rw [readNat?, hplain, if_pos h.isNumeral, h.digitsValue_eq]

/-- **A bounded reader** finds the numbers below its bound and refuses the others. -/
theorem Numeral.readBelow?_eq (h : Numeral cs n) (bound : Nat) :
    readBelow? bound cs = if n < bound then some n else none := by
  rw [readBelow?, h.readNat?_eq, Option.filter_some]
  simp

/-- A reader takes the numerals, with one plus sign in front or without. -/
theorem readNat?_eq_some_iff :
    readNat? cs = some n ↔ ∃ ds, (cs = ds ∨ cs = '+' :: ds) ∧ Numeral ds n := by
  constructor
  · intro h
    have hsign : cs = unsigned cs ∨ cs = '+' :: unsigned cs := by
      unfold unsigned
      split
      · exact .inr rfl
      · exact .inl rfl
    rw [readNat?, Option.ite_none_right_eq_some, Option.some.injEq] at h
    exact ⟨unsigned cs, hsign, h.2 ▸ numeral_digitsValue h.1⟩
  · rintro ⟨ds, rfl | rfl, h⟩
    · exact h.readNat?_eq
    · have hplain : unsigned ('+' :: ds) = ds := rfl
      rw [readNat?, hplain, if_pos h.isNumeral, h.digitsValue_eq]

theorem readBelow?_eq_some_iff {bound : Nat} : readBelow? bound cs = some n ↔
    n < bound ∧ ∃ ds, (cs = ds ∨ cs = '+' :: ds) ∧ Numeral ds n := by
  rw [readBelow?, Option.filter_eq_some_iff, readNat?_eq_some_iff, decide_eq_true_eq, and_comm]

end XQueryScope.Text
