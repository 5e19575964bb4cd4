import PoolOperator.Proofs.Text.Blank
import PoolOperator.Text.Numeral

/-!
# What numerals stand for

A numeral is a row of decimal digits, of which the first ones may be zeros, with or without a plus
sign. Reading one finds the number that its digits stand for, unless that is too large.
-/

namespace PoolOperator.Text

variable {cs : List Char} {c : Char} {n : Nat}

/-- The numerals of a number. -/
inductive Numeral : List Char → Nat → Prop
  | unsigned {cs : List Char} (hne : cs ≠ []) (hdigits : ∀ c ∈ cs, c.isDigit = true) :
      Numeral cs (Nat.ofDigitChars 10 cs 0)
  | signed {cs : List Char} (hne : cs ≠ []) (hdigits : ∀ c ∈ cs, c.isDigit = true) :
      Numeral ('+' :: cs) (Nat.ofDigitChars 10 cs 0)

theorem isDigit_iff : c.isDigit = true ↔ 48 ≤ c.toNat ∧ c.toNat ≤ 57 := by
  rw [Char.isDigit, Bool.and_eq_true, decide_eq_true_eq, decide_eq_true_eq, ge_iff_le,
    UInt32.le_iff_toNat_le, UInt32.le_iff_toNat_le]
  rfl

theorem digit?_ten_eq_some {d : Nat} :
    digit? 10 c = some d ↔ c.isDigit = true ∧ d = c.toNat - 48 := by
  rw [isDigit_iff]
  simp only [digit?, Option.ite_none_right_eq_some, Option.some.injEq]
  split
  · omega
  · -- the digits of larger bases are ten at least
    split <;> try split
    all_goals omega

/-- More digits do not make a number smaller. -/
theorem le_ofDigitChars (cs : List Char) (n : Nat) : n ≤ Nat.ofDigitChars 10 cs n := by
  induction cs generalizing n with
  | nil => exact Nat.le_refl n
  | cons c cs ih =>
    rw [Nat.ofDigitChars_cons]
    exact Nat.le_trans (by omega) (ih _)

theorem readDigits_eq_ok_iff {greatest acc : Nat} (hacc : acc ≤ greatest) :
    readDigits greatest acc cs = .ok n ↔
      (∀ c ∈ cs, c.isDigit = true) ∧ Nat.ofDigitChars 10 cs acc = n ∧ n ≤ greatest := by
  induction cs generalizing acc with
  | nil =>
    simp only [readDigits, Except.ok.injEq, Nat.ofDigitChars_nil]
    grind
  | cons c cs ih =>
    rw [readDigits, List.forall_mem_cons, Nat.ofDigitChars_cons]
    cases hdigit : digit? 10 c with
    | none =>
      refine iff_of_false (fun h => by cases h) ?_
      rintro ⟨⟨hc, -⟩, -⟩
      rw [digit?_ten_eq_some.mpr ⟨hc, rfl⟩] at hdigit
      cases hdigit
    | some d =>
      obtain ⟨hc, rfl⟩ := digit?_ten_eq_some.mp hdigit
      dsimp only
      split
      · -- the number is too large already, and further digits do not change this
        rename_i hlarge
        refine iff_of_false (fun h => by cases h) ?_
        rintro ⟨-, rfl, hle⟩
        have hmore := le_ofDigitChars cs (10 * acc + (c.toNat - '0'.toNat))
        exact absurd (Nat.le_trans hmore hle) (Nat.not_le.mpr hlarge)
      · rename_i hsmall
        rw [ih (Nat.not_lt.mp hsmall)]
        exact ⟨fun h => ⟨⟨hc, h.1⟩, h.2⟩, fun h => ⟨h.1.2, h.2⟩⟩

/-- **Reading a numeral** finds its number, if that is not too large, and reads nothing else. -/
theorem readNumeral_eq_ok_iff {greatest : Nat} :
    readNumeral greatest cs = .ok n ↔ Numeral cs n ∧ n ≤ greatest := by
  have hread (cs : List Char) : readDigits greatest 0 cs = .ok n ↔
      (∀ c ∈ cs, c.isDigit = true) ∧ Nat.ofDigitChars 10 cs 0 = n ∧ n ≤ greatest :=
    readDigits_eq_ok_iff (Nat.zero_le greatest)
  constructor
  · intro h
    unfold readNumeral at h
    split at h
    · cases h
    · cases h
    · rename_i cs hne
      obtain ⟨hdigits, rfl, hle⟩ := (hread cs).mp h
      exact ⟨.signed (fun hnil => hne (by rw [hnil])) hdigits, hle⟩
    · rename_i hne _ _
      obtain ⟨hdigits, rfl, hle⟩ := (hread _).mp h
      exact ⟨.unsigned hne hdigits, hle⟩
  · rintro ⟨hnumeral, hle⟩
    cases hnumeral with
    | unsigned hne hdigits =>
      have hplus : ∀ rest, cs ≠ '+' :: rest := by
        rintro rest rfl
        exact absurd (hdigits '+' List.mem_cons_self) (by decide)
      unfold readNumeral
      split
      · exact absurd rfl hne
      · exact absurd rfl (hplus [])
      · exact absurd rfl (hplus _)
      · exact (hread _).mpr ⟨hdigits, rfl, hle⟩
    | signed hne hdigits =>
      unfold readNumeral
      split
      · rename_i heq
        cases heq
      · rename_i heq
        cases heq
        exact absurd rfl hne
      · rename_i heq
        cases heq
        exact (hread _).mpr ⟨hdigits, rfl, hle⟩
      · rename_i hsigned
        exact (hsigned _ rfl).elim

theorem Numeral.ne_nil (h : Numeral cs n) : cs ≠ [] := by
  cases h with
  | unsigned hne hdigits => exact hne
  | signed hne hdigits => exact List.cons_ne_nil _ _

/-- There is no blank in a numeral. -/
theorem Numeral.isTrimmed (h : Numeral cs n) : IsTrimmed cs := by
  have hdigit {c : Char} (hc : c.isDigit = true) : isBlank c = false := by
    obtain ⟨hleast, hgreatest⟩ := isDigit_iff.mp hc
    exact isBlank_eq_false_of_toNat (by omega) (by omega)
  cases h with
  | unsigned hne hdigits => exact isTrimmed_of_forall fun c hc => hdigit (hdigits c hc)
  | signed hne hdigits =>
    refine isTrimmed_of_forall fun c hc => ?_
    rcases List.mem_cons.mp hc with rfl | hc
    · decide
    · exact hdigit (hdigits c hc)

end PoolOperator.Text
