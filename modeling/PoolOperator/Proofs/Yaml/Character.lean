import Mathlib.Data.List.Basic
import PoolOperator.Yaml.Style
import PoolOperator.Yaml.Token

/-!
# Printable characters

What is written consists of printable characters only. They may all be read, and none of them is
changed when breaks are unified.
-/

namespace PoolOperator.Yaml

/-! ## Classes of characters -/

theorem isAllowed_of_isPrintable {c : Char} (h : isPrintable c = true) : isAllowed c = true := by
  simp only [isPrintable, Bool.or_eq_true, Bool.and_eq_true, decide_eq_true_eq, beq_iff_eq] at h
  simp only [isAllowed, Bool.or_eq_true, Bool.and_eq_true, decide_eq_true_eq, beq_iff_eq]
  omega

theorem ne_of_isPrintable {c d : Char} (hc : isPrintable c = true)
    (hd : isPrintable d = false) : c ≠ d := by
  rintro rfl
  rw [hc] at hd
  contradiction

/-- The only blank that is printable is the space. -/
theorem eq_space_of_isBlank {c : Char} (hc : isPrintable c = true) (hb : isBlank c = true) :
    c = ' ' := by
  have htab : c ≠ '\t' := ne_of_isPrintable hc (by decide)
  simpa [isBlank, htab] using hb

/-! ## Texts -/

/-- Whether a text can be written without escapes. -/
def IsPrintable (cs : List Char) : Prop := ∀ c ∈ cs, isPrintable c = true

instance (cs : List Char) : Decidable (IsPrintable cs) :=
  decidable_of_iff (cs.all isPrintable = true) List.all_eq_true

theorem isPrintable_nil : IsPrintable [] := by
  intro c hc
  cases hc

theorem isPrintable_cons {c : Char} {cs : List Char} :
    IsPrintable (c :: cs) ↔ isPrintable c = true ∧ IsPrintable cs := by
  simp [IsPrintable]

theorem isPrintable_append {cs ds : List Char} :
    IsPrintable (cs ++ ds) ↔ IsPrintable cs ∧ IsPrintable ds := by
  constructor
  · intro h
    exact ⟨fun c hc => h c (List.mem_append_left _ hc),
      fun c hc => h c (List.mem_append_right _ hc)⟩
  · rintro ⟨h₁, h₂⟩ c hc
    rcases List.mem_append.mp hc with hc | hc
    · exact h₁ c hc
    · exact h₂ c hc

theorem hasSpecial_eq_false_iff {cs : List Char} : hasSpecial cs = false ↔ IsPrintable cs := by
  simp [hasSpecial, IsPrintable]

theorem isReadable_of_isPrintable {cs : List Char} (h : IsPrintable cs) :
    isReadable cs = true := by
  rw [isReadable, List.all_eq_true]
  exact fun c hc => isAllowed_of_isPrintable (h c hc)

/-- Printable texts hold line feeds and the two separators of Unicode, but no other breaks. -/
theorem unifyBreaks_eq_self {cs : List Char} (h : IsPrintable cs) : unifyBreaks cs = cs := by
  fun_induction unifyBreaks cs with
  | case1 => rfl
  | case2 cs ih =>
    have hr := (isPrintable_cons.mp h).1
    exact absurd rfl (ne_of_isPrintable hr (by decide))
  | case3 c cs _ ih =>
    obtain ⟨hc, hcs⟩ := isPrintable_cons.mp h
    have hr : c ≠ '\r' := ne_of_isPrintable hc (by decide)
    have hn : c ≠ '\u0085' := ne_of_isPrintable hc (by decide)
    simp [hr, hn, ih hcs]

/-! ## Separators -/

/-- What stands behind a text that is not empty does not decide whether it starts with a
separator. -/
theorem atSeparator_append {cs : List Char} (h : cs ≠ []) (rest : List Char) :
    atSeparator (cs ++ rest) = atSeparator cs := by
  cases cs with
  | nil => contradiction
  | cons c cs => rfl

/-- A text that does not start with anything that separates tokens. -/
def StartsSolid (cs : List Char) : Prop :=
  ∀ c ∈ cs.head?, isBreak c = false ∧ isBlank c = false ∧ c ≠ '#'

theorem startsSolid_cons {c : Char} {cs : List Char} :
    StartsSolid (c :: cs) ↔ isBreak c = false ∧ isBlank c = false ∧ c ≠ '#' := by
  simp [StartsSolid]

/-- The text behind a value in a block of some level: there is none, or it goes on at a column at
which the block around the value, or one outside of it, has started. -/
def Dedents (level column : Nat) (rest : List Char) : Prop :=
  (rest = [] ∧ column = 0) ∨
    ∃ c cs, rest = c :: cs ∧ isBreak c = false ∧ isBlank c = false ∧ c ≠ '#' ∧ column < level

theorem Dedents.startsSolid {level column : Nat} {rest : List Char}
    (h : Dedents level column rest) : StartsSolid rest := by
  rcases h with ⟨rfl, -⟩ | ⟨c, cs, rfl, hbreak, hblank, hhash, -⟩
  · simp [StartsSolid]
  · exact startsSolid_cons.mpr ⟨hbreak, hblank, hhash⟩

theorem Dedents.column_lt {level column : Nat} {rest : List Char} (h : Dedents level column rest)
    (hlevel : 0 < level) : column < level := by
  rcases h with ⟨-, rfl⟩ | ⟨c, cs, -, -, -, -, hlt⟩
  · exact hlevel
  · exact hlt

theorem Dedents.mono {level level' column : Nat} {rest : List Char} (hle : level ≤ level')
    (h : Dedents level column rest) : Dedents level' column rest := by
  rcases h with h | ⟨c, cs, hrest, hbreak, hblank, hhash, hlt⟩
  · exact .inl h
  · exact .inr ⟨c, cs, hrest, hbreak, hblank, hhash, Nat.lt_of_lt_of_le hlt hle⟩

/-! ## Places -/

namespace Mark

@[simp] theorem advance_zero (m : Mark) : m.advance 0 = m := rfl

@[simp] theorem advance_advance (m : Mark) (n k : Nat) :
    (m.advance n).advance k = m.advance (n + k) := by
  simp [advance, Nat.add_assoc]

@[simp] theorem line_advance (m : Mark) (n : Nat) : (m.advance n).line = m.line := rfl

@[simp] theorem column_advance (m : Mark) (n : Nat) : (m.advance n).column = m.column + n := rfl

@[simp] theorem index_advance (m : Mark) (n : Nat) : (m.advance n).index = m.index + n := rfl

@[simp] theorem line_newLine (m : Mark) : m.newLine.line = m.line + 1 := rfl

@[simp] theorem column_newLine (m : Mark) : m.newLine.column = 0 := rfl

end Mark

end PoolOperator.Yaml
