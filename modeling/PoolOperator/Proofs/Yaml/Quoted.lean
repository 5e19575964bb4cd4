import Mathlib.Algebra.Group.Nat.Defs
import PoolOperator.Proofs.Yaml.Character
import PoolOperator.Yaml.Printer
import PoolOperator.Yaml.Token.Quoted

/-!
# Reading quoted scalars that were written

The reader of a scalar keeps the white space behind the text apart until it knows what follows. What
counts is the text it holds in all, `Folding.held`: every step on a written character adds that
character to it. So what stands between two quotes is read as the text it was written for.
-/

namespace PoolOperator.Yaml

/-! ## The text held -/

namespace Folding

/-- The text read so far, together with the white space behind it. -/
def held (f : Folding) : List Char := (f.gap ++ f.text).reverse

@[simp] theorem held_empty : held {} = [] := rfl

@[simp] theorem toText_settle (f : Folding) : f.settle.toText = f.held := rfl

@[simp] theorem broken_add (f : Folding) (c : Char) : (f.add c).broken = false := rfl

@[simp] theorem blanks_add (f : Folding) (c : Char) : (f.add c).blanks = [] := rfl

@[simp] theorem laterBreaks_add (f : Folding) (c : Char) : (f.add c).laterBreaks = [] := rfl

theorem held_add (f : Folding) (c : Char) : (f.add c).held = f.held ++ [c] := by
  simp [held, add, gap]

theorem broken_blank {f : Folding} (h : f.broken = false) (c : Char) :
    (f.blank c).broken = false := by
  simp [blank, h]

theorem laterBreaks_blank (f : Folding) (c : Char) :
    (f.blank c).laterBreaks = f.laterBreaks := by
  unfold blank
  split <;> rfl

theorem held_blank {f : Folding} (h : f.broken = false) (c : Char) :
    (f.blank c).held = f.held ++ [c] := by
  simp [held, blank, gap, h]

theorem blank_of_broken {f : Folding} (h : f.broken = true) (c : Char) : f.blank c = f := by
  simp [blank, h]

@[simp] theorem broken_lineBreak (f : Folding) (c : Char) : (f.lineBreak c).broken = true := by
  unfold lineBreak
  split
  · assumption
  · rfl

end Folding

/-! ## Double quotes -/

theorem hexValue?_hexDigit {n : Nat} (h : n < 16) : hexValue? (hexDigit n) = some n := by
  have hall : ∀ i : Fin 16, hexValue? (hexDigit i) = some i.val := by decide
  exact hall ⟨n, h⟩

/-- The digits of an escape but for the last one only add to its value. -/
theorem scanDouble_hexDigits {f : Folding} {left : Nat} (rest : List Char) :
    ∀ {k : Nat} (_ : k < left) (v n : Nat) (m : Mark),
      scanDouble f (.digits left v) m (hexDigits k n ++ rest) =
        scanDouble f (.digits (left - k) (16 ^ k * v + n % 16 ^ k)) (m.advance k) rest := by
  intro k
  induction k generalizing rest with
  | zero =>
    intro _ v n m
    simp [hexDigits, Nat.mod_one]
  | succ k ih =>
    intro hk v n m
    have hlast : hexValue? (hexDigit (n % 16)) = some (n % 16) :=
      hexValue?_hexDigit (Nat.mod_lt _ (by decide))
    have hmore : ¬ left - k ≤ 1 := by omega
    have hvalue : 16 * (16 ^ k * v + n / 16 % 16 ^ k) + n % 16 =
        16 ^ (k + 1) * v + n % 16 ^ (k + 1) := by
      rw [Nat.pow_succ, Nat.mul_comm (16 ^ k) 16, Nat.mod_mul, Nat.mul_add, ← Nat.mul_assoc]
      omega
    rw [hexDigits, List.append_assoc, ih _ (by omega)]
    simp only [List.cons_append, List.nil_append, scanDouble, hlast, if_neg hmore, hvalue]
    simp [Nat.sub_sub]

theorem charOfCode?_toNat (c : Char) : charOfCode? c.toNat = some c := by
  have hvalid : c.toNat.isValidChar := c.valid
  unfold charOfCode?
  rw [dif_pos hvalid]
  rfl

/-- All digits of an escape, read in turn, give the character. -/
theorem scanDouble_hexEscape {f : Folding} {m : Mark} {c : Char} (width : Nat)
    (hwidth : 0 < width) (hc : c.toNat < 16 ^ width) (rest : List Char) :
    scanDouble f (.digits width 0) m (hexDigits width c.toNat ++ rest) =
      scanDouble (f.add c) .none (m.advance width) rest := by
  obtain ⟨k, rfl⟩ : ∃ k, width = k + 1 := ⟨width - 1, by omega⟩
  have hlast : hexValue? (hexDigit (c.toNat % 16)) = some (c.toNat % 16) :=
    hexValue?_hexDigit (Nat.mod_lt _ (by decide))
  have hhigh : c.toNat / 16 % 16 ^ k = c.toNat / 16 := by
    apply Nat.mod_eq_of_lt
    rw [Nat.pow_succ] at hc
    exact Nat.div_lt_of_lt_mul (by omega)
  rw [hexDigits, List.append_assoc, scanDouble_hexDigits _ (Nat.lt_succ_self k)]
  simp only [List.cons_append, List.nil_append, scanDouble, hlast, Nat.mul_zero, Nat.zero_add,
    hhigh, Nat.div_add_mod, charOfCode?_toNat]
  simp

theorem unescapeLetter?_of_escapeLetter? {c letter : Char} (h : escapeLetter? c = some letter) :
    unescapeLetter? letter = some c ∧ isBreak letter = false := by
  have hcode := Char.ofNat_toNat c
  unfold escapeLetter? at h
  split at h
  -- one goal for each letter, in which the code of the character is known, and one without a letter
  all_goals first
    | contradiction
    | (rename_i hc; rw [hc] at hcode; cases h; rw [← hcode]; decide)

/-- Characters without an escape letter are neither quotes, nor backslashes, nor breaks. -/
theorem escapeLetter?_eq_none {c : Char} (h : escapeLetter? c = none) :
    c ≠ '"' ∧ c ≠ '\\' ∧ isBreak c = false := by
  refine ⟨?_, ?_, ?_⟩
  · rintro rfl
    exact absurd h (by decide)
  · rintro rfl
    exact absurd h (by decide)
  · cases hb : isBreak c with
    | false => rfl
    | true =>
      simp only [isBreak, Bool.or_eq_true, beq_iff_eq] at hb
      obtain (((rfl | rfl) | rfl) | rfl) | rfl := hb <;> exact absurd h (by decide)

/-- A character that was written between double quotes is read as itself. -/
theorem scanDouble_escapeChar {f : Folding} {m : Mark} (hf : f.broken = false)
    (hm : 0 < m.column) (c : Char) (rest : List Char) :
    ∃ f' n, f'.broken = false ∧ f'.held = f.held ++ [c] ∧
      scanDouble f .none m (escapeChar c ++ rest) = scanDouble f' .none (m.advance n) rest := by
  have hadd : (f.add c).broken = false ∧ (f.add c).held = f.held ++ [c] :=
    ⟨Folding.broken_add f c, Folding.held_add f c⟩
  unfold escapeChar
  cases hletter : escapeLetter? c with
  | some letter =>
    obtain ⟨hread, hbreak⟩ := unescapeLetter?_of_escapeLetter? hletter
    refine ⟨f.add c, 2, hadd.1, hadd.2, ?_⟩
    simp [scanDouble, hread, hbreak]
  | none =>
    obtain ⟨hquote, hslash, hbreak⟩ := escapeLetter?_eq_none hletter
    by_cases hprint : isPrintable c = true
    · simp only [if_pos hprint, List.cons_append, List.nil_append]
      by_cases hblank : isBlank c = true
      · refine ⟨f.blank c, 1, Folding.broken_blank hf c, Folding.held_blank hf c, ?_⟩
        simp [scanDouble, hquote, hslash, hbreak, hblank]
      · have hcolumn : m.column ≠ 0 := by omega
        refine ⟨f.add c, 1, hadd.1, hadd.2, ?_⟩
        simp [scanDouble, hquote, hslash, hbreak, hblank, hcolumn]
    · have hx : unescapeLetter? 'x' = none ∧ escapeWidth? 'x' = some 2 := by decide
      have hu : unescapeLetter? 'u' = none ∧ escapeWidth? 'u' = some 4 := by decide
      have hU : unescapeLetter? 'U' = none ∧ escapeWidth? 'U' = some 8 := by decide
      have hlarge : c.toNat < 16 ^ 8 := by
        have := c.val.toNat_lt_size
        exact this
      simp only [if_neg hprint]
      split
      · refine ⟨f.add c, 4, hadd.1, hadd.2, ?_⟩
        have hread := scanDouble_hexEscape (f := f) (m := (m.advance 1).advance 1)
          2 (by decide) (by assumption) rest
        simpa [scanDouble, hx, isBreak] using hread
      · split
        · refine ⟨f.add c, 6, hadd.1, hadd.2, ?_⟩
          have hread := scanDouble_hexEscape (f := f) (m := (m.advance 1).advance 1)
            4 (by decide) (by assumption) rest
          simpa [scanDouble, hu, isBreak] using hread
        · refine ⟨f.add c, 10, hadd.1, hadd.2, ?_⟩
          have hread := scanDouble_hexEscape (f := f) (m := (m.advance 1).advance 1)
            8 (by decide) hlarge rest
          simpa [scanDouble, hU, isBreak] using hread

/-- What was written between double quotes is read up to the closing one. -/
theorem scanDouble_flatMap (cs : List Char) (rest : List Char) :
    ∀ {f : Folding} {m : Mark}, f.broken = false → 0 < m.column →
      ∃ n, scanDouble f .none m (cs.flatMap escapeChar ++ '"' :: rest) =
        some ⟨f.held ++ cs, m.advance n, rest⟩ := by
  induction cs with
  | nil =>
    intro f m _ _
    exact ⟨1, by simp [scanDouble]⟩
  | cons c cs ih =>
    intro f m hf hm
    obtain ⟨f', n, hf', hheld, hread⟩ :=
      scanDouble_escapeChar hf hm c (cs.flatMap escapeChar ++ '"' :: rest)
    have hm' : 0 < (m.advance n).column := Nat.lt_of_lt_of_le hm (Nat.le_add_right _ _)
    obtain ⟨k, hrest⟩ := ih hf' hm'
    refine ⟨n + k, ?_⟩
    rw [List.flatMap_cons, List.append_assoc, hread, hrest, hheld]
    simp

/-! ## Single quotes -/

/-- Only a quote has a meaning of its own between single quotes. -/
theorem scanSingle_cons {f : Folding} {m : Mark} {c : Char} (hc : c ≠ '\'') (cs : List Char) :
    scanSingle f m (c :: cs) =
      if isBreak c then scanSingle (f.lineBreak c) m.newLine cs
      else if isBlank c then scanSingle (f.blank c) (m.advance 1) cs
      else if m.column == 0 && isDocumentMark (c :: cs) then none
      else scanSingle (f.add c) (m.advance 1) cs := by
  rw [scanSingle]
  · simp [hc]
  · rintro _ rfl
    contradiction

/-- The indentation behind a break is passed over. -/
theorem scanSingle_spaces {f : Folding} (hf : f.broken = true) (rest : List Char) :
    ∀ (n : Nat) (m : Mark),
      scanSingle f m (spaces n ++ rest) = scanSingle f (m.advance n) rest := by
  intro n
  induction n with
  | zero =>
    intro m
    simp [spaces]
  | succ n ih =>
    intro m
    have hstep : spaces (n + 1) ++ rest = ' ' :: (spaces n ++ rest) := by
      simp [spaces, List.replicate_succ]
    rw [hstep, scanSingle_cons (by decide), if_neg (by decide), if_pos (by decide),
      Folding.blank_of_broken hf, ih, Mark.advance_advance, Nat.add_comm 1 n]

/-- A quote that is not written twice ends the text. -/
theorem scanSingle_close {f : Folding} {m : Mark} {rest : List Char}
    (hrest : rest.head? ≠ some '\'') :
    scanSingle f m ('\'' :: rest) = some ⟨f.held, m.advance 1, rest⟩ := by
  rw [scanSingle]
  · simp
  · rintro cs - rfl
    simp at hrest

/-- Nothing that is read between single quotes before a text is changed by folding: no line feed is
among the breaks, and no space stands next to one. -/
structure Folding.IsUnfolded (f : Folding) (cs : List Char) : Prop where
  firstBreak : f.broken = true → ∃ b, f.firstBreak = some b ∧ b ≠ '\n'
  laterBreaks : f.broken = false → f.laterBreaks = []
  blanks : f.blanks ≠ [] → f.broken = false ∧ ∀ c ∈ cs.head?, isBreak c = false
  noSpace : f.broken = true → cs.head? ≠ some ' '

namespace Folding

theorem isUnfolded_empty (cs : List Char) : IsUnfolded {} cs :=
  ⟨by simp, by simp, by simp, by simp⟩

theorem isUnfolded_add (f : Folding) (c : Char) (cs : List Char) : (f.add c).IsUnfolded cs :=
  ⟨by simp, by simp, by simp, by simp⟩

theorem IsUnfolded.blank {f : Folding} {c : Char} {cs : List Char}
    (h : f.IsUnfolded (c :: cs)) (hf : f.broken = false) (hc : c = ' ')
    (hspace : hasSpaceBreak (c :: cs) = false) : (f.blank c).IsUnfolded cs := by
  have hbroken := broken_blank hf c
  refine ⟨by simp [hbroken], fun _ => ?_, fun _ => ⟨hbroken, ?_⟩, by simp [hbroken]⟩
  · rw [laterBreaks_blank]
    exact h.laterBreaks hf
  · intro d hd
    cases cs with
    | nil => simp at hd
    | cons e cs =>
      obtain rfl : e = d := by simpa using hd
      simp only [hasSpaceBreak, hc, Bool.or_eq_false_iff] at hspace
      simpa using hspace.1

theorem IsUnfolded.lineBreak {f : Folding} {c : Char} {cs : List Char}
    (h : f.IsUnfolded (c :: cs)) (hc : isBreak c = true) (hfeed : c ≠ '\n')
    (hbreak : hasBreakSpace (c :: cs) = false) :
    (f.lineBreak c).IsUnfolded cs ∧ (f.lineBreak c).held = f.held ++ [c] := by
  have hnext : cs.head? ≠ some ' ' := by
    cases cs with
    | nil => simp
    | cons d cs =>
      simp only [hasBreakSpace, hc, Bool.or_eq_false_iff] at hbreak
      simpa using hbreak.1
  have hblanks : f.blanks = [] := by
    by_contra hne
    have := (h.blanks hne).2 c (by simp)
    rw [hc] at this
    contradiction
  cases hf : f.broken with
  | true =>
    obtain ⟨b, hb, hne⟩ := h.firstBreak hf
    refine ⟨⟨fun _ => ⟨b, ?_, hne⟩, ?_, ?_, fun _ => hnext⟩, ?_⟩
    · simp [Folding.lineBreak, hf, hb]
    · simp
    · simp [Folding.lineBreak, hf, hblanks]
    · simp [held, Folding.lineBreak, gap, hf, hb, hne]
  | false =>
    have hlater := h.laterBreaks hf
    refine ⟨⟨fun _ => ⟨c, ?_, hfeed⟩, ?_, ?_, fun _ => hnext⟩, ?_⟩
    · simp [Folding.lineBreak, hf]
    · simp
    · simp [Folding.lineBreak, hf]
    · simp [held, Folding.lineBreak, gap, hf, hfeed, hlater, hblanks]

end Folding

/-- A character that is no break, between single quotes, is read as itself. -/
theorem scanSingle_char {f : Folding} {m : Mark} {c : Char} {cs : List Char}
    (h : f.IsUnfolded (c :: cs)) (hc : isPrintable c = true) (hbreak : isBreak c = false)
    (hspace : hasSpaceBreak (c :: cs) = false) (hm : 0 < m.column) (rest : List Char) :
    ∃ f' n, f'.broken = false ∧ f'.IsUnfolded cs ∧ f'.held = f.held ++ [c] ∧
      scanSingle f m ((if c = '\'' then ['\'', '\''] else [c]) ++ rest) =
        scanSingle f' (m.advance n) rest := by
  by_cases hquote : c = '\''
  · refine ⟨f.add c, 2, rfl, Folding.isUnfolded_add f c cs, Folding.held_add f c, ?_⟩
    rw [if_pos hquote, hquote]
    simp only [List.cons_append, List.nil_append, scanSingle]
  · simp only [if_neg hquote, List.cons_append, List.nil_append, scanSingle_cons hquote, hbreak]
    by_cases hblank : isBlank c = true
    · have hc' := eq_space_of_isBlank hc hblank
      have hf : f.broken = false := by
        by_contra hf
        exact h.noSpace (by simpa using hf) (by simp [hc'])
      refine ⟨f.blank c, 1, Folding.broken_blank hf c, h.blank hf hc' hspace,
        Folding.held_blank hf c, ?_⟩
      simp [hblank]
    · have hcolumn : m.column ≠ 0 := by omega
      refine ⟨f.add c, 1, rfl, Folding.isUnfolded_add f c cs, Folding.held_add f c, ?_⟩
      simp [hblank, hcolumn]

theorem hasSpaceBreak_tail {c : Char} {cs : List Char} (h : hasSpaceBreak (c :: cs) = false) :
    hasSpaceBreak cs = false := by
  cases cs with
  | nil => rfl
  | cons d cs =>
    rw [hasSpaceBreak, Bool.or_eq_false_iff] at h
    exact h.2

theorem hasBreakSpace_tail {c : Char} {cs : List Char} (h : hasBreakSpace (c :: cs) = false) :
    hasBreakSpace cs = false := by
  cases cs with
  | nil => rfl
  | cons d cs =>
    rw [hasBreakSpace, Bool.or_eq_false_iff] at h
    exact h.2

/-- The indentation that is written behind a break, if one has been seen, is passed over. -/
theorem scanSingle_margin {indent : Nat} (hindent : 0 < indent) {f : Folding} {m : Mark}
    (hm : f.broken = false → 0 < m.column) (text : List Char) :
    ∃ n, 0 < (m.advance n).column ∧
      scanSingle f m ((if f.broken then spaces indent else []) ++ text) =
        scanSingle f (m.advance n) text := by
  cases hf : f.broken with
  | true => exact ⟨indent, by simp; omega, by simpa using scanSingle_spaces hf text indent m⟩
  | false => exact ⟨0, by simpa using hm hf, by simp⟩

/-- What was written between single quotes is read up to the closing one. -/
theorem scanSingle_body {indent : Nat} (hindent : 0 < indent) (rest : List Char)
    (hrest : rest.head? ≠ some '\'') (cs : List Char) :
    ∀ {f : Folding} {m : Mark}, IsPrintable cs → '\n' ∉ cs → hasSpaceBreak cs = false →
      hasBreakSpace cs = false → f.IsUnfolded cs → (f.broken = false → 0 < m.column) →
      ∃ m', m.line ≤ m'.line ∧
        scanSingle f m (renderSingleBody indent f.broken cs ++ '\'' :: rest) =
          some ⟨f.held ++ cs, m', rest⟩ := by
  induction cs with
  | nil =>
    intro f m _ _ _ _ _ hm
    obtain ⟨n, -, hread⟩ := scanSingle_margin hindent hm ('\'' :: rest)
    refine ⟨(m.advance n).advance 1, by simp, ?_⟩
    rw [renderSingleBody, hread, scanSingle_close hrest]
    simp
  | cons c cs ih =>
    intro f m hprint hfeed hspace hbreak hf hm
    obtain ⟨hc, hcs⟩ := isPrintable_cons.mp hprint
    obtain ⟨hcfeed, hcsfeed⟩ : c ≠ '\n' ∧ '\n' ∉ cs := by
      simpa [eq_comm] using hfeed
    have hspace' := hasSpaceBreak_tail hspace
    have hbreak' := hasBreakSpace_tail hbreak
    -- a break leaves the margin of the next line to be passed over by the next character
    cases hcb : isBreak c with
    | true =>
      obtain ⟨hf', hheld⟩ := hf.lineBreak hcb hcfeed hbreak
      obtain ⟨m', hline, hread⟩ := ih (m := m.newLine) hcs hcsfeed hspace' hbreak' hf' (by simp)
      rw [Folding.broken_lineBreak] at hread
      have hquote : c ≠ '\'' := by
        rintro rfl
        exact absurd hcb (by decide)
      refine ⟨m', by simp at hline; omega, ?_⟩
      simp only [renderSingleBody, hcb, if_true, beq_false_of_ne hcfeed, Bool.and_false,
        Bool.false_eq_true, if_false, List.cons_append, List.nil_append, scanSingle_cons hquote]
      rw [hread, hheld]
      simp
    | false =>
      obtain ⟨n, hm', hpass⟩ := scanSingle_margin hindent hm
        ((if c = '\'' then ['\'', '\''] else [c]) ++
          (renderSingleBody indent false cs ++ '\'' :: rest))
      obtain ⟨f', k, hfb, hf', hheld, hread⟩ := scanSingle_char hf hc hcb hspace hm'
        (renderSingleBody indent false cs ++ '\'' :: rest)
      obtain ⟨m', hline, hread'⟩ := ih (f := f') (m := (m.advance n).advance k) hcs hcsfeed hspace'
        hbreak' hf' (fun _ => by simp at hm' ⊢; omega)
      rw [hfb] at hread'
      refine ⟨m', by simpa using hline, ?_⟩
      simp only [renderSingleBody, hcb, Bool.false_eq_true, if_false, List.append_assoc]
      rw [hpass, hread, hread', hheld]
      simp

end PoolOperator.Yaml
