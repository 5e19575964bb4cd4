import PoolOperator.Proofs.Yaml.Quoted
import PoolOperator.Yaml.Token.Plain

/-!
# Reading plain scalars that were written

A text that may be written plain holds nothing at which a plain scalar ends: no colon before a
separator, and no hash behind a blank. So it is read up to what stands behind it, which is the end
of a line, or the colon that makes it a key.
-/

namespace PoolOperator.Yaml

/-! ## Plain texts -/

/-- A text that may be written plain, taken apart into its first character and the others. -/
structure IsPlain (c : Char) (cs : List Char) : Prop where
  printable : IsPrintable (c :: cs)
  noBreak : ∀ d ∈ c :: cs, isBreak d = false
  startsSolid : isBlank c = false
  endsSolid : (c :: cs).getLast? ≠ some ' '
  noMark : startsWithMark (c :: cs) = false
  noIndicator : isIndicator c = false
  noLoneMark : c = '?' ∨ c = ':' ∨ c = '-' → atSeparator cs = false
  noInnerIndicator : hasInnerIndicator false cs = false

theorem IsPlain.ne_hash {c : Char} {cs : List Char} (h : IsPlain c cs) : c ≠ '#' := by
  rintro rfl
  exact absurd h.noIndicator (by decide)

theorem isPlain_of_allowsPlain {c : Char} {cs : List Char} (h : allowsPlain (c :: cs) = true) :
    IsPlain c cs := by
  simp only [allowsPlain, allowsSingle, Bool.and_eq_true, Bool.not_eq_true'] at h
  obtain ⟨⟨⟨⟨⟨⟨hspecial, _⟩, _⟩, hbreak⟩, hstart⟩, hend⟩, hindicator⟩ := h
  simp only [hasIndicator, Bool.or_eq_false_iff] at hindicator
  obtain ⟨⟨⟨hmark, hown⟩, hlone⟩, hinner⟩ := hindicator
  have hprint := hasSpecial_eq_false_iff.mp hspecial
  have hnoBreak : ∀ d ∈ c :: cs, isBreak d = false := by
    simpa using hbreak
  have hblank : isBlank c = false := by
    by_contra hb
    have hc := eq_space_of_isBlank (isPrintable_cons.mp hprint).1 (by simpa using hb)
    simp [startsWithSpace, hc] at hstart
  have hc := hnoBreak c (by simp)
  refine ⟨hprint, hnoBreak, hblank, by simpa [endsInSpace] using hend, hmark, hown, ?_,
    by simpa [hblank, hc] using hinner⟩
  intro hc
  have : (c == '?' || c == ':' || c == '-') = true := by simpa [or_assoc] using hc
  simpa [this] using hlone

/-! ## Reading -/

/-- A character inside a plain text adds itself, as a blank or as text. -/
theorem scanPlain_char {level : Nat} {c : Char} {cs : List Char} {f : Folding} {m : Mark}
    (hf : f.broken = false) (hcb : isBreak c = false)
    (hcolon : (c == ':' && atSeparator cs) = false)
    (hhash : (c == '#' && !f.blanks.isEmpty) = false) (hlevel : level ≤ m.column)
    (hm : 0 < m.column) (stop : List Char) :
    ∃ f' : Folding, f'.broken = false ∧ f'.held = f.held ++ [c] ∧
      (!f'.blanks.isEmpty) = isBlank c ∧
      scanPlain false level f m (c :: (cs ++ stop)) =
        scanPlain false level f' (m.advance 1) (cs ++ stop) := by
  cases hblank : isBlank c with
  | true =>
    refine ⟨f.blank c, Folding.broken_blank hf c, Folding.held_blank hf c, ?_, ?_⟩
    · simp [Folding.blank, hf]
    · simp [scanPlain, hcb, hblank, hf]
  | false =>
    have hcolumn : m.column ≠ 0 := by omega
    have hstop : (c == ':' && atSeparator (cs ++ stop)) = false := by
      cases cs with
      | nil =>
        have hne : c ≠ ':' := by simpa [atSeparator] using hcolon
        simp [hne]
      | cons d ds => rwa [atSeparator_append (by simp)]
    have hends : endsPlain false level f m c (cs ++ stop) = false := by
      simp only [endsPlain, Folding.isPending, hf, hstop, Bool.false_or, Bool.or_false,
        Bool.false_and, Bool.not_false, Bool.true_and, beq_false_of_ne hcolumn,
        decide_eq_false (Nat.not_lt.mpr hlevel)]
      rwa [Bool.and_comm]
    refine ⟨f.add c, rfl, Folding.held_add f c, by simp, ?_⟩
    simp [scanPlain, hcb, hblank, hends]

/-- Nothing within a plain text ends the scalar. The places at which it is read are behind its
first character, hence not before the level of the block. -/
theorem scanPlain_inner (level : Nat) (stop : List Char) (cs : List Char) :
    ∀ {f : Folding} {m : Mark}, f.broken = false → IsPrintable cs →
      (∀ c ∈ cs, isBreak c = false) → hasInnerIndicator (!f.blanks.isEmpty) cs = false →
      level ≤ m.column → 0 < m.column →
      ∃ f', f'.broken = false ∧ f'.held = f.held ++ cs ∧
        (f'.blanks ≠ [] → cs.getLast? = some ' ' ∨ (cs = [] ∧ f.blanks ≠ [])) ∧
        scanPlain false level f m (cs ++ stop) =
          scanPlain false level f' (m.advance cs.length) stop := by
  induction cs with
  | nil =>
    intro f m hf _ _ _ _ _
    exact ⟨f, hf, by simp, by simp, by simp⟩
  | cons c cs ih =>
    intro f m hf hprint hbreak hinner hlevel hm
    obtain ⟨hc, hcs⟩ := isPrintable_cons.mp hprint
    have hcb : isBreak c = false := hbreak c (by simp)
    simp only [hasInnerIndicator, hcb, Bool.or_false, Bool.or_eq_false_iff] at hinner
    obtain ⟨⟨hcolon, hhash⟩, hinner⟩ := hinner
    obtain ⟨f', hf', hheld, hblanks, hstep⟩ := scanPlain_char hf hcb hcolon hhash hlevel hm stop
    obtain ⟨f'', hf'', hheld', hlast, hread⟩ := ih (f := f') (m := m.advance 1) hf' hcs
      (fun d hd => hbreak d (by simp [hd])) (by rw [hblanks]; exact hinner)
      (by simp; omega) (by simp)
    refine ⟨f'', hf'', by rw [hheld', hheld]; simp, ?_, ?_⟩
    -- blanks that are kept apart at the end are the last characters of the text
    · intro hne
      left
      rcases hlast hne with hlast | ⟨rfl, hne'⟩
      · cases cs with
        | nil => simp at hlast
        | cons d ds => rwa [List.getLast?_cons_cons]
      · have hblank : isBlank c = true := by
          rw [← hblanks]
          simpa using hne'
        simp [eq_space_of_isBlank hc hblank]
    · rw [List.cons_append, hstep, hread]
      simp [Nat.add_comm]

/-- A plain text is read up to what stands behind it, with no white space behind the text. -/
theorem scanPlain_text {level : Nat} {c : Char} {cs : List Char} (h : IsPlain c cs) {m : Mark}
    (hm : level ≤ m.column + 1) (stop : List Char) :
    ∃ f', f'.broken = false ∧ f'.toText = c :: cs ∧
      scanPlain false level {} m (c :: cs ++ stop) =
        scanPlain false level f' (m.advance (cs.length + 1)) stop := by
  have hcb := h.noBreak c (by simp)
  have hstop : (c == ':' && atSeparator (cs ++ stop)) = false := by
    by_cases hc : c = ':'
    · have hsep := h.noLoneMark (.inr (.inl hc))
      cases cs with
      | nil => simp [atSeparator] at hsep
      | cons d ds => rw [atSeparator_append (by simp), hsep, Bool.and_false]
    · simp [hc]
  have hends : endsPlain false level {} m c (cs ++ stop) = false := by
    simp [endsPlain, Folding.isPending, hstop]
  obtain ⟨f', hf', hheld, hlast, hread⟩ := scanPlain_inner level stop cs
    (f := ({} : Folding).add c) (m := m.advance 1) rfl (isPrintable_cons.mp h.printable).2
    (fun d hd => h.noBreak d (by simp [hd])) (by simpa using h.noInnerIndicator)
    (by simpa using hm) (by simp)
  have hsolid : f'.blanks = [] := by
    by_contra hne
    rcases hlast hne with hlast | ⟨-, hne'⟩
    · apply h.endsSolid
      cases cs with
      | nil => simp at hlast
      | cons d ds => rwa [List.getLast?_cons_cons]
    · simp at hne'
  refine ⟨f', hf', ?_, ?_⟩
  · have htext : f'.held = f'.toText := by
      simp [Folding.held, Folding.toText, Folding.gap, hf', hsolid]
    rw [← htext, hheld, Folding.held_add]
    simp
  · rw [List.cons_append, scanPlain, hread]
    simp [hcb, h.startsSolid, hends, Nat.add_comm]

/-- A plain key ends at its colon. -/
theorem scanPlain_key {level : Nat} {c : Char} {cs : List Char} (h : IsPlain c cs) {m : Mark}
    (hm : level ≤ m.column + 1) {rest : List Char} (hrest : atSeparator rest = true) :
    ∃ f', f'.broken = false ∧ f'.toText = c :: cs ∧
      scanPlain false level {} m (c :: cs ++ ':' :: rest) =
        some ⟨f', m.advance (cs.length + 1), ':' :: rest⟩ := by
  obtain ⟨f', hf', htext, hread⟩ := scanPlain_text h hm (':' :: rest)
  refine ⟨f', hf', htext, ?_⟩
  rw [hread, scanPlain]
  simp [isBreak, isBlank, endsPlain, hrest]

/-- White space behind a break is passed over. -/
theorem scanPlain_spaces {level : Nat} {f : Folding} (hf : f.broken = true) (rest : List Char) :
    ∀ (n : Nat) (m : Mark),
      scanPlain false level f m (spaces n ++ rest) =
        scanPlain false level f (m.advance n) rest := by
  intro n
  induction n with
  | zero =>
    intro m
    simp [spaces]
  | succ n ih =>
    intro m
    have hstep : spaces (n + 1) ++ rest = ' ' :: (spaces n ++ rest) := by
      simp [spaces, List.replicate_succ]
    have hread : scanPlain false level f m (' ' :: (spaces n ++ rest)) =
        scanPlain false level f (m.advance 1) (spaces n ++ rest) := by
      simp [scanPlain, isBreak, isBlank, Folding.blank_of_broken hf]
    rw [hstep, hread, ih, Mark.advance_advance, Nat.add_comm 1 n]

/-- A plain value ends at the end of its line, and the indentation of the next line is read with
it. -/
theorem scanPlain_value {level column : Nat} {c : Char} {cs : List Char} (h : IsPlain c cs)
    {m : Mark} (hm : level ≤ m.column + 1) {rest : List Char} (hrest : Dedents level column rest) :
    ∃ f' m', f'.broken = true ∧ f'.toText = c :: cs ∧ m'.column = column ∧ m.line < m'.line ∧
      scanPlain false level {} m (c :: cs ++ '\n' :: (spaces column ++ rest)) =
        some ⟨f', m', rest⟩ := by
  obtain ⟨f', hf', htext, hread⟩ := scanPlain_text h hm ('\n' :: (spaces column ++ rest))
  have htext' : (f'.lineBreak '\n').toText = c :: cs := by
    rw [← htext]
    simp [Folding.lineBreak, Folding.toText, hf']
  refine ⟨f'.lineBreak '\n', (m.advance (cs.length + 1)).newLine.advance column,
    Folding.broken_lineBreak _ _, htext', by simp, by simp, ?_⟩
  have hline : scanPlain false level f' (m.advance (cs.length + 1))
      ('\n' :: (spaces column ++ rest)) =
        scanPlain false level (f'.lineBreak '\n') (m.advance (cs.length + 1)).newLine
          (spaces column ++ rest) := by
    simp [scanPlain, isBreak]
  rw [hread, hline, scanPlain_spaces (Folding.broken_lineBreak _ _)]
  rcases hrest with ⟨rfl, -⟩ | ⟨d, ds, rfl, hbreak, hblank, -, hlt⟩
  · simp [scanPlain]
  · simp [scanPlain, hbreak, hblank, endsPlain, Folding.isPending, hlt]

end PoolOperator.Yaml
