import PoolOperator.Proofs.Yaml.Quoted
import PoolOperator.Yaml.Token.Block

/-!
# Reading literal blocks that were written

While a block is read, the breaks behind its last line are kept apart from its text. Text and breaks
together are what was written (`BlockText.whole`), and the sign in the header of the block says how
many of the breaks belong to it.
-/

namespace PoolOperator.Yaml

/-! ## What has been read of a block -/

namespace BlockText

/-- The breaks behind the last line, last first. -/
def breaks (b : BlockText) : List Char := b.emptyBreaks ++ b.lastBreak.toList

/-- The text and the breaks behind it. -/
def whole (b : BlockText) : List Char := (b.breaks ++ b.text).reverse

/-- A literal block with lines at a column, of which a part has been read. -/
structure IsOpen (b : BlockText) (indent : Nat) : Prop where
  column : b.column = some indent ∨ b.column = none
  greatest : b.greatest = 0
  text : ∀ c ∈ b.text.head?, isBreak c = false
  breaks : ∀ c ∈ b.breaks, isBreak c = true
  inLine : b.inLine = true → b.breaks = [] ∧ b.text ≠ [] ∧ b.column = some indent
  betweenLines : b.inLine = false → b.text ≠ [] → b.lastBreak.isSome = true

/-- The sign in the header leaves what was read as it is. -/
theorem IsOpen.toText_chomp {b : BlockText} {indent : Nat} (h : b.IsOpen indent) {chomp : Chomp}
    (hchomp : chompHint b.whole = match chomp with | .strip => ['-'] | .clip => [] | .keep => ['+'])
    (hne : b.whole ≠ []) :
    b.toText chomp = b.whole ∧ (b.inLine = true → chomp = .strip ∧ b.whole = b.text.reverse) := by
  have hrev : b.whole.reverse = b.breaks ++ b.text := by simp [whole]
  simp only [chompHint, hrev] at hchomp
  -- the sign depends on how many breaks end the text: none, one or more
  cases hbreaks : b.breaks with
  | nil =>
    have hwhole : b.whole = b.text.reverse := by simp [whole, hbreaks]
    obtain ⟨hempty, hlast⟩ : b.emptyBreaks = [] ∧ b.lastBreak = none := by
      simpa [BlockText.breaks] using hbreaks
    cases htext : b.text with
    | nil => simp [hwhole, htext] at hne
    | cons c cs =>
      have hc := h.text c (by simp [htext])
      obtain rfl : chomp = .strip := by
        cases cs <;> cases chomp <;> simp_all
      exact ⟨by simp [toText, hwhole], fun _ => ⟨rfl, by rw [hwhole, htext]⟩⟩
  | cons c cs =>
    have hc := h.breaks c (by simp [hbreaks])
    have hin : b.inLine = false := by
      by_contra hin
      have := (h.inLine (by simpa using hin)).1
      simp [hbreaks] at this
    rw [hbreaks] at hchomp
    cases cs with
    | nil =>
      cases htext : b.text with
      | nil =>
        obtain rfl : chomp = .keep := by cases chomp <;> simp_all
        exact ⟨by simp [toText, whole, BlockText.breaks], by simp [hin]⟩
      | cons d ds =>
        have hd := h.text d (by simp [htext])
        obtain rfl : chomp = .clip := by cases chomp <;> simp_all
        obtain ⟨e, he⟩ := Option.isSome_iff_exists.mp (h.betweenLines hin (by simp [htext]))
        have hempty : b.emptyBreaks = [] := by
          simp only [BlockText.breaks, he, Option.toList_some] at hbreaks
          have := congrArg List.length hbreaks
          simpa using this
        exact ⟨by simp [toText, whole, BlockText.breaks, hempty], by simp [hin]⟩
    | cons d ds =>
      have hd := h.breaks d (by simp [hbreaks])
      obtain rfl : chomp = .keep := by cases chomp <;> simp_all
      exact ⟨by simp [toText, whole, BlockText.breaks], by simp [hin]⟩

/-- What was read ends in a break unless a line is being read. -/
theorem IsOpen.getLast?_whole {b : BlockText} {indent : Nat} (h : b.IsOpen indent)
    (hne : b.whole ≠ []) : b.whole.getLast?.any isBreak = !b.inLine := by
  have hlast : b.whole.getLast? = (b.breaks ++ b.text).head? := by simp [whole]
  rw [hlast]
  cases hin : b.inLine with
  | true =>
    obtain ⟨hbreaks, htext, -⟩ := h.inLine hin
    obtain ⟨c, cs, hcs⟩ := List.exists_cons_of_ne_nil htext
    simp [hbreaks, hcs, h.text c (by simp [hcs])]
  | false =>
    have hbreaks : b.breaks ≠ [] := by
      intro hbreaks
      have htext : b.text ≠ [] := by
        rintro htext
        exact hne (by simp [whole, hbreaks, htext])
      have := h.betweenLines hin htext
      simp only [BlockText.breaks, List.append_eq_nil_iff, Option.toList_eq_nil_iff] at hbreaks
      simp [hbreaks.2] at this
    obtain ⟨c, cs, hcs⟩ := List.exists_cons_of_ne_nil hbreaks
    simp [hcs, h.breaks c (by simp [hcs])]

/-- A line of a block goes on. -/
theorem IsOpen.push {b : BlockText} {indent : Nat} (h : b.IsOpen indent) (hin : b.inLine = true)
    {c : Char} (hc : isBreak c = false) :
    { b with text := c :: b.text }.IsOpen indent ∧
      { b with text := c :: b.text }.whole = b.whole ++ [c] := by
  obtain ⟨hbreaks, -, hcolumn⟩ := h.inLine hin
  refine ⟨⟨h.column, h.greatest, by simpa using hc, h.breaks, fun _ => ?_, fun hin' => ?_⟩, ?_⟩
  · exact ⟨hbreaks, by simp, hcolumn⟩
  · simp [hin] at hin'
  · have hbreaks' : { b with text := c :: b.text }.breaks = [] := hbreaks
    simp [whole, hbreaks, hbreaks']

/-- A line of a block ends. -/
theorem IsOpen.endLine {b : BlockText} {indent : Nat} (h : b.IsOpen indent)
    (hin : b.inLine = true) {c : Char} (hc : isBreak c = true) :
    { b with inLine := false, lastBreak := some c, emptyBreaks := [] }.IsOpen indent ∧
      { b with inLine := false, lastBreak := some c, emptyBreaks := [] }.whole =
        b.whole ++ [c] := by
  obtain ⟨hbreaks, -, hcolumn⟩ := h.inLine hin
  refine ⟨⟨.inl hcolumn, h.greatest, h.text, ?_, by simp, by simp⟩, ?_⟩
  · simpa [BlockText.breaks] using hc
  · simp only [whole, hbreaks]
    simp [BlockText.breaks]

/-- A line without text. -/
theorem IsOpen.emptyLine {b : BlockText} {indent : Nat} (h : b.IsOpen indent)
    (hin : b.inLine = false) {c : Char} (hc : isBreak c = true) :
    { b with emptyBreaks := c :: b.emptyBreaks, greatest := max b.greatest 0 }.IsOpen indent ∧
      { b with emptyBreaks := c :: b.emptyBreaks, greatest := max b.greatest 0 }.whole =
        b.whole ++ [c] := by
  refine ⟨⟨h.column, by simp [h.greatest], h.text, ?_, ?_, h.betweenLines⟩, ?_⟩
  · intro d hd
    obtain rfl | hd : d = c ∨ d ∈ b.breaks := by simpa [BlockText.breaks] using hd
    · exact hc
    · exact h.breaks d hd
  · intro hin'
    simp [hin] at hin'
  · simp [whole, BlockText.breaks]

/-- A line of a block starts. -/
theorem isOpen_startLine (b : BlockText) (indent : Nat) {c : Char} (hc : isBreak c = false)
    (isBlankNext : Bool) :
    let b' : BlockText :=
      { text := c :: b.joinLine false isBlankNext, startsBlank := isBlankNext, inLine := true,
        column := some indent }
    b'.IsOpen indent ∧ b'.whole = b.whole ++ [c] := by
  refine ⟨⟨.inl rfl, rfl, by simpa using hc, by simp [BlockText.breaks], fun _ => ?_, by simp⟩, ?_⟩
  · simp [BlockText.breaks]
  · simp [whole, BlockText.breaks, joinLine]

theorem IsOpen.settledColumn {b : BlockText} {level indent : Nat} (h : b.IsOpen indent)
    (hlevel : level ≤ indent) (hindent : 0 < indent) : b.settledColumn level indent = indent := by
  rcases h.column with hcolumn | hcolumn
  · simp [BlockText.settledColumn, hcolumn]
  · simp only [BlockText.settledColumn, hcolumn, h.greatest, Option.getD_none]
    omega

end BlockText

/-! ## Reading -/

/-- Spaces before the column of the lines are passed over. -/
theorem scanLines_spaces (level : Nat) {b : BlockText} (hin : b.inLine = false)
    (rest : List Char) :
    ∀ (n : Nat) (m : Mark), (∀ k, b.column = some k → m.column + n ≤ k) →
      scanLines false level b m (spaces n ++ rest) =
        scanLines false level b (m.advance n) rest := by
  intro n
  induction n with
  | zero =>
    intro m _
    simp [spaces]
  | succ n ih =>
    intro m hm
    have hstep : spaces (n + 1) ++ rest = ' ' :: (spaces n ++ rest) := by
      simp [spaces, List.replicate_succ]
    have hindent : b.inIndent m.column = true := by
      unfold BlockText.inIndent
      cases hcolumn : b.column with
      | none => rfl
      | some k =>
        have := hm k hcolumn
        simp only [decide_eq_true_eq]
        omega
    have hread : scanLines false level b m (' ' :: (spaces n ++ rest)) =
        scanLines false level b (m.advance 1) (spaces n ++ rest) := by
      simp [scanLines, hin, hindent]
    have hm' : ∀ k, b.column = some k → (m.advance 1).column + n ≤ k := by
      intro k hk
      have := hm k hk
      simp only [Mark.column_advance]
      omega
    rw [hstep, hread, ih _ hm', Mark.advance_advance, Nat.add_comm 1 n]

/-- What is read of a block behind one more character, from which the others are read. -/
theorem scanLines_char (level : Nat) {indent : Nat} (hlevel : level ≤ indent) (hindent : 0 < indent)
    (rest : List Char) {c : Char} {cs : List Char} {b : BlockText} {m : Mark}
    (hb : b.IsOpen indent) (hc : isPrintable c = true)
    (hfirst : b.column = none → c ≠ ' ' ∧ isBreak c = false)
    (hm : b.inLine = false → m.column = 0) :
    ∃ b₁ m₁, b₁.IsOpen indent ∧ b₁.whole = b.whole ++ [c] ∧ b₁.column = some indent ∧
      (b₁.inLine = false → m₁.column = 0) ∧ m.line ≤ m₁.line ∧
      scanLines false level b m (renderLines indent (!b.inLine) (c :: cs) ++ rest) =
        scanLines false level b₁ m₁ (renderLines indent (!b₁.inLine) cs ++ rest) := by
  have htab : c ≠ '\t' := ne_of_isPrintable hc (by decide)
  cases hin : b.inLine with
  | true =>
    obtain ⟨-, -, hcolumn⟩ := hb.inLine hin
    cases hbreak : isBreak c with
    | true =>
      obtain ⟨hopen, hwhole⟩ := hb.endLine hin hbreak
      refine ⟨_, m.newLine, hopen, hwhole, hcolumn, by simp, by simp, ?_⟩
      simp [renderLines, hbreak, scanLines, hin]
    | false =>
      obtain ⟨hopen, hwhole⟩ := hb.push hin hbreak
      refine ⟨_, m.advance 1, hopen, hwhole, hcolumn, by simp [hin], by simp, ?_⟩
      simp [renderLines, hbreak, scanLines, hin]
  | false =>
    have hm := hm hin
    cases hbreak : isBreak c with
    | true =>
      have hcolumn : b.column = some indent := by
        rcases hb.column with hcolumn | hcolumn
        · exact hcolumn
        · have := (hfirst hcolumn).2
          rw [hbreak] at this
          contradiction
      have hspace : c ≠ ' ' := by
        rintro rfl
        exact absurd hbreak (by decide)
      obtain ⟨hopen, hwhole⟩ := hb.emptyLine hin hbreak
      refine ⟨_, m.newLine, hopen, hwhole, hcolumn, by simp, by simp, ?_⟩
      simp [renderLines, hbreak, scanLines, hin, hspace, htab, hm]
    | false =>
      -- a line that is not empty starts behind the margin, which is passed over first
      have hpass := scanLines_spaces level hin
        (c :: (renderLines indent false cs ++ rest)) indent m (by
          intro k hk
          rcases hb.column with hcolumn | hcolumn <;> rw [hcolumn] at hk <;> cases hk
          omega)
      have hspace : (c == ' ' && b.inIndent indent) = false := by
        rcases hb.column with hcolumn | hcolumn
        · simp [BlockText.inIndent, hcolumn]
        · simp [(hfirst hcolumn).1]
      obtain ⟨hopen, hwhole⟩ := BlockText.isOpen_startLine b indent hbreak (isBlank c)
      refine ⟨_, (m.advance indent).advance 1, hopen, hwhole, rfl, by simp, by simp, ?_⟩
      simp only [renderLines, hbreak, Bool.not_false, if_true, List.append_assoc,
        List.cons_append, Bool.false_eq_true, if_false]
      rw [hpass]
      simp [scanLines, hin, hbreak, hm, hspace, htab, hb.settledColumn hlevel hindent]

/-- The lines that were written are read as they are. -/
theorem scanLines_renderLines (level : Nat) {indent : Nat} (hlevel : level ≤ indent)
    (hindent : 0 < indent) (rest : List Char) (cs : List Char) :
    ∀ {b : BlockText} {m : Mark}, b.IsOpen indent → IsPrintable cs →
      (b.column = none → ∀ c ∈ cs.head?, c ≠ ' ' ∧ isBreak c = false) →
      (b.inLine = false → m.column = 0) →
      ∃ b' m', b'.IsOpen indent ∧ b'.whole = b.whole ++ cs ∧
        (b.column = some indent ∨ cs ≠ [] → b'.column = some indent) ∧
        (b'.inLine = false → m'.column = 0) ∧ m.line ≤ m'.line ∧
        scanLines false level b m (renderLines indent (!b.inLine) cs ++ rest) =
          scanLines false level b' m' rest := by
  induction cs with
  | nil =>
    intro b m hb _ _ hm
    exact ⟨b, m, hb, by simp, by simp, hm, Nat.le_refl _, by simp [renderLines]⟩
  | cons c cs ih =>
    intro b m hb hprint hfirst hm
    obtain ⟨hc, hcs⟩ := isPrintable_cons.mp hprint
    obtain ⟨b₁, m₁, hb₁, hwhole, hcolumn, hm₁, hline, hread⟩ :=
      scanLines_char level hlevel hindent rest hb hc (fun h => hfirst h c (by simp)) hm
    obtain ⟨b', m', hb', hwhole', hcolumn', hm', hline', hread'⟩ :=
      ih hb₁ hcs (by simp [hcolumn]) hm₁
    refine ⟨b', m', hb', by rw [hwhole', hwhole]; simp, fun _ => hcolumn' (.inl hcolumn), hm',
      Nat.le_trans hline hline', ?_⟩
    rw [hread, hread']

/-- What the header of a literal block says about the breaks at its end. -/
def chompOf (cs : List Char) : Chomp :=
  if chompHint cs = ['-'] then .strip else if chompHint cs = ['+'] then .keep else .clip

theorem chompHint_eq (cs : List Char) :
    chompHint cs = match chompOf cs with | .strip => ['-'] | .clip => [] | .keep => ['+'] := by
  have hcases : chompHint cs = ['-'] ∨ chompHint cs = ['+'] ∨ chompHint cs = [] := by
    unfold chompHint
    split <;> (try split) <;> (try split) <;> simp
  rcases hcases with h | h | h <;> simp [chompOf, h]

theorem readBlockHeader?_hints (cs rest : List Char) :
    readBlockHeader? (indentHint cs ++ chompHint cs ++ '\n' :: rest) =
      some (⟨chompOf cs, if indentHint cs = [] then none else some 2⟩, '\n' :: rest) := by
  have hindent : indentHint cs = [] ∨ indentHint cs = ['2'] := by
    unfold indentHint
    split <;> (try split) <;> simp
  rw [chompHint_eq]
  rcases hindent with hi | hi <;> rw [hi] <;> cases chompOf cs <;> rfl

/-- The break that ends the last line of a block, unless it belongs to the text. -/
def blockEnding (cs : List Char) : List Char :=
  if cs.getLast?.any isBreak then [] else ['\n']

/-- Behind its ending, what was read of a block is cut to the text that was written. -/
theorem scanLines_ending (level : Nat) {indent : Nat} {b : BlockText} {m : Mark} {cs : List Char}
    (hb : b.IsOpen indent) (hwhole : b.whole = cs) (hne : cs ≠ [])
    (hcolumn : b.column = some indent) (hm : b.inLine = false → m.column = 0)
    (rest : List Char) :
    ∃ b' m', b'.inLine = false ∧ b'.column = some indent ∧ b'.toText (chompOf cs) = cs ∧
      m'.column = 0 ∧ m.line ≤ m'.line ∧
      scanLines false level b m (blockEnding cs ++ rest) = scanLines false level b' m' rest := by
  subst hwhole
  obtain ⟨htext, hstrip⟩ := hb.toText_chomp (chompHint_eq b.whole) hne
  cases hin : b.inLine with
  | true =>
    obtain ⟨hchomp, hwhole⟩ := hstrip hin
    have hending : blockEnding b.whole = ['\n'] := by
      simp [blockEnding, hb.getLast?_whole hne, hin]
    refine ⟨{ b with inLine := false, lastBreak := some '\n', emptyBreaks := [] }, m.newLine,
      rfl, hcolumn, ?_, rfl, by simp, ?_⟩
    · rw [hchomp, hwhole]
      rfl
    · rw [hending]
      simp [scanLines, hin, isBreak]
  | false =>
    have hending : blockEnding b.whole = [] := by
      simp [blockEnding, hb.getLast?_whole hne, hin]
    exact ⟨b, m, hin, hcolumn, htext, hm hin, Nat.le_refl _, by simp [hending]⟩

/-- A literal block is read up to the text that follows it, whose indentation is read with it. -/
theorem scanBlock_literal {level indent column : Nat} {cs : List Char} (hne : cs ≠ [])
    (hprint : IsPrintable cs) (hindent : indent = level - 1 + 2) {rest : List Char}
    (hrest : Dedents level column rest) (m : Mark) :
    ∃ m', m'.column = column ∧ m.line < m'.line ∧
      scanBlock false level m
        (indentHint cs ++ chompHint cs ++ '\n' :: (renderLines indent true cs ++
          (blockEnding cs ++ (spaces column ++ rest)))) = some ⟨cs, m', rest⟩ := by
  have hstart : ({ column := if indentHint cs = [] then none else some indent } :
      BlockText).IsOpen indent := by
    refine ⟨?_, rfl, by simp, by simp [BlockText.breaks], by simp, by simp⟩
    split <;> simp
  have hfirst : ({ column := if indentHint cs = [] then none else some indent } :
      BlockText).column = none → ∀ c ∈ cs.head?, c ≠ ' ' ∧ isBreak c = false := by
    intro hcolumn c hc
    cases cs with
    | nil => simp at hc
    | cons d ds =>
      obtain rfl : d = c := by simpa using hc
      simp [indentHint] at hcolumn
      exact hcolumn
  obtain ⟨b, m₁, hb, hwhole, hcolumn, hm₁, hline, hread⟩ :=
    scanLines_renderLines level (by omega) (by omega)
      (blockEnding cs ++ (spaces column ++ rest)) cs (m := m.newLine) hstart hprint hfirst
      (by simp)
  have hwhole' : b.whole = cs := by simpa [BlockText.whole, BlockText.breaks] using hwhole
  obtain ⟨b', m', hin, hcolumn', htext, hm', hline', hread'⟩ :=
    scanLines_ending level hb hwhole' hne (hcolumn (.inr hne)) hm₁
      (spaces column ++ rest)
  have hscan : scanLines false level { column := if indentHint cs = [] then none else some indent }
      m.newLine (renderLines indent true cs ++ (blockEnding cs ++ (spaces column ++ rest))) =
        some ⟨b', m'.advance column, rest⟩ := by
    rw [Bool.not_false] at hread
    rw [hread, hread']
    -- what follows stands further left than the lines, so that it ends the block
    rcases hrest with ⟨rfl, rfl⟩ | ⟨c, cs, rfl, hbreak, hblank, -, hlt⟩
    · simp [spaces, scanLines]
    · simp only [isBlank, Bool.or_eq_false_iff] at hblank
      have hother : column ≠ indent := by omega
      rw [scanLines_spaces level hin]
      · simp [scanLines, hin, hbreak, hblank, hm', BlockText.settledColumn, hcolumn', hother]
      · intro k hk
        rw [hcolumn'] at hk
        cases hk
        omega
  refine ⟨m'.advance column, by simp [hm'], ?_, ?_⟩
  · simp only [Mark.line_newLine, Mark.line_advance] at hline ⊢
    omega
  · have hincrement : ((if indentHint cs = [] then none else some 2 : Option Nat).map
        fun n => level - 1 + n) = if indentHint cs = [] then none else some indent := by
      split <;> simp [hindent]
    simp only [scanBlock, readBlockHeader?_hints, Option.bind_eq_bind, Option.bind_some]
    simp [dropLineEnd?, isBlank, isBreak, hincrement, hscan, htext]

end PoolOperator.Yaml
