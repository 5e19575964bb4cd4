import PoolOperator.Proofs.Yaml.Scalar
import PoolOperator.Yaml.Token.Lexer

/-!
# Reading the tokens of a block

Between two tokens of a block the lexer holds no pending key and no open bracket (`Lexer.place`).
From one such place to the next it reads a dash, a key with its colon, or a value, and closes the
blocks that have ended on the way (`Lexer.arrive`).
-/

namespace PoolOperator.Yaml.Lexer

/-! ## Runs -/

/-- The lexer behind the next token and what separates it from the one after it. -/
def next? (s : Lexer) : Option Lexer :=
  match s.rest with
  | [] => none
  | c :: cs => (s.readToken? c cs).bind settle?

/-- A lexer that is reached from another one by reading tokens, each of some characters. -/
inductive Reads : Lexer → Lexer → Prop where
  | refl (s : Lexer) : Reads s s
  | step {s t u : Lexer} (hnext : s.next? = some t) (hlt : t.rest.length < s.rest.length)
      (h : Reads t u) : Reads s u

theorem Reads.trans {s t u : Lexer} (h₁ : Reads s t) (h₂ : Reads t u) : Reads s u := by
  induction h₁ with
  | refl => exact h₂
  | step hnext hlt _ ih => exact .step hnext hlt (ih h₂)

/-- A run whose budget exceeds the characters that are left reads all tokens. -/
theorem run?_of_reads {s t : Lexer} (h : Reads s t) (hend : t.rest = []) {tokens : List Token}
    (hfinish : t.finish? = some tokens) :
    ∀ {budget : Nat} {start : Lexer}, s.rest.length < budget → start.settle? = some s →
      run? budget start = some tokens := by
  induction h with
  | refl s =>
    intro budget start hbudget hsettle
    obtain ⟨b, rfl⟩ : ∃ b, budget = b + 1 := ⟨budget - 1, by omega⟩
    simp [run?, hsettle, hend, hfinish]
  | @step s t u hnext hlt _ ih =>
    intro budget start hbudget hsettle
    obtain ⟨b, rfl⟩ : ∃ b, budget = b + 1 := ⟨budget - 1, by omega⟩
    cases hrest : s.rest with
    | nil => simp [next?, hrest] at hnext
    | cons c cs =>
      simp only [next?, hrest, Option.bind_eq_some_iff] at hnext
      obtain ⟨v, hread, hsettle'⟩ := hnext
      have hbudget' : t.rest.length < b := by omega
      have hrun := ih hend hfinish hbudget' hsettle'
      simp [run?, hsettle, hrest, hread, hrun]

/-- A lexer right behind a token, from which another one is reached. -/
def Leads (s t : Lexer) : Prop := ∃ u, s.settle? = some u ∧ Reads u t

theorem length_rest_skipBlanks (inFlow : Bool) (cs : List Char) :
    ∀ (keyAllowed inComment : Bool) (m : Mark),
      (skipBlanks inFlow keyAllowed inComment m cs).rest.length ≤ cs.length := by
  induction cs with
  | nil =>
    intro keyAllowed inComment m
    simp [skipBlanks]
  | cons c cs ih =>
    intro keyAllowed inComment m
    simp only [skipBlanks]
    split
    · exact Nat.le_succ_of_le (ih ..)
    · split
      · exact Nat.le_succ_of_le (ih ..)
      · split
        · exact Nat.le_succ_of_le (ih ..)
        · split
          · exact Nat.le_succ_of_le (ih ..)
          · exact Nat.le_refl _

theorem rest_unroll (s : Lexer) : s.unroll.rest = s.rest := by
  unfold unroll
  split <;> rfl

theorem length_rest_settle? {s t : Lexer} (h : s.settle? = some t) :
    t.rest.length ≤ s.rest.length := by
  simp only [settle?, dropStale?, Option.bind_eq_bind, Option.pure_def,
    Option.bind_eq_some_iff] at h
  obtain ⟨_, ⟨_, -, _, -, hu⟩, ht⟩ := h
  cases hu
  cases ht
  rw [rest_unroll]
  exact length_rest_skipBlanks ..

/-- One token is read, and then the others. -/
theorem Reads.token {s t u : Lexer} {c : Char} {cs : List Char} (hrest : s.rest = c :: cs)
    (hread : s.readToken? c cs = some t) (hlt : t.rest.length < s.rest.length)
    (h : Leads t u) : Reads s u := by
  obtain ⟨v, hsettle, h⟩ := h
  refine .step ?_ (Nat.lt_of_le_of_lt (length_rest_settle? hsettle) hlt) h
  simp [next?, hrest, hread, hsettle]

/-! ## Places -/

/-- The lexer between two tokens of a block, with the levels of the blocks around it. -/
def place (tokens : List Token) (level : Nat) (levels : List Nat) (keyAllowed : Bool) (m : Mark)
    (rest : List Char) : Lexer :=
  { tokens := tokens, mark := m, rest := rest, level := level, levels := levels,
    keyAllowed := keyAllowed }

/-- The same, with the blocks closed that start behind the place. -/
def arrive (tokens : List Token) (level : Nat) (levels : List Nat) (keyAllowed : Bool) (m : Mark)
    (rest : List Char) : Lexer :=
  let (tokens, level, levels) := unrollFrom m.column tokens level levels
  place tokens level levels keyAllowed m rest

theorem arrive_of_le {level : Nat} {m : Mark} (h : level ≤ m.column + 1) (tokens : List Token)
    (levels : List Nat) (keyAllowed : Bool) (rest : List Char) :
    arrive tokens level levels keyAllowed m rest = place tokens level levels keyAllowed m rest := by
  have hnot : ¬ m.column + 1 < level := Nat.not_lt.mpr h
  cases levels <;> simp [arrive, unrollFrom, hnot]

/-- A block that starts behind the place is closed. -/
theorem arrive_of_lt {level : Nat} {m : Mark} (h : m.column + 1 < level) (tokens : List Token)
    (outer : Nat) (levels : List Nat) (keyAllowed : Bool) (rest : List Char) :
    arrive tokens level (outer :: levels) keyAllowed m rest =
      arrive (.blockEnd :: tokens) outer levels keyAllowed m rest := by
  simp [arrive, unrollFrom, h]

/-! ## Separators -/

/-- A value that may turn out to be a key, or none, of which nothing is left on the next lines. -/
def Fades (key : Option PendingKey) (m : Mark) : Prop :=
  ∀ k ∈ key, k.mark = m ∧ k.isRequired = false

theorem freshKey?_of_fades {key : Option PendingKey} {m m' : Mark} (h : Fades key m)
    (hlt : m.line < m'.line) : freshKey? m' key = some none := by
  cases key with
  | none => rfl
  | some k =>
    obtain ⟨hmark, hrequired⟩ := h k rfl
    simp [freshKey?, PendingKey.isStale, hmark, hrequired, hlt]

theorem skipBlanks_solid {rest : List Char} (h : StartsSolid rest) (keyAllowed : Bool) (m : Mark) :
    skipBlanks false keyAllowed false m rest = ⟨keyAllowed, m, rest⟩ := by
  cases rest with
  | nil => simp [skipBlanks]
  | cons c cs =>
    obtain ⟨hbreak, hblank, hhash⟩ := startsSolid_cons.mp h
    simp only [isBlank, Bool.or_eq_false_iff] at hblank
    simp [skipBlanks, hbreak, hblank.1, hblank.2, hhash]

theorem skipBlanks_spaces {rest : List Char} (h : StartsSolid rest) (keyAllowed : Bool) :
    ∀ (n : Nat) (m : Mark),
      skipBlanks false keyAllowed false m (spaces n ++ rest) =
        ⟨keyAllowed, m.advance n, rest⟩ := by
  intro n
  induction n with
  | zero =>
    intro m
    simpa [spaces] using skipBlanks_solid h keyAllowed m
  | succ n ih =>
    intro m
    have hstep : spaces (n + 1) ++ rest = ' ' :: (spaces n ++ rest) := by
      simp [spaces, List.replicate_succ]
    rw [hstep, skipBlanks]
    simp [isBreak, ih, Nat.add_comm 1 n]

theorem skipBlanks_newLine {rest : List Char} (h : StartsSolid rest) (keyAllowed : Bool)
    (n : Nat) (m : Mark) :
    skipBlanks false keyAllowed false m ('\n' :: (spaces n ++ rest)) =
      ⟨true, m.newLine.advance n, rest⟩ := by
  rw [skipBlanks]
  simp [isBreak, skipBlanks_spaces h]

/-- What is left of a lexer when it has passed over what separates tokens. -/
theorem settle?_eq {s : Lexer} (houter : s.outer = []) {keyAllowed : Bool} {m : Mark}
    {rest : List Char}
    (hblanks : skipBlanks false s.keyAllowed false s.mark s.rest = ⟨keyAllowed, m, rest⟩)
    {key : Option PendingKey} (hkey : freshKey? m s.pending = some key) :
    s.settle? =
      some { arrive s.tokens s.level s.levels keyAllowed m rest with pending := key } := by
  obtain ⟨tokens, mark, rest', level, levels, pending, outer, ka⟩ := s
  subst houter
  simp only at hblanks hkey
  simp [settle?, inFlow, hblanks, dropStale?, hkey, unroll, arrive, place]

theorem pending_arrive (tokens : List Token) (level : Nat) (levels : List Nat) (keyAllowed : Bool)
    (m : Mark) (rest : List Char) :
    { arrive tokens level levels keyAllowed m rest with pending := none } =
      arrive tokens level levels keyAllowed m rest := rfl

/-- Behind a value the next token is on another line, so that the value is no key. -/
theorem leads_of_fades {s t : Lexer} (houter : s.outer = []) {keyAllowed : Bool} {m m' : Mark}
    {rest : List Char} (hkey : Fades s.pending m) (hlt : m.line < m'.line)
    (hblanks : skipBlanks false s.keyAllowed false s.mark s.rest = ⟨keyAllowed, m', rest⟩)
    (h : Reads (arrive s.tokens s.level s.levels keyAllowed m' rest) t) : Leads s t := by
  have hsettle := settle?_eq houter hblanks (freshKey?_of_fades hkey hlt)
  rw [pending_arrive] at hsettle
  exact ⟨_, hsettle, h⟩

/-- Behind a dash or a colon nothing can be a key yet. -/
theorem leads_of_blanks {s t : Lexer} (houter : s.outer = []) (hkey : s.pending = none)
    {keyAllowed : Bool} {m : Mark} {rest : List Char}
    (hblanks : skipBlanks false s.keyAllowed false s.mark s.rest = ⟨keyAllowed, m, rest⟩)
    (h : Reads (arrive s.tokens s.level s.levels keyAllowed m rest) t) : Leads s t := by
  have hfresh : freshKey? m s.pending = some none := by simp [hkey, freshKey?]
  have hsettle := settle?_eq houter hblanks hfresh
  rw [pending_arrive] at hsettle
  exact ⟨_, hsettle, h⟩

/-- A space is passed over. -/
theorem leads_of_space {tokens : List Token} {level : Nat} {levels : List Nat} {keyAllowed : Bool}
    {m : Mark} {rest : List Char} {t : Lexer} (hsolid : StartsSolid rest)
    (hlevel : level ≤ m.column + 2)
    (h : Reads (place tokens level levels keyAllowed (m.advance 1) rest) t) :
    Leads (place tokens level levels keyAllowed m (' ' :: rest)) t := by
  rw [← arrive_of_le (m := m.advance 1) hlevel] at h
  exact leads_of_blanks rfl rfl (skipBlanks_spaces hsolid keyAllowed 1 m) h

/-- So are a break and the indentation behind it. -/
theorem leads_of_newLine {tokens : List Token} {level : Nat} {levels : List Nat}
    {keyAllowed : Bool} {m : Mark} {rest : List Char} {t : Lexer} (hsolid : StartsSolid rest)
    {n : Nat} (hlevel : level ≤ n + 1)
    (h : Reads (place tokens level levels true (m.newLine.advance n) rest) t) :
    Leads (place tokens level levels keyAllowed m ('\n' :: (spaces n ++ rest))) t := by
  have hlevel' : level ≤ (m.newLine.advance n).column + 1 := by simpa using hlevel
  rw [← arrive_of_le hlevel'] at h
  exact leads_of_blanks rfl rfl (skipBlanks_newLine hsolid keyAllowed n m) h

/-! ## Scalars -/

/-- A value behind the column of its block is remembered as a key that need not be one. -/
theorem saveKey?_place {level : Nat} {m : Mark} (hm : level ≤ m.column) (tokens : List Token)
    (levels : List Nat) (keyAllowed : Bool) (rest : List Char) :
    ∃ key, Fades key m ∧ (place tokens level levels keyAllowed m rest).saveKey? =
      some { place tokens level levels keyAllowed m rest with pending := key } := by
  cases keyAllowed with
  | false => exact ⟨none, by simp [Fades], rfl⟩
  | true =>
    have hlevel : level ≠ m.column + 1 := by omega
    refine ⟨some ⟨tokens.length, m, false⟩, by simp [Fades], ?_⟩
    simp [saveKey?, place, dropKey?, isAtLevel, hlevel]

/-- Three marks of a document are no mark any more if another character stands among them. -/
theorem isDocumentMark_append (cs : List Char) (h : startsWithMark cs = false) {d : Char}
    (hdash : d ≠ '-') (hpoint : d ≠ '.') (rest : List Char) :
    isDocumentMark (cs ++ d :: rest) = false := by
  unfold isDocumentMark
  split
  · rename_i hcs
    rcases cs with _ | ⟨a, _ | ⟨b, _ | ⟨e, cs⟩⟩⟩ <;> simp_all [startsWithMark]
  · rename_i hcs
    rcases cs with _ | ⟨a, _ | ⟨b, _ | ⟨e, cs⟩⟩⟩ <;> simp_all [startsWithMark]
  · rfl

/-- A plain text is read as a plain scalar. -/
theorem readToken?_plain {c d : Char} {cs : List Char} (h : IsPlain c cs) (hdash : d ≠ '-')
    (hpoint : d ≠ '.') (rest : List Char) {s : Lexer} (houter : s.outer = []) :
    s.readToken? c (cs ++ d :: rest) = s.readPlain? := by
  have hown := h.noIndicator
  simp only [isIndicator, Bool.or_eq_false_iff, beq_eq_false_iff_ne] at hown
  have hlone : ∀ {e : Char}, e = '?' ∨ e = ':' ∨ e = '-' → c = e →
      atSeparator (cs ++ d :: rest) = false := by
    rintro e he rfl
    have hsep := h.noLoneMark he
    cases cs with
    | nil => simp [atSeparator] at hsep
    | cons e es => rwa [atSeparator_append (by simp)]
  have hmark : isDocumentMark (c :: (cs ++ d :: rest)) = false :=
    isDocumentMark_append (c :: cs) h.noMark hdash hpoint rest
  have hdash' : ¬ (c = '-' ∧ atSeparator (cs ++ d :: rest) = true) := by
    rintro ⟨hc, hsep⟩
    rw [hlone (.inr (.inr rfl)) hc] at hsep
    contradiction
  have hquestion : ¬ (c = '?' ∧ (s.inFlow = true ∨ atSeparator (cs ++ d :: rest) = true)) := by
    rintro ⟨hc, hflow | hsep⟩
    · simp [inFlow, houter] at hflow
    · rw [hlone (.inl rfl) hc] at hsep
      contradiction
  have hcolon : ¬ (c = ':' ∧ (s.inFlow = true ∨ atSeparator (cs ++ d :: rest) = true)) := by
    rintro ⟨hc, hflow | hsep⟩
    · simp [inFlow, houter] at hflow
    · rw [hlone (.inr (.inl rfl)) hc] at hsep
      contradiction
  simp only [readToken?, hmark, hdash', hquestion, hcolon, hown, h.noIndicator, h.startsSolid,
    and_false, false_and, if_false, Bool.false_eq_true, Bool.or_false]

section Scalars

variable {tokens : List Token} {level column : Nat} {levels : List Nat} {keyAllowed : Bool}
  {m : Mark} {rest : List Char}

theorem reads_plain {d : Char} {ds : List Char} (h : IsPlain d ds) (hm : level ≤ m.column)
    (hrest : Dedents level column rest) :
    ∃ m', m'.column = column ∧
      Reads (place tokens level levels keyAllowed m (d :: ds ++ '\n' :: (spaces column ++ rest)))
        (arrive (.scalar .plain (d :: ds) :: tokens) level levels true m' rest) := by
  obtain ⟨key, hkey, hsave⟩ := saveKey?_place hm tokens levels keyAllowed
    (d :: ds ++ '\n' :: (spaces column ++ rest))
  obtain ⟨f, m', hbroken, htext, hcolumn, hline, hscan⟩ :=
    scanPlain_value h (m := m) (Nat.le_succ_of_le hm) hrest
  have hread : (place tokens level levels keyAllowed m
      (d :: ds ++ '\n' :: (spaces column ++ rest))).readToken? d
        (ds ++ '\n' :: (spaces column ++ rest)) =
      some { place (.scalar .plain (d :: ds) :: tokens) level levels true m' rest with
        pending := key } := by
    rw [readToken?_plain h (by decide) (by decide) _ rfl]
    simp only [readPlain?, hsave, Option.bind_eq_bind, Option.bind_some]
    simp only [place, inFlow, List.isEmpty_nil, Bool.not_true, hscan, Option.bind_some, emit,
      htext, hbroken]
    rfl
  refine ⟨m', hcolumn, Reads.token rfl hread ?_ ?_⟩
  · simp only [place, List.length_append, List.length_cons]
    omega
  · exact leads_of_fades rfl hkey hline (skipBlanks_solid hrest.startsSolid _ _) (.refl _)

theorem reads_single {indent : Nat} (hindent : 0 < indent) {cs : List Char}
    (h : Suits .single cs) (hm : level ≤ m.column) (hrest : Dedents level column rest) :
    ∃ m', m'.column = column ∧
      Reads (place tokens level levels keyAllowed m
          (writeScalar indent .single cs ++ (spaces column ++ rest)))
        (arrive (.scalar .single cs :: tokens) level levels true m' rest) := by
  obtain ⟨hprint, hfeed, hspace, hbreak⟩ := h
  have htext : writeScalar indent .single cs ++ (spaces column ++ rest) =
      '\'' :: (renderSingleBody indent false cs ++ '\'' :: '\n' :: (spaces column ++ rest)) := by
    simp [writeScalar, renderSingle]
  obtain ⟨key, hkey, hsave⟩ := saveKey?_place hm tokens levels keyAllowed
    ('\'' :: (renderSingleBody indent false cs ++ '\'' :: '\n' :: (spaces column ++ rest)))
  obtain ⟨m', hline, hscan⟩ := scanSingle_body hindent ('\n' :: (spaces column ++ rest))
    (by simp) cs (f := {}) (m := m.advance 1) hprint hfeed hspace hbreak
    (Folding.isUnfolded_empty cs) (by simp)
  rw [htext]
  refine ⟨m'.newLine.advance column, by simp, Reads.token rfl
    (t := { place (.scalar .single cs :: tokens) level levels false m'
      ('\n' :: (spaces column ++ rest)) with pending := key }) ?_ ?_ ?_⟩
  · have hread : (place tokens level levels keyAllowed m ('\'' :: (renderSingleBody indent false cs
        ++ '\'' :: '\n' :: (spaces column ++ rest)))).readToken? '\'' (renderSingleBody indent false
          cs ++ '\'' :: '\n' :: (spaces column ++ rest)) =
        (place tokens level levels keyAllowed m ('\'' :: (renderSingleBody indent false cs ++
          '\'' :: '\n' :: (spaces column ++ rest)))).readQuoted? .single := by
      simp [readToken?, isDocumentMark]
    rw [hread]
    simp only [readQuoted?, hsave, Option.bind_eq_bind, Option.bind_some]
    simp [place, hscan, emit]
  · simp only [place, List.length_append, List.length_cons]
    omega
  · have hline' : m.line < (m'.newLine.advance column).line := by
      rw [Mark.line_advance] at hline
      simpa using Nat.lt_succ_of_le hline
    exact leads_of_fades rfl hkey hline' (skipBlanks_newLine hrest.startsSolid _ _ _) (.refl _)

theorem reads_double {indent : Nat} {cs : List Char} (hm : level ≤ m.column)
    (hrest : Dedents level column rest) :
    ∃ m', m'.column = column ∧
      Reads (place tokens level levels keyAllowed m
          (writeScalar indent .double cs ++ (spaces column ++ rest)))
        (arrive (.scalar .double cs :: tokens) level levels true m' rest) := by
  have htext : writeScalar indent .double cs ++ (spaces column ++ rest) =
      '"' :: (cs.flatMap escapeChar ++ '"' :: '\n' :: (spaces column ++ rest)) := by
    simp [writeScalar, renderDouble]
  obtain ⟨key, hkey, hsave⟩ := saveKey?_place hm tokens levels keyAllowed
    ('"' :: (cs.flatMap escapeChar ++ '"' :: '\n' :: (spaces column ++ rest)))
  obtain ⟨n, hscan⟩ := scanDouble_flatMap cs ('\n' :: (spaces column ++ rest)) (f := {})
    (m := m.advance 1) rfl (by simp)
  rw [htext]
  refine ⟨((m.advance 1).advance n).newLine.advance column, by simp, Reads.token rfl
    (t := { place (.scalar .double cs :: tokens) level levels false ((m.advance 1).advance n)
      ('\n' :: (spaces column ++ rest)) with pending := key }) ?_ ?_ ?_⟩
  · have hread : (place tokens level levels keyAllowed m ('"' :: (cs.flatMap escapeChar ++
        '"' :: '\n' :: (spaces column ++ rest)))).readToken? '"' (cs.flatMap escapeChar ++
          '"' :: '\n' :: (spaces column ++ rest)) =
        (place tokens level levels keyAllowed m ('"' :: (cs.flatMap escapeChar ++
          '"' :: '\n' :: (spaces column ++ rest)))).readQuoted? .double := by
      simp [readToken?, isDocumentMark]
    rw [hread]
    simp only [readQuoted?, hsave, Option.bind_eq_bind, Option.bind_some]
    simp [place, hscan, emit]
  · simp only [place, List.length_append, List.length_cons]
    omega
  · have hline : m.line < (((m.advance 1).advance n).newLine.advance column).line := by simp
    exact leads_of_fades rfl hkey hline (skipBlanks_newLine hrest.startsSolid _ _ _) (.refl _)

theorem reads_literal {indent : Nat} (hindent : indent = level - 1 + 2) {cs : List Char}
    (h : Suits .literal cs) (hrest : Dedents level column rest) :
    ∃ m', m'.column = column ∧
      Reads (place tokens level levels keyAllowed m
          (writeScalar indent .literal cs ++ (spaces column ++ rest)))
        (arrive (.scalar .literal cs :: tokens) level levels true m' rest) := by
  obtain ⟨hne, hprint⟩ := h
  obtain ⟨m', hcolumn, hline, hscan⟩ := scanBlock_literal hne hprint hindent hrest m
  have htext : writeScalar indent .literal cs ++ (spaces column ++ rest) =
      '|' :: (indentHint cs ++ chompHint cs ++ '\n' :: (renderLines indent true cs ++
        (blockEnding cs ++ (spaces column ++ rest)))) := by
    simp [writeScalar, renderLiteral]
  rw [htext]
  have hread : (place tokens level levels keyAllowed m
      ('|' :: (indentHint cs ++ chompHint cs ++ '\n' :: (renderLines indent true cs ++
        (blockEnding cs ++ (spaces column ++ rest)))))).readToken? '|'
        (indentHint cs ++ chompHint cs ++ '\n' :: (renderLines indent true cs ++
          (blockEnding cs ++ (spaces column ++ rest)))) =
      some (place (.scalar .literal cs :: tokens) level levels true m' rest) := by
    have hblock : ∀ (s : Lexer) (ds : List Char), s.outer = [] →
        s.readToken? '|' ds = s.readBlock? .literal := by
      intro s ds houter
      simp [readToken?, isDocumentMark, inFlow, houter]
    have hfolded : (Style.literal == Style.folded) = false := rfl
    rw [hblock _ _ rfl]
    simp only [readBlock?, hfolded, place, hscan, dropKey?, Option.bind_eq_bind, Option.bind_some,
      Option.pure_def, emit, List.drop_one, List.tail_cons]
  refine ⟨m', hcolumn, Reads.token rfl hread ?_ ?_⟩
  · simp only [place, List.length_append, List.length_cons]
    omega
  · exact leads_of_blanks rfl rfl (skipBlanks_solid hrest.startsSolid _ _) (.refl _)

variable (tokens levels keyAllowed) in
/-- A scalar in a style that suits it is read up to the text that follows it. -/
theorem reads_scalar (indent : Nat) (hindent : indent = level - 1 + 2) {style : Style}
    {cs : List Char} (h : Suits style cs) (hm : level ≤ m.column)
    (hrest : Dedents level column rest) :
    ∃ m', m'.column = column ∧
      Reads (place tokens level levels keyAllowed m
          (writeScalar indent style cs ++ (spaces column ++ rest)))
        (arrive (.scalar style cs :: tokens) level levels true m' rest) := by
  cases style with
  | plain =>
    obtain ⟨d, ds, rfl, hplain⟩ := h
    simpa [writeScalar] using reads_plain hplain hm hrest
  | single => exact reads_single (by omega) h hm hrest
  | double => exact reads_double hm hrest
  | literal => exact reads_literal hindent h hrest
  | folded => exact h.elim

end Scalars

/-! ## Collections -/

/-- The first token of a block at a column opens the block, unless it is open already. -/
inductive Enters (t : Token) (column : Nat) :
    List Token → Nat → List Nat → List Token → List Nat → Prop where
  | opens {tokens : List Token} {level : Nat} {levels : List Nat} (h : level < column + 1) :
      Enters t column tokens level levels (t :: tokens) (level :: levels)
  | stays {tokens : List Token} {levels : List Nat} :
      Enters t column tokens (column + 1) levels tokens levels

section Collections

variable {t : Token} {tokens tokens' : List Token} {level column : Nat} {levels levels' : List Nat}
  {keyAllowed : Bool} {m : Mark} {rest : List Char}

theorem Enters.level_le (h : Enters t column tokens level levels tokens' levels') :
    level ≤ column + 1 := by
  cases h with
  | opens h => exact Nat.le_of_lt h
  | stays => exact Nat.le_refl _

theorem roll_of_enters (h : Enters t column tokens level levels tokens' levels')
    (keyAllowed : Bool) (m : Mark) (rest : List Char) (key : Option PendingKey) :
    { place tokens level levels keyAllowed m rest with pending := key }.roll column t =
      { place tokens' (column + 1) levels' keyAllowed m rest with pending := key } := by
  cases h with
  | opens h => simp [roll, place, inFlow, h]
  | stays => simp [roll, place]

/-- An empty collection, in brackets. -/
theorem reads_brackets (b e : Char) (t t' : Token)
    (hopening : ∀ (s : Lexer) (ds : List Char), s.readToken? b ds = s.readOpening? t)
    (hclosing : ∀ (s : Lexer) (ds : List Char), s.readToken? e ds = s.readClosing? t')
    (hbreak : isBreak e = false) (hblank : isBlank e = false) (hhash : e ≠ '#')
    (hm : level ≤ m.column) (hrest : Dedents level column rest) :
    ∃ m', m'.column = column ∧
      Reads (place tokens level levels keyAllowed m (b :: e :: '\n' :: (spaces column ++ rest)))
        (arrive (t' :: t :: tokens) level levels true m' rest) := by
  obtain ⟨key, hkey, hsave⟩ := saveKey?_place hm tokens levels keyAllowed
    (b :: e :: '\n' :: (spaces column ++ rest))
  let inside : Lexer :=
    { tokens := t :: tokens, mark := m.advance 1, rest := e :: '\n' :: (spaces column ++ rest),
      level := level, levels := levels, outer := [key] }
  let behind : Lexer :=
    { tokens := t' :: t :: tokens, mark := m.advance 2, rest := '\n' :: (spaces column ++ rest),
      level := level, levels := levels, pending := key, keyAllowed := false }
  have hopen : (place tokens level levels keyAllowed m
      (b :: e :: '\n' :: (spaces column ++ rest))).readToken? b
        (e :: '\n' :: (spaces column ++ rest)) = some inside := by
    rw [hopening]
    simp only [readOpening?, hsave, Option.bind_eq_bind, Option.bind_some]
    simp [place, emit, skip, inside]
  -- the bracket is on the same line, and so nothing becomes stale
  have hsettle : inside.settle? = some inside := by
    have hfresh : freshKey? (m.advance 1) key = some key := by
      cases key with
      | none => rfl
      | some k =>
        obtain ⟨hmark, -⟩ := hkey k rfl
        simp [freshKey?, PendingKey.isStale, hmark, maxKeyLength]
    have hblanks : skipBlanks true true false (m.advance 1)
        (e :: '\n' :: (spaces column ++ rest)) =
          ⟨true, m.advance 1, e :: '\n' :: (spaces column ++ rest)⟩ := by
      simp only [isBlank, Bool.or_eq_false_iff] at hblank
      simp [skipBlanks, hbreak, hblank.1, hblank.2, hhash]
    have hnone : freshKey? (m.advance 1) none = some none := rfl
    simp [settle?, inFlow, inside, hblanks, dropStale?, hnone, hfresh, unroll]
  have hclose : inside.readToken? e ('\n' :: (spaces column ++ rest)) = some behind := by
    rw [hclosing]
    simp [readClosing?, inside, dropKey?, emit, skip, behind]
  refine ⟨(m.advance 2).newLine.advance column, by simp, ?_⟩
  refine Reads.token rfl hopen (by simp [place, inside]) ⟨inside, hsettle, ?_⟩
  refine Reads.token rfl hclose (by simp [inside, behind]) ?_
  have hline : m.line < ((m.advance 2).newLine.advance column).line := by simp
  exact leads_of_fades rfl hkey hline (skipBlanks_newLine hrest.startsSolid _ _ _) (.refl _)

/-- The dash of an item. -/
theorem reads_dash {u : Lexer}
    (h : Enters .blockSequence m.column tokens level levels tokens' levels')
    (hrest : atSeparator rest = true)
    (hnext : Leads (place (.blockEntry :: tokens') (m.column + 1) levels' true (m.advance 1)
      rest) u) :
    Reads (place tokens level levels true m ('-' :: rest)) u := by
  have hmark : isDocumentMark ('-' :: rest) = false := by
    rcases rest with _ | ⟨c, cs⟩
    · rfl
    · have hc : c ≠ '-' := by
        rintro rfl
        exact Bool.false_ne_true hrest
      unfold isDocumentMark
      split <;> simp_all
  have hread : ∀ s : Lexer, s.readToken? '-' rest = readEntry? s := by
    intro s
    simp [readToken?, hmark, hrest]
  have hentry : readEntry? (place tokens level levels true m ('-' :: rest)) =
      some (place (.blockEntry :: tokens') (m.column + 1) levels' true (m.advance 1) rest) := by
    have hroll := roll_of_enters h true m ('-' :: rest) none
    simp only [place] at hroll
    simp [ readEntry?, place, inFlow, hroll, dropKey?, emit, skip]
  exact Reads.token rfl ((hread _).trans hentry) (by simp [place]) hnext

/-- A plain text and the colon behind it, which makes it a key. -/
theorem reads_key {u : Lexer} {c : Char} {cs : List Char} (hkey : IsPlain c cs)
    (hlength : cs.length < maxKeyLength)
    (h : Enters .blockMapping m.column tokens level levels tokens' levels')
    (hrest : atSeparator rest = true)
    (hnext : Leads (place (.value :: .scalar .plain (c :: cs) :: .key :: tokens') (m.column + 1)
      levels' false (m.advance (cs.length + 2)) rest) u) :
    Reads (place tokens level levels true m (c :: cs ++ ':' :: rest)) u := by
  obtain ⟨f, hbroken, htext, hscan⟩ := scanPlain_key hkey h.level_le hrest
  let key : PendingKey := ⟨tokens.length, m, level == m.column + 1⟩
  -- the key, which is remembered
  have hplain : (place tokens level levels true m (c :: cs ++ ':' :: rest)).readToken? c
      (cs ++ ':' :: rest) =
      some { place (.scalar .plain (c :: cs) :: tokens) level levels false
        (m.advance (cs.length + 1)) (':' :: rest) with pending := some key } := by
    rw [readToken?_plain hkey (by decide) (by decide) _ rfl]
    simp only [readPlain?, saveKey?, place, dropKey?, inFlow, isAtLevel, List.isEmpty_nil,
      Bool.not_true, Bool.not_false, Bool.true_and, if_true, Option.bind_eq_bind, Option.bind_some,
      Option.pure_def, hscan, emit, htext, hbroken, key]
  have hsettle : { place (.scalar .plain (c :: cs) :: tokens) level levels false
        (m.advance (cs.length + 1)) (':' :: rest) with pending := some key }.settle? =
      some { place (.scalar .plain (c :: cs) :: tokens) level levels false
        (m.advance (cs.length + 1)) (':' :: rest) with pending := some key } := by
    have hsolid : StartsSolid (':' :: rest) := startsSolid_cons.mpr (by decide)
    have hfresh : freshKey? (m.advance (cs.length + 1)) (some key) = some (some key) := by
      have : ¬ m.index + maxKeyLength < m.index + (cs.length + 1) := by omega
      simp [freshKey?, PendingKey.isStale, key, this]
    have hle : level ≤ (m.advance (cs.length + 1)).column + 1 := by
      have := h.level_le
      simp
      omega
    rw [settle?_eq rfl (skipBlanks_solid hsolid _ _) hfresh]
    simp only [place, arrive_of_le hle]
  -- the colon
  have hcolon : { place (.scalar .plain (c :: cs) :: tokens) level levels false
        (m.advance (cs.length + 1)) (':' :: rest) with pending := some key }.readToken? ':' rest =
      some (place (.value :: .scalar .plain (c :: cs) :: .key :: tokens') (m.column + 1) levels'
        false (m.advance (cs.length + 2)) rest) := by
    have hroll := roll_of_enters h false (m.advance (cs.length + 1)) (':' :: rest) (some key)
    have hread : ∀ s : Lexer, s.readToken? ':' rest = s.readValue? := by
      intro s
      simp [readToken?, isDocumentMark, hrest]
    simp only [place] at hroll
    rw [hread]
    simp [readValue?, turnIntoKey, place, key, hroll, emit, skip]
  refine Reads.token rfl hplain ?_ ⟨_, hsettle, Reads.token rfl hcolon (by simp [place]) hnext⟩
  simp only [place, List.length_append, List.length_cons]
  omega

end Collections

end PoolOperator.Yaml.Lexer
