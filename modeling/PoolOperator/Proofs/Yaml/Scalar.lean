import PoolOperator.Proofs.Yaml.Block
import PoolOperator.Proofs.Yaml.Plain

/-!
# Scalars as they are written

The text of a scalar up to the end of its last line, and the texts that a style suits. Whatever is
written is printable.
-/

namespace PoolOperator.Yaml

/-! ## Styles -/

/-- Whether a text may be written in a style. -/
def Suits : Style → List Char → Prop
  | .plain, cs => ∃ d ds, cs = d :: ds ∧ IsPlain d ds
  | .single, cs =>
    IsPrintable cs ∧ '\n' ∉ cs ∧ hasSpaceBreak cs = false ∧ hasBreakSpace cs = false
  | .literal, cs => cs ≠ [] ∧ IsPrintable cs
  | .double, _ => True
  | .folded, _ => False

theorem suits_plain {cs : List Char} (hne : cs ≠ []) (h : allowsPlain cs = true) :
    Suits .plain cs := by
  cases cs with
  | nil => exact absurd rfl hne
  | cons d ds => exact ⟨d, ds, rfl, isPlain_of_allowsPlain h⟩

/-- The style that is chosen for a text suits it. -/
theorem suits_ofText (cs : List Char) : Suits (Style.ofText cs) cs := by
  unfold Style.ofText
  split
  · rename_i hfeed
    split
    · rename_i hliteral
      simp only [allowsLiteral, Bool.and_eq_true, Bool.not_eq_true'] at hliteral
      refine ⟨?_, hasSpecial_eq_false_iff.mp hliteral.1.1⟩
      rintro rfl
      simp at hfeed
    · trivial
  · rename_i hfeed
    split
    · rename_i hplain
      simp only [Bool.and_eq_true, Bool.not_eq_true'] at hplain
      obtain ⟨hclear, hallows⟩ := hplain
      refine suits_plain ?_ hallows
      rintro rfl
      simp [isAmbiguous] at hclear
    · split
      · rename_i hsingle
        simp only [allowsSingle, Bool.and_eq_true, Bool.not_eq_true'] at hsingle
        obtain ⟨⟨hspecial, hspace⟩, hbreak⟩ := hsingle
        exact ⟨hasSpecial_eq_false_iff.mp hspecial, by simpa using hfeed, hspace, hbreak⟩
      · trivial

/-! ## Lines -/

/-- The text of a scalar in a style, up to the end of its last line. -/
def writeScalar (indent : Nat) : Style → List Char → List Char
  | .plain, cs => cs ++ ['\n']
  | .single, cs => renderSingle indent cs ++ ['\n']
  | .literal, cs => renderLiteral indent cs ++ blockEnding cs
  | .double, cs | .folded, cs => renderDouble cs ++ ['\n']

theorem startsSolid_writeScalar (indent : Nat) {style : Style} {cs : List Char}
    (h : Suits style cs) (rest : List Char) :
    StartsSolid (writeScalar indent style cs ++ rest) := by
  cases style with
  | plain =>
    obtain ⟨d, ds, rfl, hplain⟩ := h
    exact startsSolid_cons.mpr ⟨hplain.noBreak d (by simp), hplain.startsSolid, hplain.ne_hash⟩
  | single | double | literal => exact startsSolid_cons.mpr (by decide)
  | folded => exact h.elim

theorem endLine_of_getLast? {cs : List Char} {c : Char} (h : cs.getLast? = some c) :
    endLine cs = if isBreak c then cs else cs ++ ['\n'] := by
  rw [endLine, h]

/-- The lines of a block end as the text does. -/
theorem getLast?_renderLines (indent : Nat) {cs : List Char} (h : cs ≠ []) :
    ∀ fresh : Bool, (renderLines indent fresh cs).getLast? = cs.getLast? := by
  induction cs with
  | nil => exact absurd rfl h
  | cons c cs ih =>
    intro fresh
    have hrest : ∀ fresh' : Bool, (c :: renderLines indent fresh' cs).getLast? =
        (c :: cs).getLast? := by
      intro fresh'
      by_cases hcs : cs = []
      · subst hcs
        rfl
      · rw [List.getLast?_cons, List.getLast?_cons, ih hcs]
    rw [renderLines]
    split
    · exact hrest true
    · rw [List.getLast?_append, hrest false, List.getLast?_cons]
      rfl

/-- A text is written in the style that is chosen for it, and its last line is ended. -/
theorem endLine_renderText (indent : Nat) (s : String) :
    endLine (' ' :: renderText indent s) =
      ' ' :: writeScalar indent (Style.ofText s.toList) s.toList := by
  have hsuits := suits_ofText s.toList
  have hsolid : ∀ {cs : List Char} {c : Char}, cs.getLast? = some c → isBreak c = false →
      endLine (' ' :: cs) = ' ' :: cs ++ ['\n'] := by
    intro cs c hlast hbreak
    have hlast' : (' ' :: cs).getLast? = some c := by
      rw [List.getLast?_cons, hlast]
      rfl
    rw [endLine_of_getLast? hlast', if_neg (by simp [hbreak])]
  simp only [renderText]
  cases hstyle : Style.ofText s.toList with
  | plain =>
    rw [hstyle] at hsuits
    obtain ⟨d, ds, hs, hplain⟩ := hsuits
    have hne : d :: ds ≠ [] := List.cons_ne_nil d ds
    rw [hs]
    exact hsolid (List.getLast?_eq_some_getLast hne) (hplain.noBreak _ (List.getLast_mem hne))
  | single => exact hsolid List.getLast?_concat (by decide)
  | double => exact hsolid List.getLast?_concat (by decide)
  | folded =>
    rw [hstyle] at hsuits
    exact hsuits.elim
  | literal =>
    rw [hstyle] at hsuits
    obtain ⟨hne, -⟩ := hsuits
    -- the text itself decides whether its last line has been ended
    have hlast : (' ' :: renderLiteral indent s.toList).getLast? = s.toList.getLast? := by
      have hlines := getLast?_renderLines indent hne true
      rw [renderLiteral, List.getLast?_cons, List.getLast?_append, List.getLast?_cons, hlines,
        List.getLast?_eq_some_getLast hne]
      rfl
    rw [List.getLast?_eq_some_getLast hne] at hlast
    simp only [endLine_of_getLast? hlast, writeScalar, blockEnding,
      List.getLast?_eq_some_getLast hne, Option.any_some]
    split
    · simp
    · rfl

/-! ## Characters -/

theorem isPrintable_spaces (n : Nat) : IsPrintable (spaces n) := by
  intro c hc
  rw [List.eq_of_mem_replicate hc]
  decide

theorem isPrintable_hexDigits (count : Nat) : ∀ n : Nat, IsPrintable (hexDigits count n) := by
  induction count with
  | zero =>
    intro n
    exact isPrintable_nil
  | succ count ih =>
    intro n
    have hall : ∀ i : Fin 16, isPrintable (hexDigit i) = true := by decide
    rw [hexDigits, isPrintable_append]
    refine ⟨ih _, isPrintable_cons.mpr ⟨?_, isPrintable_nil⟩⟩
    exact hall ⟨n % 16, Nat.mod_lt _ (by decide)⟩

theorem isPrintable_escapeChar (c : Char) : IsPrintable (escapeChar c) := by
  have hescape : isPrintable '\\' = true := by decide
  unfold escapeChar
  split
  · rename_i letter hletter
    have hprint : isPrintable letter = true := by
      unfold escapeLetter? at hletter
      split at hletter <;> cases hletter <;> decide
    exact isPrintable_cons.mpr ⟨hescape, isPrintable_cons.mpr ⟨hprint, isPrintable_nil⟩⟩
  · split
    · rename_i hprint
      exact isPrintable_cons.mpr ⟨hprint, isPrintable_nil⟩
    · split
      · exact isPrintable_cons.mpr ⟨hescape, isPrintable_cons.mpr ⟨by decide,
          isPrintable_hexDigits 2 _⟩⟩
      · split
        · exact isPrintable_cons.mpr ⟨hescape, isPrintable_cons.mpr ⟨by decide,
            isPrintable_hexDigits 4 _⟩⟩
        · exact isPrintable_cons.mpr ⟨hescape, isPrintable_cons.mpr ⟨by decide,
            isPrintable_hexDigits 8 _⟩⟩

theorem isPrintable_renderSingleBody (indent : Nat) {cs : List Char} (h : IsPrintable cs) :
    ∀ broken : Bool, IsPrintable (renderSingleBody indent broken cs) := by
  have hmargin : ∀ broken : Bool, IsPrintable (if broken then spaces indent else []) := by
    intro broken
    cases broken
    · exact isPrintable_nil
    · exact isPrintable_spaces indent
  induction cs with
  | nil => exact hmargin
  | cons c cs ih =>
    intro broken
    obtain ⟨hc, hcs⟩ := isPrintable_cons.mp h
    rw [renderSingleBody]
    split
    · rw [isPrintable_append]
      refine ⟨?_, ih hcs true⟩
      split
      · exact isPrintable_cons.mpr ⟨by decide, isPrintable_cons.mpr ⟨hc, isPrintable_nil⟩⟩
      · exact isPrintable_cons.mpr ⟨hc, isPrintable_nil⟩
    · rw [isPrintable_append, isPrintable_append]
      refine ⟨⟨hmargin broken, ?_⟩, ih hcs false⟩
      split
      · decide
      · exact isPrintable_cons.mpr ⟨hc, isPrintable_nil⟩

theorem isPrintable_renderLines (indent : Nat) {cs : List Char} (h : IsPrintable cs) :
    ∀ fresh : Bool, IsPrintable (renderLines indent fresh cs) := by
  induction cs with
  | nil =>
    intro _
    exact isPrintable_nil
  | cons c cs ih =>
    intro fresh
    obtain ⟨hc, hcs⟩ := isPrintable_cons.mp h
    rw [renderLines]
    split
    · exact isPrintable_cons.mpr ⟨hc, ih hcs true⟩
    · rw [isPrintable_append]
      refine ⟨?_, isPrintable_cons.mpr ⟨hc, ih hcs false⟩⟩
      split
      · exact isPrintable_spaces indent
      · exact isPrintable_nil

theorem isPrintable_renderLiteral (indent : Nat) {cs : List Char} (h : IsPrintable cs) :
    IsPrintable (renderLiteral indent cs) := by
  have hindent : IsPrintable (indentHint cs) := by
    unfold indentHint
    split
    · split
      · decide
      · exact isPrintable_nil
    · exact isPrintable_nil
  have hchomp : IsPrintable (chompHint cs) := by
    rw [chompHint_eq]
    cases chompOf cs
    all_goals decide
  have hpipe : isPrintable '|' = true ∧ isPrintable '\n' = true := by decide
  rw [renderLiteral, List.cons_append, List.cons_append, isPrintable_cons, isPrintable_append,
    isPrintable_append, isPrintable_cons]
  exact ⟨hpipe.1, ⟨hindent, hchomp⟩, hpipe.2, isPrintable_renderLines indent h true⟩

/-- What is written for a scalar needs no escapes any more. -/
theorem isPrintable_writeScalar (indent : Nat) {style : Style} {cs : List Char}
    (h : Suits style cs) : IsPrintable (writeScalar indent style cs) := by
  have hline : IsPrintable ['\n'] := by decide
  cases style with
  | plain =>
    obtain ⟨d, ds, rfl, hplain⟩ := h
    exact isPrintable_append.mpr ⟨hplain.printable, hline⟩
  | single =>
    have hquote : isPrintable '\'' = true := by decide
    rw [writeScalar, renderSingle, isPrintable_append, isPrintable_append, isPrintable_cons]
    exact ⟨⟨⟨hquote, isPrintable_renderSingleBody indent h.1 false⟩, by decide⟩, hline⟩
  | double =>
    have hquote : isPrintable '"' = true := by decide
    have hbody : IsPrintable (cs.flatMap escapeChar) := by
      intro d hd
      obtain ⟨c, -, hdc⟩ := List.mem_flatMap.mp hd
      exact isPrintable_escapeChar c d hdc
    rw [writeScalar, renderDouble, isPrintable_append, isPrintable_append, isPrintable_cons]
    exact ⟨⟨⟨hquote, hbody⟩, by decide⟩, hline⟩
  | literal =>
    rw [writeScalar, isPrintable_append]
    refine ⟨isPrintable_renderLiteral indent h.2, ?_⟩
    unfold blockEnding
    split
    · exact isPrintable_nil
    · exact hline
  | folded => exact h.elim

end PoolOperator.Yaml
