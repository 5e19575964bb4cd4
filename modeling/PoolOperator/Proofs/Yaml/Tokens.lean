import PoolOperator.Proofs.Yaml.Lexer
import PoolOperator.Yaml.Printer

/-!
# The tokens of a value

Which tokens a value is written with (`tokensOf`), and that the lexer reads just these from the text
of the value. The values are those whose keys and numbers can stand plain; texts among the values
may be any.
-/

namespace PoolOperator.Yaml

/-! ## Values and their tokens -/

/-- A text that can be a key: it stands plain, and a colon is not too far behind its start. -/
structure IsKey (name : String) : Prop where
  style : Style.ofText name.toList = .plain
  length : name.toList.length ≤ maxKeyLength

theorem IsKey.suits {name : String} (h : IsKey name) : Suits .plain name.toList := by
  rw [← h.style]
  exact suits_ofText name.toList

theorem IsKey.renderText {name : String} (h : IsKey name) (indent : Nat) :
    renderText indent name = name.toList := by
  simp only [Yaml.renderText, h.style]

/-- A value whose keys and numbers can stand plain. -/
inductive Writable : Json → Prop where
  | null : Writable .null
  | bool (b : Bool) : Writable (.bool b)
  | int {n : Int} (h : Suits .plain (toString n).toList) : Writable (.int n)
  | decimal {text : String} (h : Suits .plain text.toList) : Writable (.decimal text)
  | str (s : String) : Writable (.str s)
  | arr {vs : List Json} (h : ∀ v ∈ vs, Writable v) : Writable (.arr vs)
  | obj {ms : List (String × Json)} (hkeys : ∀ m ∈ ms, IsKey m.1)
      (hvalues : ∀ m ∈ ms, Writable m.2) : Writable (.obj ms)

/-- The style and the text of a value that is no collection. -/
def scalarOf? : Json → Option (Style × List Char)
  | .null => some (.plain, "null".toList)
  | .bool b => some (.plain, if b then "true".toList else "false".toList)
  | .int n => some (.plain, (toString n).toList)
  | .decimal text => some (.plain, text.toList)
  | .str s => some (Style.ofText s.toList, s.toList)
  | .arr _ | .obj _ => none

mutual

/-- The tokens of a value. The items of a list behind a key are not in a block of their own. -/
def tokensOf (behindKey : Bool) : Json → List Token
  | .arr [] => [.flowSequence, .flowSequenceEnd]
  | .obj [] => [.flowMapping, .flowMappingEnd]
  | .arr (v :: vs) =>
    if behindKey then tokensOfItems (v :: vs)
    else .blockSequence :: tokensOfItems (v :: vs) ++ [.blockEnd]
  | .obj (m :: ms) => .blockMapping :: tokensOfMembers (m :: ms) ++ [.blockEnd]
  | .null => [.scalar .plain "null".toList]
  | .bool b => [.scalar .plain (if b then "true".toList else "false".toList)]
  | .int n => [.scalar .plain (toString n).toList]
  | .decimal text => [.scalar .plain text.toList]
  | .str s => [.scalar (Style.ofText s.toList) s.toList]

/-- The tokens of the items of a list. -/
def tokensOfItems : List Json → List Token
  | [] => []
  | v :: vs => .blockEntry :: tokensOf false v ++ tokensOfItems vs

/-- The tokens of the members of an object. -/
def tokensOfMembers : List (String × Json) → List Token
  | [] => []
  | (name, v) :: ms =>
    .key :: .scalar .plain name.toList :: .value :: tokensOf true v ++ tokensOfMembers ms

end

theorem tokensOf_scalar {v : Json} {style : Style} {cs : List Char}
    (h : scalarOf? v = some (style, cs)) (behindKey : Bool) :
    tokensOf behindKey v = [.scalar style cs] := by
  cases v <;> cases h <;> simp [tokensOf]

/-- The style of a value that is no collection suits its text. -/
theorem Writable.suits {v : Json} (h : Writable v) {style : Style} {cs : List Char}
    (hscalar : scalarOf? v = some (style, cs)) : Suits style cs := by
  cases h with
  | null =>
    cases hscalar
    exact suits_plain (by decide) (by decide)
  | bool b =>
    cases hscalar
    cases b
    · exact suits_plain (by decide) (by decide)
    · exact suits_plain (by decide) (by decide)
  | int h =>
    cases hscalar
    exact h
  | decimal h =>
    cases hscalar
    exact h
  | str s =>
    cases hscalar
    exact suits_ofText s.toList
  | arr => cases hscalar
  | obj => cases hscalar

/-! ## Values as they are written -/

theorem renderMemberValue_scalar {v : Json} {style : Style} {cs : List Char}
    (h : scalarOf? v = some (style, cs)) (indent : Nat) :
    renderMemberValue indent v = ' ' :: writeScalar (indent + 2) style cs := by
  cases v with
  | str s =>
    cases h
    rw [renderMemberValue, endLine_renderText]
  | bool b =>
    cases h
    cases b
    · rfl
    · rfl
  | null | int n | decimal text =>
    cases h
    rfl
  | arr vs | obj ms => cases h

theorem renderItemValue_scalar {v : Json} {style : Style} {cs : List Char}
    (h : scalarOf? v = some (style, cs)) (indent : Nat) :
    renderItemValue indent v = ' ' :: writeScalar (indent + 2) style cs := by
  cases v with
  | str s =>
    cases h
    rw [renderItemValue, endLine_renderText]
  | bool b =>
    cases h
    cases b
    · rfl
    · rfl
  | null | int n | decimal text =>
    cases h
    rfl
  | arr vs | obj ms => cases h

theorem renderItems_eq (indent : Nat) (lead : List Char) (v : Json) (vs : List Json) :
    renderItems indent lead (v :: vs) = lead ++ renderItems indent [] (v :: vs) := by
  simp [renderItems]

theorem renderMembers_eq (indent : Nat) (lead : List Char) (m : String × Json)
    (ms : List (String × Json)) :
    renderMembers indent lead (m :: ms) = lead ++ renderMembers indent [] (m :: ms) := by
  simp [renderMembers]

/-- What stands behind a key starts with a blank or a break. -/
theorem atSeparator_renderMemberValue (indent : Nat) (v : Json) (rest : List Char) :
    atSeparator (renderMemberValue indent v ++ rest) = true := by
  cases hscalar : scalarOf? v with
  | some scalar =>
    rw [renderMemberValue_scalar hscalar]
    rfl
  | none =>
    match v, hscalar with
    | .arr [], _ | .arr (_ :: _), _ | .obj [], _ | .obj (_ :: _), _ => rfl

/-- So does what stands behind a dash. -/
theorem atSeparator_renderItemValue (indent : Nat) (v : Json) (rest : List Char) :
    atSeparator (renderItemValue indent v ++ rest) = true := by
  cases hscalar : scalarOf? v with
  | some scalar =>
    rw [renderItemValue_scalar hscalar]
    rfl
  | none =>
    match v, hscalar with
    | .arr [], _ | .arr (_ :: _), _ | .obj [], _ | .obj (_ :: _), _ => rfl

/-! ## Reading values -/

section Reading

open Lexer

/-- A value behind a key at some indentation is read, up to text at a column outside of it. -/
def ReadsBehindKey (v : Json) : Prop :=
  ∀ {indent column : Nat} {tokens : List Token} {levels : List Nat} {m : Mark} {rest : List Char},
    indent ≤ m.column → Dedents (indent + 1) column rest →
    ∃ m', m'.column = column ∧
      Leads (place tokens (indent + 1) levels false m
          (renderMemberValue indent v ++ (spaces column ++ rest)))
        (arrive ((tokensOf true v).reverse ++ tokens) (indent + 1) levels true m' rest)

/-- A value behind the dash of an item at some indentation is read likewise. -/
def ReadsBehindDash (v : Json) : Prop :=
  ∀ {indent column : Nat} {tokens : List Token} {levels : List Nat} {m : Mark} {rest : List Char},
    m.column = indent + 1 → Dedents (indent + 1) column rest →
    ∃ m', m'.column = column ∧
      Leads (place tokens (indent + 1) levels true m
          (renderItemValue indent v ++ (spaces column ++ rest)))
        (arrive ((tokensOf false v).reverse ++ tokens) (indent + 1) levels true m' rest)

variable {indent column : Nat} {tokens tokens' : List Token} {level : Nat}
  {levels levels' : List Nat}
  {m : Mark} {rest : List Char}

/-- A text that goes on at the column of a block goes on outside of its values. -/
theorem dedents_self {c : Char} {cs : List Char} (hbreak : isBreak c = false)
    (hblank : isBlank c = false) (hhash : c ≠ '#') : Dedents (indent + 1) indent (c :: cs) :=
  .inr ⟨c, cs, rfl, hbreak, hblank, hhash, Nat.lt_succ_self _⟩

/-- One item of a list is read. -/
theorem reads_item {v : Json} (h : ReadsBehindDash v) (hm : m.column = indent)
    (henter : Enters .blockSequence indent tokens level levels tokens' levels')
    (hrest : Dedents (indent + 1) column rest) :
    ∃ m', m'.column = column ∧
      Reads (place tokens level levels true m
          ('-' :: (renderItemValue indent v ++ (spaces column ++ rest))))
        (arrive ((tokensOf false v).reverse ++ .blockEntry :: tokens') (indent + 1) levels' true
          m' rest) := by
  subst hm
  obtain ⟨m', hm', hread⟩ := h (m := m.advance 1) rfl hrest
  exact ⟨m', hm', reads_dash henter (atSeparator_renderItemValue _ _ _) hread⟩

/-- The items of a list are read one after the other. -/
theorem reads_items {v : Json} {vs : List Json} (h : ∀ w ∈ v :: vs, ReadsBehindDash w)
    (hm : m.column = indent)
    (henter : Enters .blockSequence indent tokens level levels tokens' levels')
    (hrest : Dedents (indent + 1) column rest) :
    ∃ m', m'.column = column ∧
      Reads (place tokens level levels true m
          (renderItems indent [] (v :: vs) ++ (spaces column ++ rest)))
        (arrive ((tokensOfItems (v :: vs)).reverse ++ tokens') (indent + 1) levels' true m'
          rest) := by
  induction vs generalizing v tokens level levels m tokens' levels' with
  | nil =>
    obtain ⟨m', hm', hread⟩ := reads_item (h v (by simp)) hm henter hrest
    exact ⟨m', hm', by simpa [renderItems, tokensOfItems] using hread⟩
  | cons w vs ih =>
    -- the first item is read up to the dash of the second
    have hdash : Dedents (indent + 1) indent
        (renderItems indent [] (w :: vs) ++ (spaces column ++ rest)) :=
      dedents_self (by decide) (by decide) (by decide)
    obtain ⟨m₁, hm₁, hread⟩ := reads_item (h v (by simp)) hm henter hdash
    rw [arrive_of_le (by omega)] at hread
    have hopen : Enters .blockSequence indent
        ((tokensOf false v).reverse ++ .blockEntry :: tokens') (indent + 1) levels'
        ((tokensOf false v).reverse ++ .blockEntry :: tokens') levels' := .stays
    obtain ⟨m', hm', hread'⟩ := ih (fun u hu => h u (List.mem_cons_of_mem v hu)) hm₁ hopen
    refine ⟨m', hm', ?_⟩
    have htext : renderItems indent [] (v :: w :: vs) ++ (spaces column ++ rest) =
        '-' :: (renderItemValue indent v ++ (spaces indent ++
          (renderItems indent [] (w :: vs) ++ (spaces column ++ rest)))) := by
      rw [renderItems, renderItems_eq indent (spaces indent)]
      simp
    have htokens : (tokensOfItems (v :: w :: vs)).reverse ++ tokens' =
        (tokensOfItems (w :: vs)).reverse ++
          ((tokensOf false v).reverse ++ .blockEntry :: tokens') := by
      rw [tokensOfItems.eq_2 v]
      simp
    rw [htext, htokens]
    exact hread.trans hread'

/-- One member of an object is read. -/
theorem reads_member {name : String} {v : Json} (hkey : IsKey name) (h : ReadsBehindKey v)
    (hm : m.column = indent)
    (henter : Enters .blockMapping indent tokens level levels tokens' levels')
    (hrest : Dedents (indent + 1) column rest) :
    ∃ m', m'.column = column ∧
      Reads (place tokens level levels true m
          (name.toList ++ ':' :: (renderMemberValue indent v ++ (spaces column ++ rest))))
        (arrive ((tokensOf true v).reverse ++
          .value :: .scalar .plain name.toList :: .key :: tokens') (indent + 1) levels' true
          m' rest) := by
  subst hm
  obtain ⟨c, cs, hname, hplain⟩ := hkey.suits
  have hlength := hkey.length
  rw [hname] at hlength ⊢
  obtain ⟨m', hm', hread⟩ := h (m := m.advance (cs.length + 2)) (by simp) hrest
  exact ⟨m', hm', reads_key hplain hlength henter (atSeparator_renderMemberValue _ _ _) hread⟩

/-- The members of an object are read one after the other. -/
theorem reads_members {a : String × Json} {ms : List (String × Json)}
    (hkeys : ∀ b ∈ a :: ms, IsKey b.1) (h : ∀ b ∈ a :: ms, ReadsBehindKey b.2)
    (hm : m.column = indent)
    (henter : Enters .blockMapping indent tokens level levels tokens' levels')
    (hrest : Dedents (indent + 1) column rest) :
    ∃ m', m'.column = column ∧
      Reads (place tokens level levels true m
          (renderMembers indent [] (a :: ms) ++ (spaces column ++ rest)))
        (arrive ((tokensOfMembers (a :: ms)).reverse ++ tokens') (indent + 1) levels' true m'
          rest) := by
  induction ms generalizing a tokens level levels m tokens' levels' with
  | nil =>
    obtain ⟨m', hm', hread⟩ := reads_member (hkeys a (by simp)) (h a (by simp)) hm henter hrest
    refine ⟨m', hm', ?_⟩
    simpa [renderMembers, tokensOfMembers, (hkeys a (by simp)).renderText] using hread
  | cons b ms ih =>
    -- the first member is read up to the key of the second
    have hkey : Dedents (indent + 1) indent
        (renderMembers indent [] (b :: ms) ++ (spaces column ++ rest)) := by
      obtain ⟨c, cs, hname, hplain⟩ := (hkeys b (by simp)).suits
      rw [renderMembers, (hkeys b (by simp)).renderText, hname]
      exact dedents_self (hplain.noBreak c (by simp)) hplain.startsSolid hplain.ne_hash
    obtain ⟨m₁, hm₁, hread⟩ := reads_member (hkeys a (by simp)) (h a (by simp)) hm henter hkey
    rw [arrive_of_le (by omega)] at hread
    have hopen : Enters .blockMapping indent
        ((tokensOf true a.2).reverse ++ .value :: .scalar .plain a.1.toList :: .key :: tokens')
        (indent + 1) levels'
        ((tokensOf true a.2).reverse ++ .value :: .scalar .plain a.1.toList :: .key :: tokens')
        levels' := .stays
    obtain ⟨m', hm', hread'⟩ := ih (fun u hu => hkeys u (List.mem_cons_of_mem a hu))
      (fun u hu => h u (List.mem_cons_of_mem a hu)) hm₁ hopen
    refine ⟨m', hm', ?_⟩
    have htext : renderMembers indent [] (a :: b :: ms) ++ (spaces column ++ rest) =
        a.1.toList ++ ':' :: (renderMemberValue indent a.2 ++ (spaces indent ++
          (renderMembers indent [] (b :: ms) ++ (spaces column ++ rest)))) := by
      rw [renderMembers, renderMembers_eq indent (spaces indent),
        (hkeys a (by simp)).renderText]
      simp
    have htokens : (tokensOfMembers (a :: b :: ms)).reverse ++ tokens' =
        (tokensOfMembers (b :: ms)).reverse ++ ((tokensOf true a.2).reverse ++
          .value :: .scalar .plain a.1.toList :: .key :: tokens') := by
      rw [tokensOfMembers.eq_2 a.1]
      simp
    rw [htext, htokens]
    exact hread.trans hread'

/-- A block within a block is read up to text outside of it, which closes it. -/
theorem closes {s : Lexer} {t : Token} {inner : List Token} {levels : List Nat} {m' : Mark}
    (hm' : m'.column = column) (hrest : Dedents (indent + 1) column rest)
    (h : Reads s (arrive (inner.reverse ++ t :: tokens) (indent + 3) ((indent + 1) :: levels) true
      m' rest)) :
    Reads s (arrive ((t :: inner ++ [Token.blockEnd]).reverse ++ tokens) (indent + 1) levels true m'
      rest) := by
  have hlt := hrest.column_lt (Nat.succ_pos indent)
  rw [arrive_of_lt (by omega)] at h
  simpa using h

/-- What a block is opened by, if it stands farther to the right than the one around it. -/
theorem enters_inner (t : Token) (indent : Nat) (tokens : List Token) (levels : List Nat) :
    Enters t (indent + 2) tokens (indent + 1) levels (t :: tokens) ((indent + 1) :: levels) :=
  .opens (by omega)

theorem startsSolid_renderMembers {a : String × Json} (h : IsKey a.1) (indent : Nat)
    (ms : List (String × Json)) (rest : List Char) :
    StartsSolid (renderMembers indent [] (a :: ms) ++ rest) := by
  obtain ⟨c, cs, hname, hplain⟩ := h.suits
  rw [renderMembers, h.renderText, hname]
  exact startsSolid_cons.mpr ⟨hplain.noBreak c (by simp), hplain.startsSolid, hplain.ne_hash⟩

theorem startsSolid_renderItems (indent : Nat) (v : Json) (vs : List Json) (rest : List Char) :
    StartsSolid (renderItems indent [] (v :: vs) ++ rest) :=
  startsSolid_cons.mpr (by decide)

/-- A scalar behind a key or a dash. -/
theorem leads_scalar {keyAllowed : Bool} {style : Style} {cs : List Char} (h : Suits style cs)
    (hm : indent ≤ m.column) (hrest : Dedents (indent + 1) column rest) :
    ∃ m', m'.column = column ∧
      Leads (place tokens (indent + 1) levels keyAllowed m
          (' ' :: (writeScalar (indent + 2) style cs ++ (spaces column ++ rest))))
        (arrive (.scalar style cs :: tokens) (indent + 1) levels true m' rest) := by
  have hm₁ : indent + 1 ≤ (m.advance 1).column := by simpa using hm
  obtain ⟨m', hm', hread⟩ := reads_scalar tokens levels keyAllowed (indent + 2) (by omega) h hm₁
    hrest
  exact ⟨m', hm', leads_of_space (startsSolid_writeScalar _ h _) (by omega) hread⟩

/-- An empty list behind a key or a dash. -/
theorem leads_emptyList {keyAllowed : Bool} (hm : indent ≤ m.column)
    (hrest : Dedents (indent + 1) column rest) :
    ∃ m', m'.column = column ∧
      Leads (place tokens (indent + 1) levels keyAllowed m
          (' ' :: '[' :: ']' :: '\n' :: (spaces column ++ rest)))
        (arrive (.flowSequenceEnd :: .flowSequence :: tokens) (indent + 1) levels true m'
          rest) := by
  have hm₁ : indent + 1 ≤ (m.advance 1).column := by simpa using hm
  obtain ⟨m', hm', hread⟩ := reads_brackets '[' ']' .flowSequence .flowSequenceEnd
    (by simp [readToken?, isDocumentMark])
    (by simp [readToken?, isDocumentMark]) (by decide) (by decide) (by decide) hm₁ hrest
  exact ⟨m', hm', leads_of_space (startsSolid_cons.mpr (by decide)) (by omega) hread⟩

/-- An empty object behind a key or a dash. -/
theorem leads_emptyObject {keyAllowed : Bool} (hm : indent ≤ m.column)
    (hrest : Dedents (indent + 1) column rest) :
    ∃ m', m'.column = column ∧
      Leads (place tokens (indent + 1) levels keyAllowed m
          (' ' :: '\x7b' :: '\x7d' :: '\n' :: (spaces column ++ rest)))
        (arrive (.flowMappingEnd :: .flowMapping :: tokens) (indent + 1) levels true m'
          rest) := by
  have hm₁ : indent + 1 ≤ (m.advance 1).column := by simpa using hm
  obtain ⟨m', hm', hread⟩ := reads_brackets '\x7b' '\x7d' .flowMapping .flowMappingEnd
    (by simp [readToken?, isDocumentMark])
    (by simp [readToken?, isDocumentMark]) (by decide) (by decide) (by decide) hm₁ hrest
  exact ⟨m', hm', leads_of_space (startsSolid_cons.mpr (by decide)) (by omega) hread⟩

theorem Writable.reads_of_scalar {v : Json} (hv : Writable v) {style : Style} {cs : List Char}
    (hscalar : scalarOf? v = some (style, cs)) : ReadsBehindKey v ∧ ReadsBehindDash v := by
  have hsuits := hv.suits hscalar
  constructor
  · intro indent column tokens levels m rest hm hrest
    rw [renderMemberValue_scalar hscalar, tokensOf_scalar hscalar]
    exact leads_scalar hsuits hm hrest
  · intro indent column tokens levels m rest hm hrest
    rw [renderItemValue_scalar hscalar, tokensOf_scalar hscalar]
    exact leads_scalar hsuits (by omega) hrest

/-- A list is read if its items are. Behind a key its dashes stand at the column of the key. -/
theorem reads_list {vs : List Json} (h : ∀ v ∈ vs, ReadsBehindDash v) :
    ReadsBehindKey (.arr vs) ∧ ReadsBehindDash (.arr vs) := by
  cases vs with
  | nil =>
    constructor
    · intro indent column tokens levels m rest hm hrest
      exact leads_emptyList hm hrest
    · intro indent column tokens levels m rest hm hrest
      exact leads_emptyList (by omega) hrest
  | cons v vs =>
    constructor
    · intro indent column tokens levels m rest hm hrest
      have henter : Enters .blockSequence indent tokens (indent + 1) levels tokens levels := .stays
      obtain ⟨m', hm', hread⟩ := reads_items h (m := m.newLine.advance indent) (by simp) henter
        hrest
      refine ⟨m', hm', ?_⟩
      rw [renderMemberValue, renderItems_eq, List.cons_append, List.append_assoc, tokensOf,
        if_pos rfl]
      exact leads_of_newLine (startsSolid_renderItems _ _ _ _) (Nat.le_refl _) hread
    · intro indent column tokens levels m rest hm hrest
      obtain ⟨m', hm', hread⟩ := reads_items h (m := m.advance 1) (by simp [hm])
        (enters_inner .blockSequence indent tokens levels) (hrest.mono (by omega))
      refine ⟨m', hm', ?_⟩
      rw [renderItemValue, renderItems_eq, tokensOf, if_neg Bool.false_ne_true]
      exact leads_of_space (startsSolid_renderItems _ _ _ _) (by omega) (closes hm' hrest hread)

/-- An object is read if its values are. Its keys stand farther to the right than the key or the
dash before it. -/
theorem reads_object {ms : List (String × Json)} (hkeys : ∀ a ∈ ms, IsKey a.1)
    (h : ∀ a ∈ ms, ReadsBehindKey a.2) : ReadsBehindKey (.obj ms) ∧ ReadsBehindDash (.obj ms) := by
  cases ms with
  | nil =>
    constructor
    · intro indent column tokens levels m rest hm hrest
      exact leads_emptyObject hm hrest
    · intro indent column tokens levels m rest hm hrest
      exact leads_emptyObject (by omega) hrest
  | cons a ms =>
    have hsolid := startsSolid_renderMembers (hkeys a (by simp))
    constructor
    · intro indent column tokens levels m rest hm hrest
      obtain ⟨m', hm', hread⟩ := reads_members hkeys h (m := m.newLine.advance (indent + 2))
        (by simp) (enters_inner .blockMapping indent tokens levels) (hrest.mono (by omega))
      refine ⟨m', hm', ?_⟩
      rw [renderMemberValue, renderMembers_eq, List.cons_append, List.append_assoc, tokensOf]
      exact leads_of_newLine (hsolid _ _ _) (by omega) (closes hm' hrest hread)
    · intro indent column tokens levels m rest hm hrest
      obtain ⟨m', hm', hread⟩ := reads_members hkeys h (m := m.advance 1) (by simp [hm])
        (enters_inner .blockMapping indent tokens levels) (hrest.mono (by omega))
      refine ⟨m', hm', ?_⟩
      rw [renderItemValue, renderMembers_eq, tokensOf]
      exact leads_of_space (hsolid _ _ _) (by omega) (closes hm' hrest hread)

/-- Every value is read, behind a key and behind a dash. -/
theorem Writable.reads {v : Json} (hv : Writable v) : ReadsBehindKey v ∧ ReadsBehindDash v := by
  induction hv with
  | null => exact Writable.null.reads_of_scalar rfl
  | bool b => exact (Writable.bool b).reads_of_scalar rfl
  | int h => exact (Writable.int h).reads_of_scalar rfl
  | decimal h => exact (Writable.decimal h).reads_of_scalar rfl
  | str s => exact (Writable.str s).reads_of_scalar rfl
  | arr _ ih => exact reads_list fun v hv => (ih v hv).2
  | obj hkeys _ ih => exact reads_object hkeys fun a ha => (ih a ha).1

end Reading

/-! ## Whole texts -/

theorem isPrintable_renderItems {vs : List Json}
    (h : ∀ v ∈ vs, ∀ indent, IsPrintable (renderItemValue indent v)) (indent : Nat) :
    ∀ {lead : List Char}, IsPrintable lead → IsPrintable (renderItems indent lead vs) := by
  induction vs with
  | nil =>
    intro lead _
    exact isPrintable_nil
  | cons v vs ih =>
    intro lead hlead
    have hdash : isPrintable '-' = true := by decide
    rw [renderItems, isPrintable_append, isPrintable_append, isPrintable_cons]
    exact ⟨⟨hlead, hdash, h v (by simp) indent⟩,
      ih (fun w hw => h w (List.mem_cons_of_mem v hw)) (isPrintable_spaces indent)⟩

theorem isPrintable_renderMembers {ms : List (String × Json)} (hkeys : ∀ a ∈ ms, IsKey a.1)
    (h : ∀ a ∈ ms, ∀ indent, IsPrintable (renderMemberValue indent a.2)) (indent : Nat) :
    ∀ {lead : List Char}, IsPrintable lead → IsPrintable (renderMembers indent lead ms) := by
  induction ms with
  | nil =>
    intro lead _
    exact isPrintable_nil
  | cons a ms ih =>
    intro lead hlead
    have hcolon : isPrintable ':' = true := by decide
    obtain ⟨c, cs, hname, hplain⟩ := (hkeys a (by simp)).suits
    rw [renderMembers, (hkeys a (by simp)).renderText, isPrintable_append, isPrintable_append,
      isPrintable_append, isPrintable_cons, hname]
    exact ⟨⟨⟨hlead, hplain.printable⟩, hcolon, h a (by simp) indent⟩,
      ih (fun b hb => hkeys b (List.mem_cons_of_mem a hb))
        (fun b hb => h b (List.mem_cons_of_mem a hb)) (isPrintable_spaces indent)⟩

/-- What is written for a value needs no escapes any more. -/
theorem Writable.printable {v : Json} (hv : Writable v) :
    ∀ indent, IsPrintable (renderMemberValue indent v) ∧ IsPrintable (renderItemValue indent v) := by
  have hspace : isPrintable ' ' = true := by decide
  have hscalar : ∀ {v : Json}, Writable v → (scalarOf? v).isSome → ∀ indent,
      IsPrintable (renderMemberValue indent v) ∧ IsPrintable (renderItemValue indent v) := by
    intro v hv hsome indent
    obtain ⟨⟨style, cs⟩, hscalar⟩ := Option.isSome_iff_exists.mp hsome
    have hprint := isPrintable_writeScalar (indent + 2) (hv.suits hscalar)
    rw [renderMemberValue_scalar hscalar, renderItemValue_scalar hscalar]
    exact ⟨isPrintable_cons.mpr ⟨hspace, hprint⟩, isPrintable_cons.mpr ⟨hspace, hprint⟩⟩
  induction hv with
  | null => exact hscalar .null rfl
  | bool b => exact hscalar (.bool b) rfl
  | int h => exact hscalar (.int h) rfl
  | decimal h => exact hscalar (.decimal h) rfl
  | str s => exact hscalar (.str s) rfl
  | @arr vs _ ih =>
    intro indent
    have hitems : ∀ v ∈ vs, ∀ indent, IsPrintable (renderItemValue indent v) :=
      fun v hv indent => (ih v hv indent).2
    cases vs with
    | nil =>
      have hbrackets : IsPrintable " []\n".toList := by decide
      exact ⟨hbrackets, hbrackets⟩
    | cons v vs =>
      exact ⟨isPrintable_cons.mpr ⟨by decide, isPrintable_renderItems hitems _
        (isPrintable_spaces _)⟩, isPrintable_renderItems hitems _ (by decide)⟩
  | @obj ms hkeys _ ih =>
    intro indent
    have hmembers : ∀ a ∈ ms, ∀ indent, IsPrintable (renderMemberValue indent a.2) :=
      fun a ha indent => (ih a ha indent).1
    cases ms with
    | nil =>
      have hbrackets : IsPrintable " \x7b\x7d\n".toList := by decide
      exact ⟨hbrackets, hbrackets⟩
    | cons a ms =>
      exact ⟨isPrintable_cons.mpr ⟨by decide, isPrintable_renderMembers hkeys hmembers _
        (isPrintable_spaces _)⟩, isPrintable_renderMembers hkeys hmembers _ (by decide)⟩

/-- The tokens of a text are those that the lexer has read at its end. -/
theorem tokensOf?_ofList {cs : List Char} (hprint : IsPrintable cs) (hsolid : StartsSolid cs)
    {t : Lexer} {ts : List Token} (hread : Lexer.Reads (Lexer.place [] 0 [] true Mark.start cs) t)
    (hend : t.rest = []) (hfinish : t.finish? = some ts) :
    tokensOf? (String.ofList cs) = some ts := by
  have hstart : Lexer.start cs = Lexer.place [] 0 [] true Mark.start cs := by
    unfold Lexer.start
    split
    · exact absurd (hprint '\uFEFF' (by simp)) (by decide)
    · rfl
  have hsettle : (Lexer.place [] 0 [] true Mark.start cs).settle? =
      some (Lexer.place [] 0 [] true Mark.start cs) :=
    Lexer.settle?_eq rfl (Lexer.skipBlanks_solid hsolid true Mark.start) rfl
  simp only [tokensOf?, String.toList_ofList, isReadable_of_isPrintable hprint, if_true,
    unifyBreaks_eq_self hprint, hstart]
  exact Lexer.run?_of_reads hread hend hfinish (Nat.lt_succ_self _) hsettle

/-- The same, if all that is read is a value outside of all blocks. -/
theorem tokensOf?_flat {cs : List Char} {ts : List Token} {m : Mark} (hprint : IsPrintable cs)
    (hsolid : StartsSolid cs) (hread : Lexer.Reads (Lexer.place [] 0 [] true Mark.start cs)
      (Lexer.arrive ts 0 [] true m [])) : tokensOf? (String.ofList cs) = some ts.reverse := by
  rw [Lexer.arrive_of_le (Nat.zero_le _)] at hread
  exact tokensOf?_ofList hprint hsolid hread rfl rfl

/-- The same, if all that is read is a block, which is closed by the end of the text. -/
theorem tokensOf?_block {cs : List Char} {t : Token} {ts : List Token} {m : Mark}
    (hprint : IsPrintable cs) (hsolid : StartsSolid cs)
    (hread : Lexer.Reads (Lexer.place [] 0 [] true Mark.start cs)
      (Lexer.arrive (ts.reverse ++ [t]) 1 [0] true m [])) :
    tokensOf? (String.ofList cs) = some (t :: ts ++ [.blockEnd]) := by
  rw [Lexer.arrive_of_le (Nat.succ_le_succ (Nat.zero_le _))] at hread
  have hfinish : (Lexer.place (ts.reverse ++ [t]) 1 [0] true m []).finish? =
      some (Token.blockEnd :: (ts.reverse ++ [t])).reverse := rfl
  rw [tokensOf?_ofList hprint hsolid hread rfl hfinish]
  simp

theorem render_scalar {v : Json} {style : Style} {cs : List Char}
    (h : scalarOf? v = some (style, cs)) : render v = String.ofList (writeScalar 2 style cs) := by
  have hrender : render v = String.ofList ((renderMemberValue 0 v).drop 1) := by
    cases v with
    | arr vs | obj ms => cases h
    | null | bool b | int n | decimal text | str s => rfl
  rw [hrender, renderMemberValue_scalar h]
  rfl

/-- The text that is written for a value is read as the tokens of the value. -/
theorem tokensOf?_render {v : Json} (hv : Writable v) :
    tokensOf? (render v) = some (tokensOf false v) := by
  have hend : Dedents 0 0 [] := .inl ⟨rfl, rfl⟩
  have hend' : Dedents 1 0 [] := .inl ⟨rfl, rfl⟩
  cases hscalar : scalarOf? v with
  | some scalar =>
    have hsuits := hv.suits hscalar
    obtain ⟨m, -, hread⟩ := Lexer.reads_scalar [] [] true 2 rfl hsuits (Nat.zero_le _) hend
      (m := Mark.start)
    rw [render_scalar hscalar, tokensOf_scalar hscalar]
    have hsolid := startsSolid_writeScalar 2 hsuits []
    simp only [spaces, List.replicate_zero, List.append_nil] at hread hsolid
    exact tokensOf?_flat (isPrintable_writeScalar 2 hsuits) hsolid hread
  | none =>
    cases hv with
    | null | bool | int | decimal | str => cases hscalar
    | arr h =>
      rename_i vs
      cases vs with
      | nil => decide
      | cons w ws =>
        have henter : Lexer.Enters .blockSequence 0 [] 0 [] [.blockSequence] [0] :=
          .opens Nat.zero_lt_one
        obtain ⟨m, -, hread⟩ := reads_items (fun u hu => (h u hu).reads.2) (m := Mark.start) rfl
          henter hend'
        have hprint := isPrintable_renderItems (fun u hu indent => ((h u hu).printable indent).2) 0
          isPrintable_nil
        have hsolid := startsSolid_renderItems 0 w ws []
        simp only [spaces, List.replicate_zero, List.append_nil] at hread hsolid
        rw [tokensOf, if_neg Bool.false_ne_true]
        exact tokensOf?_block hprint hsolid hread
    | obj hkeys hvalues =>
      rename_i ms
      cases ms with
      | nil => decide
      | cons a ms =>
        have henter : Lexer.Enters .blockMapping 0 [] 0 [] [.blockMapping] [0] :=
          .opens Nat.zero_lt_one
        obtain ⟨m, -, hread⟩ := reads_members hkeys (fun u hu => (hvalues u hu).reads.1)
          (m := Mark.start) rfl henter hend'
        have hprint := isPrintable_renderMembers hkeys
          (fun u hu indent => ((hvalues u hu).printable indent).1) 0 isPrintable_nil
        have hsolid := startsSolid_renderMembers (hkeys a (by simp)) 0 ms []
        simp only [spaces, List.replicate_zero, List.append_nil] at hread hsolid
        rw [tokensOf]
        exact tokensOf?_block hprint hsolid hread

end PoolOperator.Yaml
