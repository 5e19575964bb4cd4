import PoolOperator.Proofs.Yaml.Tokens
import PoolOperator.Yaml.Node.Reader

/-!
# The node of a value

The tokens of a value are put together to one node (`nodeOf`), which has neither tags nor marks. So
what is written for a value is read as its node.
-/

namespace PoolOperator.Yaml

/-! ## Nodes -/

mutual

/-- The node of a value. -/
def nodeOf : Json → Node
  | .null => .scalar none .plain "null"
  | .bool b => .scalar none .plain (if b then "true" else "false")
  | .int n => .scalar none .plain (toString n)
  | .decimal text => .scalar none .plain text
  | .str s => .scalar none (Style.ofText s.toList) s
  | .arr vs => .list none (nodesOf vs)
  | .obj ms => .record none (membersOf ms)

/-- The nodes of the items of a list. -/
def nodesOf : List Json → List Node
  | [] => []
  | v :: vs => nodeOf v :: nodesOf vs

/-- The nodes of the members of an object. -/
def membersOf : List (String × Json) → List (Node × Node)
  | [] => []
  | (name, v) :: ms => (.scalar none .plain name, nodeOf v) :: membersOf ms

end

/-! ## Single steps -/

section Steps

variable {table : TagTable} {budget : Nat} {inBlock behindKey : Bool} {ts rest : List Token}
  {anchors : List (String × Nat)} {s s' : NodeReader}

theorem readNode_scalar (style : Style) (cs : List Char) :
    readNode table (budget + 2) inBlock behindKey ⟨.scalar style cs :: rest, anchors⟩ =
      some (.scalar none style (String.ofList cs), ⟨rest, anchors⟩) := rfl

theorem readNode_emptyList :
    readNode table (budget + 3) inBlock behindKey
        ⟨.flowSequence :: .flowSequenceEnd :: rest, anchors⟩ =
      some (.list none [], ⟨rest, anchors⟩) := rfl

theorem readNode_emptyRecord :
    readNode table (budget + 3) inBlock behindKey
        ⟨.flowMapping :: .flowMappingEnd :: rest, anchors⟩ =
      some (.record none [], ⟨rest, anchors⟩) := rfl

theorem readNode_blockSequence {nodes : List Node}
    (h : readBlockItems table budget ⟨rest, anchors⟩ = some (nodes, s)) :
    readNode table (budget + 2) true behindKey ⟨.blockSequence :: rest, anchors⟩ =
      some (.list none nodes, s) := by
  show ((readBlockItems table budget ⟨rest, anchors⟩).bind _).bind _ = _
  rw [h]
  rfl

theorem readNode_blockMapping {members : List (Node × Node)}
    (h : readBlockMembers table budget ⟨rest, anchors⟩ = some (members, s)) :
    readNode table (budget + 2) true behindKey ⟨.blockMapping :: rest, anchors⟩ =
      some (.record none members, s) := by
  show ((readBlockMembers table budget ⟨rest, anchors⟩).bind _).bind _ = _
  rw [h]
  rfl

theorem readNode_bareItems {nodes : List Node}
    (h : readBareItems table budget ⟨.blockEntry :: rest, anchors⟩ = some (nodes, s)) :
    readNode table (budget + 2) true true ⟨.blockEntry :: rest, anchors⟩ =
      some (.list none nodes, s) := by
  show ((readBareItems table budget ⟨.blockEntry :: rest, anchors⟩).bind _).bind _ = _
  rw [h]
  rfl

/-- A value whose first token is none of those at which it would be missing. -/
theorem readNodeBefore_eq {t : Token} {ends : List Token} (h : t ∉ ends) :
    readNodeBefore table (budget + 1) inBlock behindKey ends ⟨t :: ts, anchors⟩ =
      readNode table budget inBlock behindKey ⟨t :: ts, anchors⟩ := by
  have hnot : ends.contains t = false := by simpa using h
  show (if ends.contains t = true then _ else _ : Reading Node) _ = _
  rw [hnot]
  rfl

theorem readBlockItems_end :
    readBlockItems table (budget + 1) ⟨.blockEnd :: rest, anchors⟩ =
      some ([], ⟨rest, anchors⟩) := rfl

theorem readBlockItems_cons {node : Node} {nodes : List Node}
    (h : readNodeBefore table budget true false [.blockEntry, .blockEnd] ⟨ts, anchors⟩ =
      some (node, s))
    (h' : readBlockItems table budget s = some (nodes, s')) :
    readBlockItems table (budget + 1) ⟨.blockEntry :: ts, anchors⟩ =
      some (node :: nodes, s') := by
  show (readNodeBefore table budget true false [.blockEntry, .blockEnd] ⟨ts, anchors⟩).bind _ = _
  rw [h]
  show (readBlockItems table budget s).bind _ = _
  rw [h']
  rfl

theorem readBareItems_end (h : rest.head? ≠ some .blockEntry) :
    readBareItems table (budget + 1) ⟨rest, anchors⟩ = some ([], ⟨rest, anchors⟩) := by
  cases rest with
  | nil => rfl
  | cons t ts =>
    have hnot : [Token.blockEntry].contains t = false := by simpa using h
    show (if [Token.blockEntry].contains t = true then _ else _ : Reading (List Node)) _ = _
    rw [hnot]
    rfl

theorem readBareItems_cons {node : Node} {nodes : List Node}
    (h : readNodeBefore table budget true false [.blockEntry, .key, .value, .blockEnd]
      ⟨ts, anchors⟩ = some (node, s))
    (h' : readBareItems table budget s = some (nodes, s')) :
    readBareItems table (budget + 1) ⟨.blockEntry :: ts, anchors⟩ =
      some (node :: nodes, s') := by
  show (readNodeBefore table budget true false [.blockEntry, .key, .value, .blockEnd]
    ⟨ts, anchors⟩).bind _ = _
  rw [h]
  show (readBareItems table budget s).bind _ = _
  rw [h']
  rfl

theorem readBlockMembers_end :
    readBlockMembers table (budget + 1) ⟨.blockEnd :: rest, anchors⟩ =
      some ([], ⟨rest, anchors⟩) := rfl

theorem readBlockMembers_cons (name : String) {node : Node} {members : List (Node × Node)}
    (h : readNodeBefore table (budget + 2) true true [.key, .value, .blockEnd] ⟨ts, anchors⟩ =
      some (node, s))
    (h' : readBlockMembers table (budget + 3) s = some (members, s')) :
    readBlockMembers table (budget + 4)
        ⟨.key :: .scalar .plain name.toList :: .value :: ts, anchors⟩ =
      some ((.scalar none .plain name, node) :: members, s') := by
  show (readNodeBefore table (budget + 2) true true [.key, .value, .blockEnd]
    ⟨ts, anchors⟩).bind _ = _
  rw [h]
  show (readBlockMembers table (budget + 3) s).bind _ = _
  rw [h']
  show some ((Node.scalar none .plain (String.ofList name.toList), node) :: members, s') = _
  rw [String.ofList_toList]

end Steps

/-! ## Values -/

/-- Whether a value may start with a token. Only behind a key it may be a dash. -/
def Token.startsValue (behindKey : Bool) : Token → Bool
  | .scalar .. | .flowSequence | .flowMapping | .blockSequence | .blockMapping => true
  | .blockEntry => behindKey
  | _ => false

theorem tokensOf_eq_cons (behindKey : Bool) (v : Json) :
    ∃ t ts, tokensOf behindKey v = t :: ts ∧ t.startsValue behindKey = true := by
  cases hscalar : scalarOf? v with
  | some scalar => exact ⟨_, _, tokensOf_scalar hscalar behindKey, rfl⟩
  | none =>
    match v, hscalar with
    | .arr [], _ | .obj [], _ | .obj (_ :: _), _ => exact ⟨_, _, rfl, rfl⟩
    | .arr (_ :: _), _ => cases behindKey <;> exact ⟨_, _, rfl, rfl⟩

/-- A value is put together from its tokens, up to what follows them. The budget is four steps for
each token. -/
def ReadsAs (behindKey : Bool) (v : Json) : Prop :=
  ∀ {table : TagTable} {budget : Nat} {rest : List Token} {anchors : List (String × Nat)},
    4 * (tokensOf behindKey v).length ≤ budget →
    (behindKey = true → rest.head? ≠ some .blockEntry) →
    readNode table budget true behindKey ⟨tokensOf behindKey v ++ rest, anchors⟩ =
      some (nodeOf v, ⟨rest, anchors⟩)

section Values

variable {table : TagTable} {budget : Nat} {rest : List Token} {anchors : List (String × Nat)}

theorem readNodeBefore_tokensOf {behindKey : Bool} {v : Json} (h : ReadsAs behindKey v)
    {ends : List Token} (hends : ∀ t ∈ ends, t.startsValue behindKey = false)
    (hbudget : 4 * (tokensOf behindKey v).length < budget)
    (hrest : behindKey = true → rest.head? ≠ some .blockEntry) :
    readNodeBefore table budget true behindKey ends ⟨tokensOf behindKey v ++ rest, anchors⟩ =
      some (nodeOf v, ⟨rest, anchors⟩) := by
  obtain ⟨b, rfl⟩ : ∃ b, budget = b + 1 := ⟨budget - 1, by omega⟩
  have hread : readNode table b true behindKey ⟨tokensOf behindKey v ++ rest, anchors⟩ =
      some (nodeOf v, ⟨rest, anchors⟩) := h (Nat.le_of_lt_succ hbudget) hrest
  obtain ⟨t, ts, htokens, hstart⟩ := tokensOf_eq_cons behindKey v
  rw [htokens] at hread ⊢
  have hnot : t ∉ ends := by
    intro ht
    rw [hends t ht] at hstart
    contradiction
  rw [List.cons_append, readNodeBefore_eq hnot]
  exact hread

theorem readBlockItems_tokensOf {vs : List Json} (h : ∀ v ∈ vs, ReadsAs false v) :
    ∀ {budget : Nat}, 4 * (tokensOfItems vs).length < budget →
      readBlockItems table budget ⟨tokensOfItems vs ++ .blockEnd :: rest, anchors⟩ =
        some (nodesOf vs, ⟨rest, anchors⟩) := by
  induction vs with
  | nil =>
    intro budget hbudget
    obtain ⟨b, rfl⟩ : ∃ b, budget = b + 1 := ⟨budget - 1, by omega⟩
    exact readBlockItems_end
  | cons v vs ih =>
    intro budget hbudget
    obtain ⟨b, rfl⟩ : ∃ b, budget = b + 1 := ⟨budget - 1, by omega⟩
    rw [tokensOfItems, List.length_append, List.length_cons] at hbudget
    rw [tokensOfItems, List.append_assoc, List.cons_append, nodesOf]
    exact readBlockItems_cons
      (readNodeBefore_tokensOf (h v (by simp)) (by simp [Token.startsValue]) (by omega) (by simp))
      (ih (fun w hw => h w (List.mem_cons_of_mem v hw)) (by omega))

theorem readBareItems_tokensOf {vs : List Json} (h : ∀ v ∈ vs, ReadsAs false v)
    (hrest : rest.head? ≠ some .blockEntry) :
    ∀ {budget : Nat}, 0 < budget → 4 * (tokensOfItems vs).length ≤ budget + 2 →
      readBareItems table budget ⟨tokensOfItems vs ++ rest, anchors⟩ =
        some (nodesOf vs, ⟨rest, anchors⟩) := by
  induction vs with
  | nil =>
    intro budget hpos _
    obtain ⟨b, rfl⟩ : ∃ b, budget = b + 1 := ⟨budget - 1, by omega⟩
    exact readBareItems_end hrest
  | cons v vs ih =>
    intro budget hpos hbudget
    obtain ⟨b, rfl⟩ : ∃ b, budget = b + 1 := ⟨budget - 1, by omega⟩
    obtain ⟨t, ts, htokens, -⟩ := tokensOf_eq_cons false v
    have hlength : 0 < (tokensOf false v).length := by simp [htokens]
    rw [tokensOfItems, List.length_append, List.length_cons] at hbudget
    rw [tokensOfItems, List.append_assoc, List.cons_append, nodesOf]
    exact readBareItems_cons
      (readNodeBefore_tokensOf (h v (by simp)) (by simp [Token.startsValue]) (by omega) (by simp))
      (ih (fun w hw => h w (List.mem_cons_of_mem v hw)) (by omega) (by omega))

theorem head?_tokensOfMembers (ms : List (String × Json)) :
    (tokensOfMembers ms ++ .blockEnd :: rest).head? ≠ some .blockEntry := by
  cases ms with
  | nil => exact fun h => nomatch h
  | cons m ms => exact fun h => nomatch h

theorem readBlockMembers_tokensOf {ms : List (String × Json)}
    (h : ∀ m ∈ ms, ReadsAs true m.2) :
    ∀ {budget : Nat}, 4 * (tokensOfMembers ms).length < budget →
      readBlockMembers table budget ⟨tokensOfMembers ms ++ .blockEnd :: rest, anchors⟩ =
        some (membersOf ms, ⟨rest, anchors⟩) := by
  induction ms with
  | nil =>
    intro budget hbudget
    obtain ⟨b, rfl⟩ : ∃ b, budget = b + 1 := ⟨budget - 1, by omega⟩
    exact readBlockMembers_end
  | cons m ms ih =>
    obtain ⟨name, v⟩ := m
    intro budget hbudget
    rw [tokensOfMembers, List.length_append] at hbudget
    simp only [List.length_cons] at hbudget
    obtain ⟨b, rfl⟩ : ∃ b, budget = b + 4 := ⟨budget - 4, by omega⟩
    rw [tokensOfMembers, List.append_assoc, membersOf]
    have hv : ReadsAs true v := h (name, v) (by simp)
    have hends : ∀ t ∈ [Token.key, .value, .blockEnd], t.startsValue true = false := by decide
    have hbudget' : 4 * (tokensOf true v).length < b + 2 := by omega
    exact readBlockMembers_cons name
      (readNodeBefore_tokensOf hv hends hbudget' fun _ => head?_tokensOfMembers ms)
      (ih (fun w hw => h w (List.mem_cons_of_mem _ hw)) (by omega))

end Values

theorem nodeOf_scalar {v : Json} {style : Style} {cs : List Char}
    (h : scalarOf? v = some (style, cs)) : nodeOf v = .scalar none style (String.ofList cs) := by
  cases v with
  | bool b =>
    cases h
    cases b
    · rfl
    · rfl
  | null =>
    cases h
    rfl
  | int n | decimal text | str s =>
    cases h
    rw [nodeOf, String.ofList_toList]
  | arr vs | obj ms => cases h

theorem readsAs_scalar {v : Json} {style : Style} {cs : List Char}
    (hscalar : scalarOf? v = some (style, cs)) (behindKey : Bool) : ReadsAs behindKey v := by
  intro table budget rest anchors hbudget _
  rw [tokensOf_scalar hscalar] at hbudget ⊢
  obtain ⟨b, rfl⟩ : ∃ b, budget = b + 2 := ⟨budget - 2, by simp at hbudget; omega⟩
  rw [nodeOf_scalar hscalar]
  exact readNode_scalar style cs

theorem readsAs_list {vs : List Json} (h : ∀ v ∈ vs, ReadsAs false v) (behindKey : Bool) :
    ReadsAs behindKey (.arr vs) := by
  intro table budget rest anchors hbudget hrest
  cases vs with
  | nil =>
    obtain ⟨b, rfl⟩ : ∃ b, budget = b + 3 := ⟨budget - 3, by simp [tokensOf] at hbudget; omega⟩
    exact readNode_emptyList
  | cons v vs =>
    rw [nodeOf]
    cases behindKey with
    | false =>
      rw [tokensOf, if_neg Bool.false_ne_true] at hbudget ⊢
      simp only [List.length_append, List.length_cons, List.length_nil] at hbudget
      obtain ⟨b, rfl⟩ : ∃ b, budget = b + 2 := ⟨budget - 2, by omega⟩
      rw [List.cons_append, List.cons_append, List.append_assoc]
      exact readNode_blockSequence (readBlockItems_tokensOf h (by omega))
    | true =>
      rw [tokensOf, if_pos rfl] at hbudget ⊢
      have hpos : 0 < (tokensOfItems (v :: vs)).length := by simp [tokensOfItems]
      obtain ⟨b, rfl⟩ : ∃ b, budget = b + 2 := ⟨budget - 2, by omega⟩
      exact readNode_bareItems (readBareItems_tokensOf h (hrest rfl) (by omega) hbudget)

theorem readsAs_object {ms : List (String × Json)} (h : ∀ m ∈ ms, ReadsAs true m.2)
    (behindKey : Bool) : ReadsAs behindKey (.obj ms) := by
  intro table budget rest anchors hbudget _
  cases ms with
  | nil =>
    obtain ⟨b, rfl⟩ : ∃ b, budget = b + 3 := ⟨budget - 3, by simp [tokensOf] at hbudget; omega⟩
    exact readNode_emptyRecord
  | cons m ms =>
    rw [tokensOf] at hbudget ⊢
    simp only [List.length_append, List.length_cons, List.length_nil] at hbudget
    obtain ⟨b, rfl⟩ : ∃ b, budget = b + 2 := ⟨budget - 2, by omega⟩
    rw [nodeOf, List.cons_append, List.cons_append, List.append_assoc]
    exact readNode_blockMapping (readBlockMembers_tokensOf h (by omega))

/-- Every value is put together from its tokens. -/
theorem Writable.readsAs {v : Json} (hv : Writable v) :
    ∀ behindKey : Bool, ReadsAs behindKey v := by
  induction hv with
  | null | bool b | int h | decimal h | str s => exact readsAs_scalar rfl
  | arr _ ih => exact readsAs_list fun v hv => ih v hv false
  | obj _ _ ih => exact readsAs_object fun m hm => ih m hm true

/-! ## Documents -/

/-- What is written for a value is read as its node. -/
theorem readText?_render {v : Json} (hv : Writable v) :
    readText? (render v) = some (some (nodeOf v)) := by
  obtain ⟨t, ts, htokens, hstart⟩ := tokensOf_eq_cons false v
  have hbare : t.startsDocument = false := by
    cases t <;> first | rfl | cases hstart
  have hread : readNode ([] ++ defaultTags) (budgetFor (tokensOf false v)) true false
      ⟨tokensOf false v ++ [], []⟩ = some (nodeOf v, ⟨[], []⟩) :=
    hv.readsAs false (Nat.le_add_right _ _) fun h => absurd h Bool.false_ne_true
  have hroot : readRoot? [] (tokensOf false v) = some (nodeOf v) := by
    rw [List.append_nil] at hread
    show (readNode ([] ++ defaultTags) (budgetFor (tokensOf false v)) true false
      ⟨tokensOf false v, []⟩).bind _ = _
    rw [hread]
    rfl
  rw [readText?, tokensOf?_render hv, Option.bind_some]
  rw [htokens] at hroot ⊢
  show (if t.startsDocument then _ else (readRoot? [] (t :: ts)).map some) = _
  rw [hbare, if_neg Bool.false_ne_true, hroot]
  rfl

end PoolOperator.Yaml
