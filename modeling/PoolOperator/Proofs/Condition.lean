import Mathlib.Data.List.Basic
import PoolOperator.Verdict

/-!
# Merging conditions

An observation changes the first condition of its type and no other. Once it is merged, the same
observation at another time changes nothing.
-/

namespace PoolOperator.Condition

variable {a b c new : Condition} {cs cs' : List Condition}

/-! ## Observations -/

/-- Whether the condition that counts for the type of an observation says the same. -/
def Holds (new : Condition) (cs : List Condition) : Prop :=
  ∃ c, find? new.type cs = some c ∧ c.sameObservation new = true

theorem sameObservation_iff :
    a.sameObservation b = true ↔
      a.type = b.type ∧ a.status = b.status ∧ a.reason = b.reason ∧ a.message = b.message := by
  simp [sameObservation, and_assoc]

theorem find?_cons (type : String) (c : Condition) (cs : List Condition) :
    find? type (c :: cs) = if c.type = type then some c else find? type cs := by
  rw [find?, List.find?_cons]
  by_cases h : c.type = type
  · rw [if_pos h, h, beq_self_eq_true]
  · rw [if_neg h, beq_false_of_ne h]
    rfl

/-- A holding observation is one that changes nothing. -/
theorem put?_eq_none_iff : put? new cs = none ↔ Holds new cs := by
  induction cs with
  | nil => exact ⟨(fun h => nomatch h), (fun ⟨_, h, _⟩ => nomatch h)⟩
  | cons c cs ih =>
    rw [put?, Holds, find?_cons]
    by_cases h : c.type = new.type
    · rw [if_pos h, if_pos h, Option.map_eq_none_iff, replacedBy?]
      constructor
      · intro hnone
        refine ⟨c, rfl, ?_⟩
        by_contra hsame
        rw [if_neg hsame] at hnone
        split at hnone <;> cases hnone
      · rintro ⟨d, hd, hsame⟩
        cases hd
        rw [if_pos hsame]
    · rw [if_neg h, if_neg h, Option.map_eq_none_iff]
      exact ih

/-- Behind a change the observation holds, and other types are as they were. -/
theorem put?_eq_some (h : put? new cs = some cs') :
    Holds new cs' ∧ ∀ type, type ≠ new.type → find? type cs' = find? type cs := by
  induction cs generalizing cs' with
  | nil =>
    cases h
    refine ⟨⟨new, ?_, ?_⟩, ?_⟩
    · rw [find?_cons, if_pos rfl]
    · simp [sameObservation]
    · intro type htype
      rw [find?_cons, if_neg htype.symm]
  | cons c cs ih =>
    rw [put?] at h
    by_cases htype : c.type = new.type
    · rw [if_pos htype] at h
      obtain ⟨d, hd, rfl⟩ := Option.map_eq_some_iff.mp h
      have hsame : d.type = new.type ∧ d.sameObservation new = true := by
        unfold replacedBy? at hd
        split at hd
        · cases hd
        · split at hd <;> cases hd <;> simp [sameObservation]
      refine ⟨⟨d, ?_, hsame.2⟩, ?_⟩
      · rw [find?_cons, if_pos hsame.1]
      · intro type hne
        rw [find?_cons, find?_cons, hsame.1, htype, if_neg hne.symm, if_neg hne.symm]
    · rw [if_neg htype] at h
      obtain ⟨ds, hds, rfl⟩ := Option.map_eq_some_iff.mp h
      obtain ⟨⟨d, hfind, hsame⟩, hother⟩ := ih hds
      refine ⟨⟨d, ?_, hsame⟩, ?_⟩
      · rw [find?_cons, if_neg htype, hfind]
      · intro type hne
        rw [find?_cons, find?_cons, hother type hne]

theorem Holds.of_find?_eq (h : Holds new cs) (hfind : find? new.type cs' = find? new.type cs) :
    Holds new cs' := by
  rw [Holds, hfind]
  exact h

/-- The time of an observation does not count. -/
theorem Holds.of_sameObservation (h : Holds a cs) (hsame : a.sameObservation b = true) :
    Holds b cs := by
  obtain ⟨c, hfind, hc⟩ := h
  rw [sameObservation_iff] at hsame hc
  refine ⟨c, by rw [← hsame.1]; exact hfind, sameObservation_iff.mpr ?_⟩
  exact ⟨hc.1.trans hsame.1, hc.2.1.trans hsame.2.1, hc.2.2.1.trans hsame.2.2.1,
    hc.2.2.2.trans hsame.2.2.2⟩

/-! ## Lists of observations -/

/-- Observations that all hold are merged without a change. -/
theorem mergeFrom_of_holds {desired : List Condition} (h : ∀ d ∈ desired, Holds d cs)
    (changed : Bool) : mergeFrom cs changed desired = (cs, changed) := by
  induction desired with
  | nil => rfl
  | cons d desired ih =>
    rw [mergeFrom, put?_eq_none_iff.mpr (h d (by simp))]
    exact ih fun d' hd' => h d' (List.mem_cons_of_mem d hd')

theorem merge?_eq_none_of_holds {desired : List Condition} (h : ∀ d ∈ desired, Holds d cs) :
    merge? cs desired = none := by
  rw [merge?, mergeFrom_of_holds h]

/-- Merging observations of different types makes all of them hold. -/
theorem holds_mergeFrom {desired : List Condition} (htypes : (desired.map (·.type)).Nodup) :
    ∀ (cs : List Condition) (changed : Bool),
      (∀ d ∈ desired, Holds d (mergeFrom cs changed desired).1) ∧
        ∀ type, type ∉ desired.map (·.type) →
          find? type (mergeFrom cs changed desired).1 = find? type cs := by
  induction desired with
  | nil =>
    intro cs changed
    exact ⟨(fun d hd => nomatch hd), fun _ _ => rfl⟩
  | cons d desired ih =>
    intro cs changed
    rw [List.map_cons, List.nodup_cons] at htypes
    -- whether the first observation changes anything or not, it holds before the others are merged
    obtain ⟨next, changed', hmerge, hholds, hother⟩ : ∃ next changed',
        mergeFrom cs changed (d :: desired) = mergeFrom next changed' desired ∧ Holds d next ∧
          ∀ type, type ≠ d.type → find? type next = find? type cs := by
      cases hput : put? d cs with
      | none =>
        exact ⟨cs, changed, by rw [mergeFrom, hput], put?_eq_none_iff.mp hput, fun _ _ => rfl⟩
      | some next =>
        obtain ⟨hholds, hother⟩ := put?_eq_some hput
        exact ⟨next, true, by rw [mergeFrom, hput], hholds, hother⟩
    obtain ⟨hall, hrest⟩ := ih htypes.2 next changed'
    rw [hmerge]
    constructor
    · intro e he
      rcases List.mem_cons.mp he with rfl | he
      · exact hholds.of_find?_eq (hrest e.type htypes.1)
      · exact hall e he
    · intro type htype
      rw [List.map_cons, List.mem_cons, not_or] at htype
      rw [hrest type htype.2, hother type htype.1]

/-- A merge that notes no change makes none. -/
theorem mergeFrom_unchanged {desired : List Condition} :
    ∀ {cs : List Condition} {changed : Bool}, (mergeFrom cs changed desired).2 = false →
      (mergeFrom cs changed desired).1 = cs ∧ changed = false := by
  induction desired with
  | nil =>
    intro cs changed h
    exact ⟨rfl, h⟩
  | cons d desired ih =>
    intro cs changed h
    rw [mergeFrom] at h ⊢
    cases hput : put? d cs with
    | none =>
      rw [hput] at h
      exact ih h
    | some next =>
      rw [hput] at h
      exact absurd (ih h).2 (by decide)

/-- Once observations of different types have been merged, all of them hold. -/
theorem holds_merge? {desired : List Condition} (htypes : (desired.map (·.type)).Nodup)
    (cs : List Condition) : ∀ d ∈ desired, Holds d ((merge? cs desired).getD cs) := by
  have hall := (holds_mergeFrom htypes cs false).1
  rcases hmerge : mergeFrom cs false desired with ⟨merged, _ | _⟩
  · rw [hmerge] at hall
    have hsame := (mergeFrom_unchanged (by rw [hmerge])).1
    rw [hmerge] at hsame
    rw [merge?, hmerge, Option.getD_none, ← hsame]
    exact hall
  · rw [hmerge] at hall
    rw [merge?, hmerge]
    exact hall

/-- Conditions that hold decide what is said of their types. -/
theorem isTrue_of_holds {type : String} {desired : List Condition}
    (htype : type ∈ desired.map (·.type)) (h : ∀ d ∈ desired, Holds d cs) :
    isTrue type cs = isTrue type desired := by
  obtain ⟨d, hd, rfl⟩ := List.mem_map.mp htype
  obtain ⟨e, he⟩ : ∃ e, find? d.type desired = some e :=
    Option.isSome_iff_exists.mp (List.find?_isSome.mpr ⟨d, hd, beq_self_eq_true _⟩)
  have hpred := List.find?_some he
  have hetype : e.type = d.type := eq_of_beq hpred
  obtain ⟨c, hc, hsame⟩ := h e (List.mem_of_find?_eq_some he)
  rw [hetype] at hc
  rw [isTrue, isTrue, hc, he]
  show (c.status == .true) = (e.status == .true)
  rw [(sameObservation_iff.mp hsame).2.1]

end PoolOperator.Condition

namespace PoolOperator.Verdict

/-! ## Verdicts -/

theorem types_mergedConditions (now : String) :
    (mergedConditions now).map (·.type) = [Condition.available, Condition.degraded] := rfl

theorem types_invalidSpecConditions (now fault : String) :
    (invalidSpecConditions now fault).map (·.type) = [Condition.available, Condition.degraded] :=
  rfl

/-- A verdict says the same at any time. -/
theorem sameObservation_mergedConditions (now now' : String) :
    ∀ d' ∈ mergedConditions now', ∃ d ∈ mergedConditions now, d.sameObservation d' = true := by
  intro d' hd'
  simp only [mergedConditions, List.mem_cons, List.not_mem_nil, or_false] at hd'
  rcases hd' with rfl | rfl
  · exact ⟨_, List.mem_cons_self, rfl⟩
  · exact ⟨_, List.mem_cons_of_mem _ List.mem_cons_self, rfl⟩

theorem sameObservation_invalidSpecConditions (now now' fault : String) :
    ∀ d' ∈ invalidSpecConditions now' fault,
      ∃ d ∈ invalidSpecConditions now fault, d.sameObservation d' = true := by
  intro d' hd'
  simp only [invalidSpecConditions, List.mem_cons, List.not_mem_nil, or_false] at hd'
  rcases hd' with rfl | rfl
  · exact ⟨_, List.mem_cons_self, Condition.sameObservation_iff.mpr ⟨rfl, rfl, rfl, rfl⟩⟩
  · exact ⟨_, List.mem_cons_of_mem _ List.mem_cons_self,
      Condition.sameObservation_iff.mpr ⟨rfl, rfl, rfl, rfl⟩⟩

end PoolOperator.Verdict
