import PoolOperator.Proofs.Condition

/-!
# What merged conditions say

Leaving times aside, a merge is a plain program: each observation takes the place of the first one
of its type, or the last place. Conditions of other types stay as they are, times included.
-/

namespace PoolOperator.Condition

variable {a b new : Condition} {cs cs' : List Condition} {desired desired' : List Condition}

/-! ## Merging as a fold -/

/-- The conditions after an observation, changed or not. -/
def put (new : Condition) (cs : List Condition) : List Condition := (put? new cs).getD cs

/-- The conditions after a merge, changed or not. -/
def merged (cs desired : List Condition) : List Condition := (merge? cs desired).getD cs

theorem put_nil (new : Condition) : put new [] = [new] := rfl

theorem put_cons_self {c : Condition} (h : c.type = new.type) (cs : List Condition) :
    put new (c :: cs) = (c.replacedBy? new).getD c :: cs := by
  rw [put, put?, if_pos h]
  cases c.replacedBy? new <;> rfl

theorem put_cons_of_ne {c : Condition} (h : c.type ≠ new.type) (cs : List Condition) :
    put new (c :: cs) = c :: put new cs := by
  rw [put, put?, if_neg h, put]
  cases put? new cs <;> rfl

theorem mergeFrom_eq_foldl (desired : List Condition) :
    ∀ (cs : List Condition) (changed : Bool),
      (mergeFrom cs changed desired).1 = desired.foldl (fun cs new => put new cs) cs := by
  induction desired with
  | nil =>
    intro cs changed
    rfl
  | cons new desired ih =>
    intro cs changed
    rw [mergeFrom, List.foldl_cons, put]
    cases put? new cs with
    | none => exact ih cs changed
    | some next => exact ih next true

theorem merged_eq_foldl (cs desired : List Condition) :
    merged cs desired = desired.foldl (fun cs new => put new cs) cs := by
  rw [← mergeFrom_eq_foldl desired cs false, merged, merge?]
  rcases hmerge : mergeFrom cs false desired with ⟨next, _ | _⟩
  · -- a merge that notes no change makes none
    have hsame := (mergeFrom_unchanged (by rw [hmerge])).1
    rw [hmerge] at hsame
    exact hsame.symm
  · rfl

theorem merged_of_eq_none (h : merge? cs desired = none) : merged cs desired = cs := by
  rw [merged, h, Option.getD_none]

theorem merged_of_eq_some (h : merge? cs desired = some cs') : merged cs desired = cs' := by
  rw [merged, h, Option.getD_some]

/-! ## Other types -/

/-- Conditions of the types that a test picks stay as they are if the observation has another. -/
theorem filter_put {p : String → Bool} (h : p new.type = false) (cs : List Condition) :
    (put new cs).filter (p ·.type) = cs.filter (p ·.type) := by
  induction cs with
  | nil => rw [put_nil, List.filter_cons_of_neg (by simp [h])]
  | cons c cs ih =>
    by_cases htype : c.type = new.type
    · have hreplaced : ((c.replacedBy? new).getD c).type = new.type := by
        unfold replacedBy?
        split
        · exact htype
        · split <;> rfl
      rw [put_cons_self htype, List.filter_cons_of_neg (by simp [hreplaced, h]),
        List.filter_cons_of_neg (by simp [htype, h])]
    · rw [put_cons_of_ne htype, List.filter_cons, List.filter_cons, ih]

/-- A merge leaves the conditions of other types as they are, in the same order. -/
theorem filter_merged {p : String → Bool} (h : ∀ d ∈ desired, p d.type = false)
    (cs : List Condition) : (merged cs desired).filter (p ·.type) = cs.filter (p ·.type) := by
  rw [merged_eq_foldl]
  induction desired generalizing cs with
  | nil => rfl
  | cons d desired ih =>
    rw [List.foldl_cons, ih fun e he => h e (List.mem_cons_of_mem d he)]
    exact filter_put (h d List.mem_cons_self) cs

/-! ## Other clocks -/

/-- A condition as it is with the times of another clock. -/
def retime (clock : Option String → Option String) (c : Condition) : Condition :=
  { c with lastTransitionTime := clock c.lastTransitionTime }

section Retime

variable (clock : Option String → Option String)

theorem replacedBy?_retime (old new : Condition) :
    (old.retime clock).replacedBy? (new.retime clock) =
      (old.replacedBy? new).map (retime clock) := by
  unfold replacedBy?
  show (if old.sameObservation new then _ else if old.status = new.status then _ else _) = _
  split
  · rfl
  · split <;> rfl

theorem put?_retime (new : Condition) (cs : List Condition) :
    put? (new.retime clock) (cs.map (retime clock)) =
      (put? new cs).map (List.map (retime clock)) := by
  induction cs with
  | nil => rfl
  | cons c cs ih =>
    rw [List.map_cons, put?, put?]
    show (if c.type = new.type then _ else _) = _
    split
    · rw [replacedBy?_retime, Option.map_map, Option.map_map]
      rfl
    · rw [ih, Option.map_map, Option.map_map]
      rfl

theorem mergeFrom_retime (desired : List Condition) (cs : List Condition) (changed : Bool) :
    mergeFrom (cs.map (retime clock)) changed (desired.map (retime clock)) =
      ((mergeFrom cs changed desired).1.map (retime clock), (mergeFrom cs changed desired).2) := by
  induction desired generalizing cs changed with
  | nil => rfl
  | cons new desired ih =>
    rw [List.map_cons, mergeFrom, mergeFrom, put?_retime]
    cases put? new cs with
    | none => exact ih cs changed
    | some next => exact ih next true

/-- A merge does not depend on how time is told. -/
theorem merge?_retime (cs desired : List Condition) :
    merge? (cs.map (retime clock)) (desired.map (retime clock)) =
      (merge? cs desired).map (List.map (retime clock)) := by
  rw [merge?, merge?, mergeFrom_retime]
  rcases mergeFrom cs false desired with ⟨merged, _ | _⟩ <;> rfl

theorem find?_retime (type : String) (cs : List Condition) :
    find? type (cs.map (retime clock)) = (find? type cs).map (retime clock) := by
  induction cs with
  | nil => rfl
  | cons c cs ih =>
    rw [List.map_cons, find?_cons, find?_cons, ih]
    show (if c.type = type then _ else _) = _
    split <;> rfl

theorem isTrue_retime (type : String) (cs : List Condition) :
    isTrue type (cs.map (retime clock)) = isTrue type cs := by
  rw [isTrue, isTrue, find?_retime]
  cases find? type cs <;> rfl

end Retime

/-! ## Times aside -/

/-- A condition without its time. -/
def observation (c : Condition) : Condition := { c with lastTransitionTime := none }

theorem sameObservation_iff_observation_eq :
    a.sameObservation b = true ↔ a.observation = b.observation := by
  rw [sameObservation_iff, observation, observation, Condition.mk.injEq]
  simp

/-- The observations after one more. -/
def settle (new : Condition) : List Condition → List Condition
  | [] => [new]
  | c :: cs => if c.type = new.type then new :: cs else c :: settle new cs

/-- Whatever its time, an observation is found in its place. -/
theorem observation_replacedBy? (old new : Condition) :
    ((old.replacedBy? new).getD old).observation = new.observation := by
  unfold replacedBy?
  split
  · rename_i hsame
    exact sameObservation_iff_observation_eq.mp hsame
  · split <;> rfl

theorem observations_put (new : Condition) (cs : List Condition) :
    (put new cs).map observation = settle new.observation (cs.map observation) := by
  induction cs with
  | nil => rfl
  | cons c cs ih =>
    rw [List.map_cons, settle]
    show _ = if c.type = new.type then _ else _
    by_cases htype : c.type = new.type
    · rw [put_cons_self htype, if_pos htype, List.map_cons, observation_replacedBy?]
    · rw [put_cons_of_ne htype, if_neg htype, List.map_cons, ih]

/-- What the merge of conditions says depends on what they say only. -/
theorem observations_merged (cs desired : List Condition) :
    (merged cs desired).map observation =
      (desired.map observation).foldl (fun os new => settle new os) (cs.map observation) := by
  rw [merged_eq_foldl]
  induction desired generalizing cs with
  | nil => rfl
  | cons d desired ih =>
    rw [List.foldl_cons, List.map_cons, List.foldl_cons, ih, observations_put]

theorem settle_append {os : List Condition} (h : new.type ∉ os.map (·.type))
    (rest : List Condition) : settle new (os ++ rest) = os ++ settle new rest := by
  induction os with
  | nil => rfl
  | cons o os ih =>
    rw [List.map_cons, List.mem_cons, not_or] at h
    rw [List.cons_append, settle, if_neg fun heq => h.1 heq.symm, ih h.2]
    rfl

/-- Observations of different types, of which some types have been seen, settle one behind the other
on what was said of the types that follow. -/
theorem foldl_settle {ds : List Condition} : ∀ {seen os : List Condition},
    ((seen ++ ds).map (·.type)).Nodup → (os = [] ∨ os.map (·.type) = ds.map (·.type)) →
      ds.foldl (fun os new => settle new os) (seen ++ os) = seen ++ ds := by
  induction ds with
  | nil =>
    intro seen os _ hos
    have hnil : os = [] := by
      rcases hos with hos | hos
      · exact hos
      · exact List.map_eq_nil_iff.mp hos
    rw [hnil]
    rfl
  | cons d ds ih =>
    intro seen os hnodup hos
    have hnew : d.type ∉ seen.map (·.type) := by
      rw [List.map_append, List.map_cons, List.nodup_append] at hnodup
      intro hmem
      exact hnodup.2.2 d.type hmem d.type List.mem_cons_self rfl
    have hassoc : seen ++ d :: ds = (seen ++ [d]) ++ ds := by simp
    rw [hassoc] at hnodup ⊢
    rw [List.foldl_cons, settle_append hnew]
    rcases hos with rfl | hos
    · have h := ih hnodup (.inl rfl)
      rw [List.append_nil] at h
      exact h
    · cases os with
      | nil => cases hos
      | cons o os =>
        rw [List.map_cons, List.map_cons, List.cons.injEq] at hos
        rw [settle, if_pos hos.1]
        have h := ih hnodup (.inr hos.2)
        rw [List.append_assoc] at h
        exact h

/-- Conditions of different types that are merged into none, or into others of just these types in
the same order, say what they said before. -/
theorem observations_merged_of_types (hnodup : (desired.map (·.type)).Nodup)
    (htypes : cs = [] ∨ cs.map (·.type) = desired.map (·.type)) :
    (merged cs desired).map observation = desired.map observation := by
  rw [observations_merged]
  have hmap (l : List Condition) : (l.map observation).map (·.type) = l.map (·.type) := by
    rw [List.map_map]
    rfl
  have hdesired : ((desired.map observation).map (·.type)).Nodup := by
    rw [hmap]
    exact hnodup
  rw [← List.nil_append (desired.map observation)] at hdesired
  refine foldl_settle hdesired ?_
  rcases htypes with rfl | htypes
  · exact .inl rfl
  · exact .inr (by rw [hmap, hmap, htypes])

theorem find?_map_observation (type : String) (cs : List Condition) :
    find? type (cs.map observation) = (find? type cs).map observation :=
  find?_retime (fun _ => none) type cs

theorem find?_of_mem (hnodup : (desired.map (·.type)).Nodup) {d : Condition} (hd : d ∈ desired) :
    find? d.type desired = some d := by
  induction desired with
  | nil => cases hd
  | cons e desired ih =>
    rw [List.map_cons, List.nodup_cons] at hnodup
    rw [find?_cons]
    rcases List.mem_cons.mp hd with rfl | hd
    · rw [if_pos rfl]
    · have hne : e.type ≠ d.type := by
        intro heq
        rw [heq] at hnodup
        exact hnodup.1 (List.mem_map_of_mem hd)
      rw [if_neg hne]
      exact ih hnodup.2 hd

/-- Where conditions say what is desired already, a merge changes nothing. -/
theorem merge?_eq_none_of_observations (hnodup : (desired.map (·.type)).Nodup)
    (h : cs.map observation = desired.map observation) : merge? cs desired = none := by
  refine merge?_eq_none_of_holds fun d hd => ?_
  have hfind : (find? d.type cs).map observation = some d.observation := by
    rw [← find?_map_observation, h, find?_map_observation, find?_of_mem hnodup hd, Option.map_some]
  obtain ⟨c, hc, hsame⟩ := Option.map_eq_some_iff.mp hfind
  exact ⟨c, hc, sameObservation_iff_observation_eq.mpr hsame⟩

/-- Observations that hold do so whenever they are made. -/
theorem holds_of_observations (h : ∀ d ∈ desired, Holds d cs)
    (hsame : desired.map observation = desired'.map observation) :
    ∀ d' ∈ desired', Holds d' cs := by
  intro d' hd'
  have hmem : d'.observation ∈ desired.map observation := hsame ▸ List.mem_map_of_mem hd'
  obtain ⟨d, hd, heq⟩ := List.mem_map.mp hmem
  exact (h d hd).of_sameObservation (sameObservation_iff_observation_eq.mpr heq)

end PoolOperator.Condition
