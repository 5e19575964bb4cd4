import PoolOperator.Proofs.Condition.Merge

/-!
# Merging by position

A merge goes through the conditions that are there. The first one of each type gives way to what is
desired for the type, and all others stay, each in its place. What is desired for other types
follows behind them. So merges of different types do not get into each other's way.
-/

namespace PoolOperator.Condition

variable {c : Condition} {cs desired desired' m : List Condition}

/-- What is desired for types that are not there. -/
def missing (cs desired : List Condition) : List Condition :=
  desired.filter fun d => (find? d.type cs).isNone

/-- What becomes of the first condition of a type. -/
def amended (desired : List Condition) (c : Condition) : Condition :=
  ((find? c.type desired).bind c.replacedBy?).getD c

/-- What is desired for other types than the one of a condition. -/
def besides (c : Condition) (desired : List Condition) : List Condition :=
  desired.filter (·.type ≠ c.type)

/-! ## One condition after the other -/

theorem type_replacedBy? {old new : Condition} (h : old.type = new.type) :
    ((old.replacedBy? new).getD old).type = old.type := by
  unfold replacedBy?
  split
  · rfl
  · split
    · exact h.symm
    · exact h.symm

theorem find?_eq_none_iff {type : String} :
    find? type cs = none ↔ type ∉ cs.map (·.type) := by
  simp [find?]

theorem type_of_find? {type : String} (h : find? type cs = some c) : c.type = type := by
  have hpred := List.find?_some h
  exact eq_of_beq hpred

theorem amended_of_notMem (h : c.type ∉ desired.map (·.type)) : amended desired c = c := by
  rw [amended, find?_eq_none_iff.mpr h]
  rfl

theorem type_amended (desired : List Condition) (c : Condition) :
    (amended desired c).type = c.type := by
  rw [amended]
  cases hfind : find? c.type desired with
  | none => rfl
  | some d => exact type_replacedBy? (type_of_find? hfind).symm

theorem besides_of_notMem (h : c.type ∉ desired.map (·.type)) : besides c desired = desired := by
  refine List.filter_eq_self.mpr fun d hd => decide_eq_true ?_
  intro htype
  exact h (htype ▸ List.mem_map_of_mem hd)

theorem besides_cons_self {d : Condition} (h : c.type = d.type) (desired : List Condition) :
    besides c (d :: desired) = besides c desired :=
  List.filter_cons_of_neg (by simp [h])

theorem besides_cons_of_ne {d : Condition} (h : c.type ≠ d.type) (desired : List Condition) :
    besides c (d :: desired) = d :: besides c desired :=
  List.filter_cons_of_pos (by simp [h.symm])

theorem nodup_besides (h : (desired.map (·.type)).Nodup) (c : Condition) :
    ((besides c desired).map (·.type)).Nodup :=
  h.sublist (List.filter_sublist.map _)

theorem merged_cons_right (d : Condition) (cs desired : List Condition) :
    merged cs (d :: desired) = merged (put d cs) desired := by
  rw [merged_eq_foldl, merged_eq_foldl, List.foldl_cons]

/-- **The first condition takes what is desired for its type**, and the others are merged with what
is desired besides. -/
theorem merged_cons (hdesired : (desired.map (·.type)).Nodup) (c : Condition)
    (cs : List Condition) :
    merged (c :: cs) desired = amended desired c :: merged cs (besides c desired) := by
  induction desired generalizing c cs with
  | nil => rfl
  | cons d desired ih =>
    obtain ⟨hd, hrest⟩ := List.nodup_cons.mp hdesired
    rw [merged_cons_right]
    by_cases htype : c.type = d.type
    · -- nothing else is desired for this type, so the condition is not touched again
      have hfirst : amended (d :: desired) c = (c.replacedBy? d).getD c := by
        rw [amended, find?_cons, if_pos htype.symm, Option.bind_some]
      have hsame : (amended (d :: desired) c).type = c.type := type_amended _ c
      have hfresh : (amended (d :: desired) c).type ∉ desired.map (·.type) := by
        rw [hsame, htype]
        exact hd
      rw [put_cons_self htype, ← hfirst, ih hrest, amended_of_notMem hfresh,
        besides_of_notMem hfresh, besides_cons_self htype, besides_of_notMem (htype ▸ hd)]
    · rw [put_cons_of_ne htype, ih hrest, besides_cons_of_ne htype, merged_cons_right, amended,
        amended, find?_cons, if_neg (Ne.symm htype)]

theorem merged_nil (hdesired : (desired.map (·.type)).Nodup) : merged [] desired = desired := by
  induction desired with
  | nil => rfl
  | cons d desired ih =>
    obtain ⟨hd, hrest⟩ := List.nodup_cons.mp hdesired
    rw [merged_cons_right, put_nil, merged_cons hrest, amended_of_notMem hd, besides_of_notMem hd,
      ih hrest]

/-- Desired conditions follow those that are there, if all types are different. -/
theorem merged_of_nodup (h : ((cs ++ desired).map (·.type)).Nodup) :
    merged cs desired = cs ++ desired := by
  induction cs with
  | nil => exact merged_nil h
  | cons c cs ih =>
    rw [List.cons_append, List.map_cons, List.nodup_cons] at h
    obtain ⟨hc, hrest⟩ := h
    rw [List.map_append, List.mem_append, not_or] at hc
    have hdesired : (desired.map (·.type)).Nodup :=
      hrest.sublist ((List.sublist_append_right cs desired).map _)
    rw [merged_cons hdesired, amended_of_notMem hc.2, besides_of_notMem hc.2, ih hrest]
    rfl

/-! ## Missing types -/

theorem missing_nil (desired : List Condition) : missing [] desired = desired :=
  List.filter_eq_self.mpr fun _ _ => rfl

theorem missing_cons (c : Condition) (cs desired : List Condition) :
    missing (c :: cs) desired = missing cs (besides c desired) := by
  rw [missing, missing, besides, List.filter_filter]
  refine List.filter_congr fun d _ => ?_
  rw [find?_cons]
  by_cases htype : c.type = d.type
  · simp [htype]
  · simp [htype, Ne.symm htype]

/-! ## Places -/

/-- Whether conditions are what others become when more are merged into them, place by place. -/
structure IsAmended (cs desired m : List Condition) : Prop where
  length : m.length = cs.length + (missing cs desired).length
  /-- The first condition of a desired type that says something else gives way. The time stays if
  the status stays. -/
  replaced {d c : Condition} {i : Nat} (hd : d ∈ desired)
    (hfirst : cs.findIdx? (·.type == d.type) = some i) (hc : cs[i]? = some c)
    (hnew : c.sameObservation d = false) :
    m[i]? = some
      { d with
        lastTransitionTime :=
          if c.status = d.status then c.lastTransitionTime else d.lastTransitionTime }
  /-- Any other condition stays as it is. -/
  kept {c : Condition} {i : Nat} (hc : cs[i]? = some c)
    (hsame : ∀ d ∈ desired, cs.findIdx? (·.type == d.type) = some i →
      c.sameObservation d = true) : m[i]? = some c
  appended : m.drop cs.length = missing cs desired

theorem amended_of_find? {d : Condition} (h : find? c.type desired = some d) :
    amended desired c = if c.sameObservation d then c else
      { d with
        lastTransitionTime :=
          if c.status = d.status then c.lastTransitionTime else d.lastTransitionTime } := by
  rw [amended, h, Option.bind_some, replacedBy?]
  split
  · rfl
  · split <;> rfl

theorem mem_besides {d : Condition} : d ∈ besides c desired ↔ d ∈ desired ∧ d.type ≠ c.type := by
  simp [besides]

/-- A merge amends, whether it changes anything or not. -/
theorem isAmended_merged (hdesired : (desired.map (·.type)).Nodup) :
    IsAmended cs desired (merged cs desired) := by
  induction cs generalizing desired with
  | nil =>
    rw [merged_nil hdesired]
    refine ⟨?_, nofun, nofun, ?_⟩
    · rw [missing_nil, List.length_nil, Nat.zero_add]
    · rw [missing_nil]
      rfl
  | cons c cs ih =>
    obtain ⟨hlength, hreplaced, hkept, happended⟩ := ih (nodup_besides hdesired c)
    rw [merged_cons hdesired]
    refine ⟨?_, ?_, ?_, ?_⟩
    · rw [List.length_cons, List.length_cons, hlength, missing_cons, Nat.add_right_comm]
    · intro d c' i hd hfirst hc hnew
      rw [List.findIdx?_cons] at hfirst
      by_cases htype : c.type = d.type
      · rw [if_pos (beq_iff_eq.mpr htype)] at hfirst
        cases hfirst
        cases hc
        have hfind : find? c.type desired = some d := by
          rw [htype]
          exact find?_of_mem hdesired hd
        rw [List.getElem?_cons_zero, amended_of_find? hfind, hnew, if_neg Bool.false_ne_true]
      · rw [if_neg (by simpa using htype)] at hfirst
        obtain ⟨j, hj, rfl⟩ := Option.map_eq_some_iff.mp hfirst
        exact hreplaced (mem_besides.mpr ⟨hd, Ne.symm htype⟩) hj hc hnew
    · intro c' i hc hsame
      cases i with
      | zero =>
        cases hc
        rw [List.getElem?_cons_zero, Option.some.injEq]
        cases hfind : find? c.type desired with
        | none => exact amended_of_notMem (find?_eq_none_iff.mp hfind)
        | some d =>
          have htype : d.type = c.type := type_of_find? hfind
          have hfirst : (c :: cs).findIdx? (·.type == d.type) = some 0 := by
            rw [List.findIdx?_cons, if_pos (beq_iff_eq.mpr htype.symm)]
          rw [amended_of_find? hfind, if_pos (hsame d (List.mem_of_find?_eq_some hfind) hfirst)]
      | succ i =>
        refine hkept hc fun d hd hfirst => ?_
        obtain ⟨hd, htype⟩ := mem_besides.mp hd
        refine hsame d hd ?_
        rw [List.findIdx?_cons, if_neg (by simpa using Ne.symm htype), hfirst]
        rfl
    · rw [List.length_cons, List.drop_succ_cons, happended, missing_cons]

/-! ## Two merges -/

theorem amended_comm (h : ((desired ++ desired').map (·.type)).Nodup) (c : Condition) :
    amended desired' (amended desired c) = amended desired (amended desired' c) := by
  rw [List.map_append, List.nodup_append] at h
  by_cases hc : c.type ∈ desired.map (·.type)
  · have hc' : c.type ∉ desired'.map (·.type) := fun hmem => h.2.2 _ hc _ hmem rfl
    rw [amended_of_notMem hc', amended_of_notMem (by rwa [type_amended])]
  · rw [amended_of_notMem hc, amended_of_notMem (c := amended desired' c) (by rwa [type_amended])]

/-- Merges of different types change places with each other, and so do the conditions that they
append. -/
theorem merged_merged (cs : List Condition) (h : ((desired ++ desired').map (·.type)).Nodup) :
    ∃ old, old.length = cs.length ∧
      merged (merged cs desired) desired' = old ++ missing cs desired ++ missing cs desired' ∧
      merged (merged cs desired') desired = old ++ missing cs desired' ++ missing cs desired := by
  have hdesired : (desired.map (·.type)).Nodup :=
    h.sublist ((List.sublist_append_left desired desired').map _)
  have hdesired' : (desired'.map (·.type)).Nodup :=
    h.sublist ((List.sublist_append_right desired desired').map _)
  induction cs generalizing desired desired' with
  | nil =>
    have hswap : ((desired' ++ desired).map (·.type)).Nodup :=
      (List.perm_append_comm.map _).nodup_iff.mp h
    refine ⟨[], rfl, ?_, ?_⟩
    · rw [merged_nil hdesired, merged_of_nodup h, missing_nil, missing_nil, List.nil_append]
    · rw [merged_nil hdesired', merged_of_nodup hswap, missing_nil, missing_nil, List.nil_append]
  | cons c cs ih =>
    have hfewer : ((besides c desired ++ besides c desired').map (·.type)).Nodup :=
      h.sublist ((List.filter_sublist.append List.filter_sublist).map _)
    obtain ⟨old, hlength, hone, hother⟩ :=
      ih hfewer (nodup_besides hdesired c) (nodup_besides hdesired' c)
    have hbesides (ds ds' : List Condition) : besides (amended ds c) ds' = besides c ds' := by
      rw [besides, type_amended, besides]
    refine ⟨amended desired' (amended desired c) :: old, congrArg (· + 1) hlength, ?_, ?_⟩
    · rw [merged_cons hdesired, merged_cons hdesired', hbesides, hone, missing_cons, missing_cons]
      rfl
    · rw [merged_cons hdesired', merged_cons hdesired, hbesides, hother, missing_cons, missing_cons,
        amended_comm h]
      rfl

/-! ## Any merge -/

/-- A merge that notes no change has found that all observations hold. -/
theorem holds_of_mergeFrom (desired : List Condition) : ∀ {cs : List Condition} {changed : Bool},
    (mergeFrom cs changed desired).2 = false → ∀ d ∈ desired, Holds d cs := by
  induction desired with
  | nil => exact fun _ => List.forall_mem_nil _
  | cons d desired ih =>
    intro cs changed h
    rw [mergeFrom] at h
    cases hput : put? d cs with
    | none =>
      rw [hput] at h
      exact List.forall_mem_cons.mpr ⟨put?_eq_none_iff.mp hput, ih h⟩
    | some next =>
      -- a change that has been noted is not forgotten
      rw [hput] at h
      exact absurd (mergeFrom_unchanged h).2 (by decide)

theorem merge?_eq_none_iff : merge? cs desired = none ↔ ∀ d ∈ desired, Holds d cs := by
  refine ⟨fun h => ?_, merge?_eq_none_of_holds⟩
  unfold merge? at h
  split at h
  · cases h
  · rename_i merged hmerge
    exact holds_of_mergeFrom desired (by rw [hmerge])

/-- **A merge, place by place.** Nothing is merged just if the first condition of every desired type
is there and says the same. Otherwise the first conditions of desired types that say something else
give way, with their time if their status stays, all others stay as they are, and what is desired of
missing types follows in order. The same observations change nothing thereafter, whatever their
times. Merges of different types may change places: they leave the same conditions, and of these the
appended ones in the order of the merges. -/
theorem merged_by_position {current desired : List Condition}
    (hdesired : (desired.map (·.type)).Nodup) :
    (merge? current desired = none ↔ ∀ d ∈ desired, ∃ c, find? d.type current = some c ∧
      c.type = d.type ∧ c.status = d.status ∧ c.reason = d.reason ∧ c.message = d.message) ∧
    (∀ m, merge? current desired = some m → IsAmended current desired m ∧
      ∀ again, again.map observation = desired.map observation → merge? m again = none) ∧
    ∀ others, ((desired ++ others).map (·.type)).Nodup →
      let one := merged (merged current desired) others
      let other := merged (merged current others) desired
      one.Perm other ∧ ∃ old, old.length = current.length ∧
        one = old ++ missing current desired ++ missing current others ∧
        other = old ++ missing current others ++ missing current desired := by
  refine ⟨?_, ?_, ?_⟩
  · simp only [merge?_eq_none_iff, Holds, sameObservation_iff]
  · intro m hm
    have hmerged : merged current desired = m := merged_of_eq_some hm
    have hholds := holds_merge? hdesired current
    rw [hm, Option.getD_some] at hholds
    refine ⟨hmerged ▸ isAmended_merged hdesired, fun again hagain => ?_⟩
    exact merge?_eq_none_of_holds (holds_of_observations hholds hagain.symm)
  · intro others hothers one other
    obtain ⟨old, hlength, hone, hother⟩ := merged_merged current hothers
    refine ⟨?_, old, hlength, hone, hother⟩
    show (merged (merged current desired) others).Perm (merged (merged current others) desired)
    rw [hone, hother, List.append_assoc, List.append_assoc]
    exact List.perm_append_comm.append_left old

/-- Two conditions of one type, the first of them without a time. -/
def readyTwice : List Condition :=
  [⟨"Ready", .true, "Up", "", none⟩, ⟨"Synced", .false, "Late", "", some "1"⟩,
    ⟨"Ready", .false, "Down", "", some "2"⟩]

/-- A change without a change of status, a change of status, and a type that is missing. -/
def steadied (now : String) : List Condition :=
  [⟨"Synced", .true, "Done", "", some now⟩, ⟨"Ready", .true, "Steady", "", some now⟩,
    ⟨"Fresh", .unknown, "", "", some now⟩]

theorem merged_by_position_repeated :
    ∃ m, merge? readyTwice (steadied "5") = some m ∧ m.length = 4 ∧
      m[0]? = some ⟨"Ready", .true, "Steady", "", none⟩ ∧
      m[1]? = some ⟨"Synced", .true, "Done", "", some "5"⟩ ∧ m[2]? = readyTwice[2]? ∧
      m.drop 3 = [⟨"Fresh", .unknown, "", "", some "5"⟩] ∧ merge? m (steadied "6") = none ∧
      ¬∀ d ∈ steadied "5", ∃ c, find? d.type readyTwice = some c ∧ c.type = d.type ∧
        c.status = d.status ∧ c.reason = d.reason ∧ c.message = d.message := by
  have htypes : ((steadied "5").map (·.type)).Nodup := by decide
  obtain ⟨hnone, hsome, -⟩ := @merged_by_position readyTwice (steadied "5") htypes
  obtain ⟨m, hm⟩ : ∃ m, merge? readyTwice (steadied "5") = some m :=
    Option.isSome_iff_exists.mp (by decide +kernel)
  obtain ⟨hamended, hagain⟩ := hsome m hm
  have hready : readyTwice.findIdx? (·.type == "Ready") = some 0 := by decide
  have hsynced : readyTwice.findIdx? (·.type == "Synced") = some 1 := by decide
  refine ⟨m, hm, hamended.length.trans (by decide), ?_, ?_, ?_, ?_, hagain _ rfl, ?_⟩
  · exact hamended.replaced (List.mem_cons_of_mem _ List.mem_cons_self) hready rfl (by decide)
  · exact hamended.replaced List.mem_cons_self hsynced rfl (by decide)
  · exact hamended.kept rfl (by decide)
  · exact hamended.appended.trans (by decide)
  · rw [← hnone, hm]
    exact Option.some_ne_none m

end PoolOperator.Condition
