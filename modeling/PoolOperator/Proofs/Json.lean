import PoolOperator.Json.MergePatch
import PoolOperator.Json.Record
import PoolOperator.Proofs.SortedMap

/-!
# Members and fields

A member that is written is found again under its name, whatever stands around it. Fields that are
read the way they are written give back what they were written from. A merge patch changes the
members that it names.
-/

namespace PoolOperator.Json

variable {α β : Type}

/-! ## Members -/

/-- Those members that have a value. -/
def present (members : List (String × Option Json)) : List (String × Json) :=
  members.filterMap fun (name, value) => value.map (name, ·)

theorem ofMembers_eq (members : List (String × Option Json)) :
    ofMembers members = .obj (present members) := rfl

@[simp] theorem present_nil : present [] = [] := rfl

@[simp] theorem member?_nil (name : String) : member? name [] = none := rfl

theorem member?_cons (name : String) (m : String × Json) (ms : List (String × Json)) :
    member? name (m :: ms) = (member? name ms).or (if m.1 = name then some m.2 else none) := by
  unfold member?
  rw [List.reverse_cons, List.find?_append, Option.map_or, List.find?_singleton]
  by_cases h : m.1 = name
  · rw [if_pos h, if_pos (beq_iff_eq.mpr h)]
    rfl
  · rw [if_neg h, if_neg (mt beq_iff_eq.mp h)]
    rfl

/-- The last value that is given for a name is found under it. -/
theorem member?_present_cons (name name' : String) (value : Option Json)
    (ms : List (String × Option Json)) :
    member? name (present ((name', value) :: ms)) =
      (member? name (present ms)).or (if name' = name then value else none) := by
  cases value with
  | none =>
    rw [ite_self, Option.or_none]
    rfl
  | some v => exact member?_cons name (name', v) (present ms)

theorem names_present (ms : List (String × Option Json)) :
    ((present ms).map (·.1)).Sublist (ms.map (·.1)) := by
  induction ms with
  | nil => exact .slnil
  | cons m ms ih =>
    obtain ⟨name, value⟩ := m
    cases value with
    | none => exact ih.cons name
    | some v => exact ih.cons_cons name

theorem member?_present_of_fresh {name : String} {ms : List (String × Option Json)}
    (hfresh : name ∉ ms.map (·.1)) : member? name (present ms) = none := by
  rw [member?, Option.map_eq_none_iff, List.find?_eq_none]
  intro m hm hname
  have hmem : m.1 ∈ (present ms).map (·.1) := List.mem_map_of_mem (List.mem_reverse.mp hm)
  rw [beq_iff_eq.mp hname] at hmem
  exact hfresh ((names_present ms).subset hmem)

/-- Where no name is given twice, the value that is given for a name is found under it. -/
theorem member?_present {name : String} {value : Option Json} {ms : List (String × Option Json)}
    (hnames : (ms.map (·.1)).Nodup) (hmem : (name, value) ∈ ms) :
    member? name (present ms) = value := by
  induction ms with
  | nil => cases hmem
  | cons m ms ih =>
    obtain ⟨hfresh, hnodup⟩ := List.nodup_cons.mp hnames
    rw [member?_present_cons]
    rcases List.mem_cons.mp hmem with rfl | hmem
    · rw [member?_present_of_fresh hfresh, if_pos rfl, Option.none_or]
    · have hne : m.1 ≠ name := by
        rintro rfl
        exact hfresh (List.mem_map.mpr ⟨_, hmem, rfl⟩)
      rw [ih hnodup hmem, if_neg hne, Option.or_none]

/-! ## Fields -/

/-- The fields of a record that is written as an object. -/
theorem fields?_ofMembers {ms : List (String × Option Json)} (hnames : (ms.map (·.1)).Nodup) :
    (ofMembers ms).fields? (ms.map (·.1)) = some (ms.map (·.2)) := by
  rw [ofMembers_eq, fields?, List.map_map]
  congr 1
  apply List.map_congr_left
  intro m hm
  exact member?_present hnames hm

/-- Whether values are read the way they are written. None of them is written as null. -/
structure ReadsBack (read : Json → Option α) (write : α → Json) : Prop where
  read_write (a : α) : read (write a) = some a
  write_ne_null (a : α) : write a ≠ .null

theorem mapM_map_eq_some {read : β → Option α} {write : α → β}
    (h : ∀ a, read (write a) = some a) (as : List α) : (as.map write).mapM read = some as := by
  induction as with
  | nil => rfl
  | cons a as ih => simp [h a, ih]

namespace ReadsBack

variable {read : Json → Option α} {write : α → Json}

theorem required (h : ReadsBack read write) (a : α) :
    Json.required read (some (write a)) = some a :=
  h.read_write a

theorem defaulted (h : ReadsBack read write) (default a : α) :
    Json.defaulted read default (some (write a)) = some a :=
  h.read_write a

theorem optional (h : ReadsBack read write) (a : Option α) :
    Json.optional read (a.map write) = some a := by
  cases a with
  | none => rfl
  | some a =>
    have hread := h.read_write a
    have hnull := h.write_ne_null a
    simp only [Option.map_some]
    generalize write a = v at hread hnull
    cases v <;> first | exact absurd rfl hnull | (simp only [Json.optional, hread]; rfl)

theorem list (h : ReadsBack read write) :
    ReadsBack (list? read) fun as => .arr (as.map write) where
  read_write := mapM_map_eq_some h.read_write
  write_ne_null _ := nofun

end ReadsBack

theorem readsBack_str : ReadsBack str? .str := ⟨fun _ => rfl, fun _ => nofun⟩

theorem readsBack_bool : ReadsBack bool? .bool := ⟨fun _ => rfl, fun _ => nofun⟩

theorem readsBack_texts : ReadsBack texts? ofTexts where
  read_write m := by
    have hentries : (m.entries.map fun e => (e.1, str e.2)).mapM
        (fun e => e.2.str?.map fun v => (e.1, v)) = some m.entries := by
      apply mapM_map_eq_some
      intro e
      rfl
    have hlist := SortedMap.ofList_entries m
    simp only [texts?, ofTexts, obj?, Option.bind_eq_bind, Option.bind_some, hentries, hlist]
    rfl
  write_ne_null m := by
    intro h
    cases h

/-! ## Merge patches -/

section Patch

variable {name : String} {v w : Json} {ms : List (String × Json)}

theorem setMember_fresh (hfresh : ∀ m ∈ ms, m.1 ≠ name) :
    setMember name v ms = ms ++ [(name, v)] := by
  induction ms with
  | nil => rfl
  | cons m ms ih =>
    obtain ⟨hm, hms⟩ := List.forall_mem_cons.mp hfresh
    rw [setMember, if_neg hm, ih hms, List.cons_append]

theorem eraseMember_fresh (hfresh : ∀ m ∈ ms, m.1 ≠ name) : eraseMember name ms = ms := by
  unfold eraseMember
  rw [List.filter_eq_self]
  intro m hm
  exact bne_iff_ne.mpr (hfresh m hm)

theorem setMember_last (hfresh : ∀ m ∈ ms, m.1 ≠ name) :
    setMember name v (ms ++ [(name, w)]) = ms ++ [(name, v)] := by
  induction ms with
  | nil => simp [setMember, eraseMember]
  | cons m ms ih =>
    obtain ⟨hm, hms⟩ := List.forall_mem_cons.mp hfresh
    rw [List.cons_append, setMember, if_neg hm, ih hms, List.cons_append]

theorem eraseMember_last (hfresh : ∀ m ∈ ms, m.1 ≠ name) :
    eraseMember name (ms ++ [(name, w)]) = ms := by
  have hlast : eraseMember name [(name, w)] = [] := by simp [eraseMember]
  have happend : eraseMember name (ms ++ [(name, w)]) =
      eraseMember name ms ++ eraseMember name [(name, w)] := List.filter_append ..
  rw [happend, hlast, List.append_nil, eraseMember_fresh hfresh]

/-- A member that is put where it is already changes nothing. -/
theorem setMember_same (hnames : (ms.map (·.1)).Nodup) (hmember : member? name ms = some v) :
    setMember name v ms = ms := by
  induction ms with
  | nil => cases hmember
  | cons m ms ih =>
    obtain ⟨hfresh, hnodup⟩ := List.nodup_cons.mp hnames
    have hrest : ∀ m' ∈ ms, m'.1 ≠ m.1 := by
      intro m' hm' heq
      exact hfresh (List.mem_map.mpr ⟨m', hm', heq⟩)
    rw [member?_cons] at hmember
    by_cases hname : m.1 = name
    · subst hname
      have hnone : member? m.1 ms = none := by
        rw [member?, Option.map_eq_none_iff, List.find?_eq_none]
        intro m' hm'
        exact mt beq_iff_eq.mp (hrest m' (List.mem_reverse.mp hm'))
      rw [hnone, Option.none_or, if_pos rfl] at hmember
      cases hmember
      rw [setMember, if_pos rfl, eraseMember_fresh hrest]
    · rw [if_neg hname, Option.or_none] at hmember
      rw [setMember, if_neg hname, ih hnodup hmember]

theorem mergePatch_obj (ms changes : List (String × Json)) :
    mergePatch (.obj ms) (.obj changes) = .obj (mergeMembers ms changes) := by
  rw [mergePatch]

theorem mergeMembers_nil (ms : List (String × Json)) : mergeMembers ms [] = ms := by
  rw [mergeMembers]

theorem mergeMembers_null (name : String) (ms changes : List (String × Json)) :
    mergeMembers ms ((name, .null) :: changes) = mergeMembers (eraseMember name ms) changes := by
  rw [mergeMembers]

theorem mergeMembers_cons (hv : v ≠ .null) (name : String) (ms changes : List (String × Json)) :
    mergeMembers ms ((name, v) :: changes) =
      mergeMembers (setMember name (mergePatch ((member? name ms).getD .null) v) ms) changes := by
  rw [mergeMembers]
  exact hv

/-- A patch by what a member is already changes nothing. -/
theorem mergeMembers_same (hnames : (ms.map (·.1)).Nodup) (hmember : member? name ms = some v)
    (hmerge : mergePatch v w = v) (hw : w ≠ .null) : mergeMembers ms [(name, w)] = ms := by
  rw [mergeMembers_cons hw, hmember, Option.getD_some, hmerge, setMember_same hnames hmember,
    mergeMembers_nil]

end Patch

end PoolOperator.Json
