import Mathlib.Data.List.Sort
import PoolOperator.SortedMap

/-!
# More about sorted maps

A look-up finds just the entries of a map, and a change of a map is seen under its own key only.
-/

namespace PoolOperator.SortedMap

universe u v

variable {κ : Type u} {α : Type v} [Ord κ] [Std.TransOrd κ] [Std.LawfulEqOrd κ]

omit [Std.TransOrd κ] in
/-- A look-up finds an entry, and every entry is found. -/
theorem get?_eq_some_iff {m : SortedMap κ α} {k : κ} {v : α} :
    m.get? k = some v ↔ (k, v) ∈ m.entries := by
  obtain ⟨es, hsorted⟩ := m
  show (es.find? fun e => compare e.1 k == .eq).map (·.2) = some v ↔ (k, v) ∈ es
  constructor
  · intro h
    obtain ⟨⟨j, w⟩, hfind, rfl⟩ := Option.map_eq_some_iff.mp h
    have hkey : compare j k = .eq := by simpa using List.find?_some hfind
    rw [← Std.LawfulEqOrd.eq_of_compare hkey]
    exact List.mem_of_find?_eq_some hfind
  · intro h
    induction es with
    | nil => cases h
    | cons e es ih =>
      obtain ⟨he, hes⟩ := List.pairwise_cons.mp hsorted
      rcases List.mem_cons.mp h with rfl | h
      · simp
      · have hne : (compare e.1 k == .eq) = false := by
          rw [he (k, v) h]
          rfl
        rw [List.find?_cons, hne]
        exact ih hes h

omit [Std.TransOrd κ] in
theorem mem_keys_iff {m : SortedMap κ α} {k : κ} : k ∈ m.keys ↔ (m.get? k).isSome = true := by
  rw [Option.isSome_iff_exists]
  simp only [get?_eq_some_iff, keys, List.mem_map, Prod.exists, exists_and_right, exists_eq_right]

theorem get?_insert (m : SortedMap κ α) (k j : κ) (v : α) [DecidableEq κ] :
    (m.insert k v).get? j = if j = k then some v else m.get? j := by
  by_cases h : j = k
  · rw [h, if_pos rfl, get?_insert_self]
  · rw [if_neg h, get?_insert_of_ne]
    intro heq
    exact h (Std.LawfulEqOrd.eq_of_compare heq).symm

theorem get?_erase (m : SortedMap κ α) (k j : κ) [DecidableEq κ] :
    (m.erase k).get? j = if j = k then none else m.get? j := by
  by_cases h : j = k
  · rw [h, if_pos rfl, get?_erase_self]
  · rw [if_neg h, get?_erase_of_ne]
    intro heq
    exact h (Std.LawfulEqOrd.eq_of_compare heq).symm

omit [Std.TransOrd κ] in
theorem mem_values_iff {m : SortedMap κ α} {v : α} : v ∈ m.values ↔ ∃ k, m.get? k = some v := by
  simp only [get?_eq_some_iff, values, List.mem_map, Prod.exists, exists_eq_right]

omit [Std.TransOrd κ] in
theorem mem_values_filter {m : SortedMap κ α} {p : κ → α → Bool} {v : α} :
    v ∈ (m.filter p).values ↔ ∃ k, m.get? k = some v ∧ p k v = true := by
  simp only [values, filter, List.mem_map, List.mem_filter]
  constructor
  · rintro ⟨⟨k, w⟩, ⟨hmem, hp⟩, rfl⟩
    exact ⟨k, get?_eq_some_iff.mpr hmem, hp⟩
  · rintro ⟨k, hget, hp⟩
    exact ⟨(k, v), ⟨get?_eq_some_iff.mp hget, hp⟩, rfl⟩

omit [Std.TransOrd κ] [Std.LawfulEqOrd κ] in
theorem exists_mem_of_get? {m : SortedMap κ α} {k : κ} {v : α} (h : m.get? k = some v) :
    ∃ e ∈ m.entries, e.2 = v := by
  obtain ⟨e, he, rfl⟩ := Option.map_eq_some_iff.mp h
  exact ⟨e, List.mem_of_find?_eq_some he, rfl⟩

omit [Std.TransOrd κ] [Std.LawfulEqOrd κ] in
theorem insertEntry_of_lt [Std.OrientedOrd κ] {k : κ} {v : α} {es : List (κ × α)}
    (h : ∀ e ∈ es, compare e.1 k = .lt) : insertEntry k v es = es ++ [(k, v)] := by
  induction es with
  | nil => rfl
  | cons e es ih =>
    obtain ⟨he, hes⟩ := List.forall_mem_cons.mp h
    have hgt : compare k e.1 = .gt := Std.OrientedCmp.gt_of_lt he
    simp only [insertEntry, hgt, ih hes, List.cons_append]

omit [Std.LawfulEqOrd κ] in
/-- Entries that come behind those of a map follow these when they are put into the map. -/
theorem entries_foldl_insert {es : List (κ × α)} : ∀ {m : SortedMap κ α},
    (m.entries ++ es).Pairwise (fun a b => compare a.1 b.1 = .lt) →
      (es.foldl (fun m e => m.insert e.1 e.2) m).entries = m.entries ++ es := by
  induction es with
  | nil =>
    intro m _
    exact (List.append_nil _).symm
  | cons e es ih =>
    intro m h
    have hbehind : ∀ f ∈ m.entries, compare f.1 e.1 = .lt := by
      intro f hf
      exact (List.pairwise_append.mp h).2.2 f hf e (List.mem_cons_self ..)
    have hinsert : (m.insert e.1 e.2).entries = m.entries ++ [e] := insertEntry_of_lt hbehind
    have happend : m.entries ++ e :: es = (m.insert e.1 e.2).entries ++ es := by
      rw [hinsert, List.append_assoc, List.singleton_append]
    rw [happend] at h ⊢
    exact ih h

omit [Std.LawfulEqOrd κ] in
/-- A map is the map of its entries. -/
theorem ofList_entries (m : SortedMap κ α) : ofList m.entries = m := by
  have h : (ofList m.entries).entries = m.entries := entries_foldl_insert (m := ∅) m.sorted
  generalize ofList m.entries = m' at h
  cases m'
  cases h
  rfl

/-- Maps in which look-ups find the same are equal. -/
theorem eq_of_get? {m m' : SortedMap κ α} (h : ∀ k, m.get? k = m'.get? k) : m = m' := by
  have hmem (e : κ × α) : e ∈ m.entries ↔ e ∈ m'.entries := by
    rw [← get?_eq_some_iff, ← get?_eq_some_iff, h]
  have hasymm (a b : κ × α) (hlt : compare a.1 b.1 = .lt) : compare b.1 a.1 ≠ .lt := by
    rw [Std.OrientedCmp.gt_of_lt hlt]
    exact nofun
  have : Std.Irrefl fun a b : κ × α => compare a.1 b.1 = .lt := ⟨fun a h => hasymm a a h h⟩
  have : Std.Antisymm fun a b : κ × α => compare a.1 b.1 = .lt :=
    ⟨fun a b h h' => absurd h' (hasymm a b h)⟩
  have hentries : m.entries = m'.entries := List.Pairwise.eq_of_mem_iff m.sorted m'.sorted hmem
  cases m
  cases m'
  cases hentries
  rfl

/-- Values may be put under different keys in either order. -/
theorem insert_comm [DecidableEq κ] (m : SortedMap κ α) {k j : κ} (h : k ≠ j) (v w : α) :
    (m.insert k v).insert j w = (m.insert j w).insert k v := by
  refine eq_of_get? fun i => ?_
  simp only [get?_insert]
  by_cases hi : i = k
  · rw [if_pos hi, if_pos hi, if_neg fun hj => h (hi.symm.trans hj)]
  · rw [if_neg hi, if_neg hi]

end PoolOperator.SortedMap
