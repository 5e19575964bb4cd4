/-!
# Sorted maps

Finite maps whose entries are kept in the order of their keys, each key once. Two maps with the
same entries are equal, so equality of stored objects is equality of values, and a listing has one
order. The view of a map is `get?`: every operation is described by what it does to it.
-/

namespace PoolOperator

universe u v

/-- Entries in strictly ascending order of their keys. -/
structure SortedMap (κ : Type u) (α : Type v) [Ord κ] where
  entries : List (κ × α)
  sorted : entries.Pairwise fun a b => compare a.1 b.1 = .lt
deriving DecidableEq

namespace SortedMap

variable {κ : Type u} {α : Type v} [Ord κ]

/-- The map without entries. -/
def empty : SortedMap κ α := ⟨[], .nil⟩

instance : EmptyCollection (SortedMap κ α) := ⟨empty⟩

instance : Inhabited (SortedMap κ α) := ⟨empty⟩

/-- The value of a key. -/
def get? (m : SortedMap κ α) (k : κ) : Option α :=
  (m.entries.find? fun e => compare e.1 k == .eq).map (·.2)

/-- Whether a key has a value. -/
def contains (m : SortedMap κ α) (k : κ) : Bool := (m.get? k).isSome

/-- The keys in ascending order. -/
def keys (m : SortedMap κ α) : List κ := m.entries.map (·.1)

/-- The values in the order of their keys. -/
def values (m : SortedMap κ α) : List α := m.entries.map (·.2)

/-- Whether there is no entry. -/
def isEmpty (m : SortedMap κ α) : Bool := m.entries.isEmpty

/-- Puts an entry at its place, replacing the one of the same key. -/
def insertEntry (k : κ) (v : α) : List (κ × α) → List (κ × α)
  | [] => [(k, v)]
  | e :: es =>
    match compare k e.1 with
    | .lt => (k, v) :: e :: es
    | .eq => (k, v) :: es
    | .gt => e :: insertEntry k v es

theorem mem_insertEntry {k : κ} {v : α} {es : List (κ × α)} {e : κ × α}
    (h : e ∈ insertEntry k v es) : e = (k, v) ∨ e ∈ es := by
  induction es with
  | nil => simpa [insertEntry] using h
  | cons f es ih =>
    simp only [insertEntry] at h
    split at h
    · simpa using h
    · simp only [List.mem_cons] at h ⊢
      exact h.imp_right .inr
    · simp only [List.mem_cons] at h ⊢
      rcases h with h | h
      · exact .inr (.inl h)
      · exact (ih h).imp_right .inr

theorem pairwise_insertEntry [Std.TransOrd κ] {k : κ} {v : α} {es : List (κ × α)}
    (h : es.Pairwise fun a b => compare a.1 b.1 = .lt) :
    (insertEntry k v es).Pairwise fun a b => compare a.1 b.1 = .lt := by
  induction es with
  | nil => simp [insertEntry]
  | cons e es ih =>
    obtain ⟨he, hes⟩ := List.pairwise_cons.1 h
    simp only [insertEntry]
    split
    next hlt =>
      refine List.pairwise_cons.2 ⟨fun x hx => ?_, h⟩
      rcases List.mem_cons.1 hx with rfl | hx
      · exact hlt
      · exact Std.TransCmp.lt_trans hlt (he x hx)
    next heq =>
      exact List.pairwise_cons.2 ⟨fun x hx => Std.TransCmp.lt_of_eq_of_lt heq (he x hx), hes⟩
    next hgt =>
      refine List.pairwise_cons.2 ⟨fun x hx => ?_, ih hes⟩
      rcases mem_insertEntry hx with rfl | hx
      · exact Std.OrientedCmp.lt_of_gt hgt
      · exact he x hx

/-- The map with a value put under a key. -/
def insert [Std.TransOrd κ] (m : SortedMap κ α) (k : κ) (v : α) : SortedMap κ α :=
  ⟨insertEntry k v m.entries, pairwise_insertEntry m.sorted⟩

/-- The map without a key. -/
def erase (m : SortedMap κ α) (k : κ) : SortedMap κ α :=
  ⟨m.entries.filter fun e => compare e.1 k != .eq, m.sorted.sublist (List.filter_sublist ..)⟩

/-- The map with the value of a key, if it has one, replaced by its image. -/
def modify [Std.TransOrd κ] (m : SortedMap κ α) (k : κ) (f : α → α) : SortedMap κ α :=
  match m.get? k with
  | some v => m.insert k (f v)
  | none => m

/-- The map of a list of entries, of which the last one of a key counts. -/
def ofList [Std.TransOrd κ] (es : List (κ × α)) : SortedMap κ α :=
  es.foldl (fun m e => m.insert e.1 e.2) ∅

/-- The entries that satisfy a test. -/
def filter (m : SortedMap κ α) (p : κ → α → Bool) : SortedMap κ α :=
  ⟨m.entries.filter fun e => p e.1 e.2, m.sorted.sublist (List.filter_sublist ..)⟩

@[simp] theorem get?_empty (k : κ) : (∅ : SortedMap κ α).get? k = none := rfl

section View

variable [Std.TransOrd κ]

theorem find?_insertEntry_self {k : κ} {v : α} (es : List (κ × α)) :
    (insertEntry k v es).find? (fun e => compare e.1 k == .eq) = some (k, v) := by
  induction es with
  | nil => simp [insertEntry]
  | cons e es ih =>
    simp only [insertEntry]
    split
    · simp
    · simp
    next hgt =>
      have : compare e.1 k = .lt := Std.OrientedCmp.lt_of_gt hgt
      simp [this, ih]

theorem find?_insertEntry_of_ne {k j : κ} {v : α} (hne : compare k j ≠ .eq)
    (es : List (κ × α)) :
    (insertEntry k v es).find? (fun e => compare e.1 j == .eq) =
      es.find? (fun e => compare e.1 j == .eq) := by
  have hk : (compare k j == .eq) = false := by simpa using hne
  induction es with
  | nil => simp [insertEntry, hk]
  | cons e es ih =>
    simp only [insertEntry]
    split
    · simp [hk]
    next heq =>
      have : (compare e.1 j == .eq) = false := by
        have h : compare e.1 j = compare k j := (Std.TransCmp.congr_left heq).symm
        rw [h]; exact hk
      simp [hk, this]
    · simp [List.find?_cons, ih]

@[simp] theorem get?_insert_self (m : SortedMap κ α) (k : κ) (v : α) :
    (m.insert k v).get? k = some v := by
  simp [get?, insert, find?_insertEntry_self]

theorem get?_insert_of_ne (m : SortedMap κ α) {k j : κ} (h : compare k j ≠ .eq) (v : α) :
    (m.insert k v).get? j = m.get? j := by
  simp [get?, insert, find?_insertEntry_of_ne h]

omit [Std.TransOrd κ] in
@[simp] theorem get?_erase_self (m : SortedMap κ α) (k : κ) : (m.erase k).get? k = none := by
  simp [get?, erase]

theorem get?_erase_of_ne (m : SortedMap κ α) {k j : κ} (h : compare k j ≠ .eq) :
    (m.erase k).get? j = m.get? j := by
  simp only [get?, erase, List.find?_filter]
  congr 1
  congr 1
  funext e
  by_cases he : compare e.1 j = .eq
  · have : compare e.1 k ≠ .eq := fun hk =>
      h (Std.TransCmp.eq_trans (Std.OrientedCmp.eq_symm hk) he)
    simp [he, this]
  · simp [he]

end View

end SortedMap

end PoolOperator
