import Mathlib.Data.List.Pairwise
import PoolOperator.Proofs.Artifact.RoundTrip
import PoolOperator.Proofs.Store.Change
import PoolOperator.Reconcile.Aggregate

/-!
# The merge of a namespace

The entries of the valid pools of a namespace that are not on their way out, ordered by name. They
are a function of the stored pools alone: the merge of any listing of the pools gives just these.
-/

namespace PoolOperator

/-! ## Entries and names -/

theorem toOption_eq_some {ε α : Type} {x : Except ε α} {a : α} :
    x.toOption = some a ↔ x = .ok a := by
  cases x with
  | error e => exact ⟨(fun h => nomatch h), (fun h => nomatch h)⟩
  | ok b => simp [Except.toOption]

namespace PoolEntry

theorem name_of_ofPool {p : AddressPool} {e : PoolEntry} (h : ofPool p = .ok e) :
    p.metadata.name = some e.name ∧ e.name.isEmpty = false := by
  unfold ofPool at h
  split at h
  · cases h
  · rename_i name hname
    obtain ⟨hname, hne⟩ := Option.filter_eq_some_iff.mp hname
    split at h
    · cases h
    · split at h
      · cases h
      · cases h
        exact ⟨hname, by simpa using hne⟩

theorem precedes_trans (a b c : PoolEntry) (h₁ : precedes a b = true) (h₂ : precedes b c = true) :
    precedes a c = true := by
  simp only [precedes, decide_eq_true_eq] at h₁ h₂ ⊢
  exact String.le_trans h₁ h₂

theorem precedes_total (a b : PoolEntry) : (precedes a b || precedes b a) = true := by
  simp only [precedes, Bool.or_eq_true, decide_eq_true_eq]
  exact String.le_total a.name b.name

end PoolEntry

/-- Entries in strictly ascending order of their names. -/
def Ordered (es : List PoolEntry) : Prop := es.Pairwise fun a b => a.name < b.name

theorem Ordered.nodup {es : List PoolEntry} (h : Ordered es) : es.Nodup := by
  refine h.imp ?_
  rintro a b hlt rfl
  exact String.lt_irrefl a.name hlt

theorem Ordered.eq_of_name {es : List PoolEntry} (h : Ordered es) {a b : PoolEntry} (ha : a ∈ es)
    (hb : b ∈ es) (hname : a.name = b.name) : a = b := by
  by_contra hne
  have hnames : es.Pairwise fun x y => x.name ≠ y.name := by
    refine h.imp ?_
    intro x y hlt heq
    rw [heq] at hlt
    exact String.lt_irrefl _ hlt
  have : Std.Symm fun x y : PoolEntry => x.name ≠ y.name := ⟨fun _ _ => Ne.symm⟩
  exact hnames.forall ha hb hne hname

/-- Entries in order are known by what they are. -/
theorem Ordered.ext {es fs : List PoolEntry} (hes : Ordered es) (hfs : Ordered fs)
    (h : ∀ e, e ∈ es ↔ e ∈ fs) : es = fs := by
  have hperm : es.Perm fs := (List.perm_ext_iff_of_nodup hes.nodup hfs.nodup).mpr h
  refine List.Perm.eq_of_pairwise ?_ hes hfs hperm
  intro a b _ _ hab hba
  exact absurd (String.lt_trans hab hba) (String.lt_irrefl _)

/-- Ordering by name undoes any other order of the same entries. -/
theorem Ordered.mergeSort_eq {es fs : List PoolEntry} (h : Ordered es) (hperm : fs.Perm es) :
    fs.mergeSort PoolEntry.precedes = es := by
  have hperm' := (List.mergeSort_perm fs PoolEntry.precedes).trans hperm
  have hsorted := List.pairwise_mergeSort PoolEntry.precedes_trans PoolEntry.precedes_total fs
  refine List.Perm.eq_of_pairwise ?_ hsorted ?_ hperm'
  · intro a b ha hb hab hba
    simp only [PoolEntry.precedes, decide_eq_true_eq] at hab hba
    exact h.eq_of_name (hperm'.mem_iff.mp ha) hb (String.le_antisymm hab hba)
  · refine h.imp ?_
    intro a b hlt
    have hle : a.name ≤ b.name :=
      String.not_lt.mp fun hgt => String.lt_irrefl _ (String.lt_trans hlt hgt)
    simpa [PoolEntry.precedes] using hle

/-- The merge of pools is in normal form, so that it is read back as it is. -/
theorem Artifact.normal_ofPools (pools : List AddressPool) :
    (Artifact.ofPools pools).normal = Artifact.ofPools pools := by
  rw [Artifact.normal_eq_self, Artifact.ofPools, Artifact.ofEntries]
  intro e he
  obtain ⟨p, -, hentry⟩ := List.mem_filterMap.mp (List.mem_mergeSort.mp he)
  exact PoolEntry.normal_eq_self.mp (PoolEntry.normal_of_ofPool (toOption_eq_some.mp hentry))

/-! ## The entries of a namespace -/

namespace Store

/-- The pools of a namespace, in the order of their keys. -/
def poolsIn (s : Store) (ns : String) : List AddressPool :=
  (s.pools.filter fun key _ => key.ns == ns).values

/-- The entries of the valid pools of a namespace that are not on their way out. -/
def entries (s : Store) (ns : String) : List PoolEntry :=
  (livePools (s.poolsIn ns)).filterMap fun p => (PoolEntry.ofPool p).toOption

theorem list_pools (s : Store) (ns : String) :
    s.list AddressPool ns = (checkKind AddressPool s).map fun _ => s.poolsIn ns := by
  unfold list
  cases checkKind AddressPool s <;> rfl

theorem mem_poolsIn {s : Store} {ns : String} {p : AddressPool} :
    p ∈ s.poolsIn ns ↔ ∃ name, s.pools.get? ⟨ns, name⟩ = some p := by
  rw [poolsIn, SortedMap.mem_values_filter]
  constructor
  · rintro ⟨⟨ns', name⟩, hget, hns⟩
    obtain rfl : ns' = ns := by simpa using hns
    exact ⟨name, hget⟩
  · rintro ⟨name, hget⟩
    exact ⟨⟨ns, name⟩, hget, by simp⟩

/-- Just the live pools that are valid have an entry. -/
theorem mem_entries {s : Store} {ns : String} {e : PoolEntry} :
    e ∈ s.entries ns ↔ ∃ name p, s.pools.get? ⟨ns, name⟩ = some p ∧ p.isBeingDeleted = false ∧
      PoolEntry.ofPool p = .ok e := by
  simp only [entries, livePools, List.mem_filterMap, List.mem_filter, mem_poolsIn]
  constructor
  · rintro ⟨p, ⟨⟨name, hget⟩, hlive⟩, hentry⟩
    exact ⟨name, p, hget, by simpa using hlive, toOption_eq_some.mp hentry⟩
  · rintro ⟨name, p, hget, hlive, hentry⟩
    exact ⟨p, ⟨⟨name, hget⟩, by simp [hlive]⟩, toOption_eq_some.mpr hentry⟩

/-- The pools of a namespace stand in the order of their names, which all differ. -/
theorem Keyed.pairwise_poolsIn {s : Store} (hs : s.Keyed) (ns : String) :
    (s.poolsIn ns).Pairwise fun p q => p.metadata.name.getD "" < q.metadata.name.getD "" := by
  rw [poolsIn, SortedMap.values, List.pairwise_map]
  refine (s.pools.sorted.filter fun e => e.1.ns == ns).imp_of_mem ?_
  -- a pool is named as its key, and all these keys are of one namespace
  have hname : ∀ {key : ObjectKey} {p : AddressPool},
      (key, p) ∈ s.pools.entries.filter (fun e => e.1.ns == ns) →
      key = ⟨ns, p.metadata.name.getD ""⟩ := by
    rintro ⟨ns', name⟩ p hmem
    obtain ⟨hget, hns⟩ := List.mem_filter.mp hmem
    obtain rfl : ns' = ns := by simpa using hns
    rw [(hs.pools (SortedMap.get?_eq_some_iff.mpr hget)).2]
    rfl
  rintro ⟨key₁, p₁⟩ ⟨key₂, p₂⟩ h₁ h₂ hlt
  obtain rfl := hname h₁
  obtain rfl := hname h₂
  have hcompare : compare ns ns = .eq := Std.ReflCmp.compare_self
  have hlt : (compare ns ns).then (compare (p₁.metadata.name.getD "")
    (p₂.metadata.name.getD "")) = .lt := hlt
  rw [hcompare] at hlt
  exact compareOfLessAndEq_eq_lt.mp hlt

/-- The entries of a namespace stand in the order of their names. -/
theorem Keyed.ordered_entries {s : Store} (hs : s.Keyed) (ns : String) : Ordered (s.entries ns) := by
  rw [Ordered, entries, livePools, List.pairwise_filterMap]
  refine ((hs.pairwise_poolsIn ns).filter _).imp ?_
  intro p q hlt e he f hf
  rw [(PoolEntry.name_of_ofPool (toOption_eq_some.mp he)).1,
    (PoolEntry.name_of_ofPool (toOption_eq_some.mp hf)).1] at hlt
  exact hlt

/-- Whatever order the pools are listed in, their merge is the same. -/
theorem Keyed.ofPools_eq {s : Store} (hs : s.Keyed) {ns : String} {pools : List AddressPool}
    (h : pools.Perm (s.poolsIn ns)) : Artifact.ofPools pools = ⟨s.entries ns⟩ := by
  rw [Artifact.ofPools, Artifact.ofEntries, (hs.ordered_entries ns).mergeSort_eq]
  exact (h.filter _).filterMap _

end Store

end PoolOperator
