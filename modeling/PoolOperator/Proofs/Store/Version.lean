import Mathlib.Algebra.Group.Int.Defs
import Mathlib.Algebra.Group.Nat.Defs
import PoolOperator.Proofs.Store.Change

/-!
# Versions and uids

Both are given by number, from one counter, and never given again. An object that is written again
gets a new version and keeps its uid. So an object that is found in the version in which an object
was found before is this object, whatever has been written and deleted in between; and an object
that is found with a uid that was found before is what the object of this uid has become.
-/

namespace PoolOperator.Store

theorem toString_injective : Function.Injective (toString : Nat → String) := by
  intro a b h
  have hdigits : Nat.toDigits 10 a = Nat.toDigits 10 b := by
    rw [← String.ofList_inj]
    exact h
  calc a = Nat.ofDigitChars 10 (Nat.toDigits 10 a) 0 := Nat.ofDigitChars_ten_toDigits.symm
    _ = Nat.ofDigitChars 10 (Nat.toDigits 10 b) 0 := by rw [hdigits]
    _ = b := Nat.ofDigitChars_ten_toDigits

theorem uid_injective : Function.Injective fun n : Nat => s!"uid-{n}" := by
  intro a b h
  have hlist : ("uid-" ++ toString a).toList = ("uid-" ++ toString b).toList :=
    congrArg String.toList h
  rw [String.toList_append, String.toList_append] at hlist
  exact toString_injective (String.toList_inj.mp (List.append_cancel_left hlist))

/-! ## Marks -/

/-- A mark that a store gives its objects by number. What is written again has a new mark, or keeps
the mark together with something else. -/
structure Mark where
  read : ObjectMeta → Option String
  text : Nat → String
  text_injective : Function.Injective text
  Keeps : AnyObject → AnyObject → Prop
  refl (x : AnyObject) : Keeps x x
  trans {x y z : AnyObject} (h : Keeps x y) (h' : Keeps y z) : Keeps x z
  read_eq {x y : AnyObject} (h : Keeps x y) : read x.metadata = read y.metadata

/-- What keeps its version keeps everything. -/
def Mark.version : Mark where
  read := ObjectMeta.resourceVersion
  text := toString
  text_injective := toString_injective
  Keeps := Eq
  refl := Eq.refl
  trans := Eq.trans
  read_eq h := by rw [h]

/-- What keeps its uid need not keep anything else. -/
def Mark.uid : Mark where
  read := ObjectMeta.uid
  text n := s!"uid-{n}"
  text_injective := uid_injective
  Keeps x y := x.metadata.uid = y.metadata.uid
  refl _ := rfl
  trans := Eq.trans
  read_eq := id

/-- Whether an object that is put at a place gets a new mark or keeps the one that was there. -/
def Mark.IsGiven (m : Mark) : Prop := ∀ {s s' : Store} {place : Place} {x : AnyObject},
  s.Puts place x s' → s.Origin place x → m.read x.metadata = some (m.text s.nextVersion) ∨
    ∃ y, s.at? place = some y ∧ m.Keeps y x

theorem Mark.isGiven_version : Mark.version.IsGiven := fun hput _ => .inl hput.version

theorem Mark.isGiven_uid : Mark.uid.IsGiven := by
  intro s s' place x _ horigin
  cases horigin with
  | new _ huid _ => exact .inl huid
  | stored hstored huid _ => exact .inr ⟨_, hstored, huid.symm⟩

/-! ## Old and new marks -/

section Since

variable {m : Mark} {s s' s'' : Store} {place place' : Place} {x y : AnyObject}

/-- Whether all objects that have not kept a mark have one given since. -/
structure Since (m : Mark) (s s' : Store) : Prop where
  next : s.nextVersion ≤ s'.nextVersion
  object {place : Place} {y : AnyObject} (h : s'.at? place = some y) :
    (∃ x, s.at? place = some x ∧ m.Keeps x y) ∨
      ∃ n, s.nextVersion ≤ n ∧ n < s'.nextVersion ∧ m.read y.metadata = some (m.text n)

theorem Since.refl (m : Mark) (s : Store) : Since m s s :=
  ⟨Nat.le_refl _, fun h => .inl ⟨_, h, m.refl _⟩⟩

theorem Since.trans (h : Since m s s') (h' : Since m s' s'') : Since m s s'' := by
  refine ⟨Nat.le_trans h.next h'.next, ?_⟩
  intro place z hz
  have hfirst := h.next
  have hsecond := h'.next
  rcases h'.object hz with ⟨y, hy, hkeeps⟩ | ⟨n, hleast, hless, hn⟩
  · rcases h.object hy with ⟨x, hx, hkeeps'⟩ | ⟨n, hleast, hless, hn⟩
    · exact .inl ⟨x, hx, m.trans hkeeps' hkeeps⟩
    · exact .inr ⟨n, hleast, by omega, (m.read_eq hkeeps).symm.trans hn⟩
  · exact .inr ⟨n, by omega, hless, hn⟩

theorem Change.since (hm : m.IsGiven) (h : Change s s') : Since m s s' := by
  rcases h.cases with ⟨place, x, hput, horigin⟩ | ⟨hkept, hnext⟩
  · have hnext := hput.next
    refine ⟨by omega, ?_⟩
    intro place y hy
    rw [hput.at?] at hy
    split at hy
    · rename_i heq
      cases hy
      rw [heq]
      exact (hm hput horigin).elim (fun hn => .inr ⟨s.nextVersion, Nat.le_refl _, by omega, hn⟩)
        .inl
    · exact .inl ⟨y, hy, m.refl y⟩
  · exact ⟨by omega, fun hy => .inl ⟨_, hkept _ _ hy, m.refl _⟩⟩

theorem Changes.since (hm : m.IsGiven) (h : Changes s s') : Since m s s' := by
  induction h with
  | refl => exact Since.refl m s
  | tail _ hchange ih => exact ih.trans (hchange.since hm)

/-- Whether all objects have marks that have been given, and no two have the same one. -/
structure Distinct (m : Mark) (s : Store) : Prop where
  given {place : Place} {x : AnyObject} (h : s.at? place = some x) :
    ∃ n, n < s.nextVersion ∧ m.read x.metadata = some (m.text n)
  place_eq {place place' : Place} {x y : AnyObject} (hx : s.at? place = some x)
    (hy : s.at? place' = some y) (h : m.read x.metadata = m.read y.metadata) : place = place'

theorem at?_empty (place : Place) : ({} : Store).at? place = none := by
  obtain ⟨kind, key⟩ := place
  cases kind <;> rfl

theorem distinct_empty (m : Mark) : Distinct m {} := by
  constructor
  · intro place x hx
    rw [at?_empty] at hx
    cases hx
  · intro place place' x y hx
    rw [at?_empty] at hx
    cases hx

theorem Distinct.change (hs : Distinct m s) (hm : m.IsGiven) (h : Change s s') :
    Distinct m s' := by
  rcases h.cases with ⟨place, z, hput, horigin⟩ | ⟨hkept, hnext⟩
  · have hnext := hput.next
    have hmark := hm hput horigin
    -- the mark of the object that has been put is new, or was at its place before
    have hother {place' : Place} {y : AnyObject} (hne : place' ≠ place)
        (hy : s.at? place' = some y) : m.read z.metadata ≠ m.read y.metadata := by
      intro heq
      rcases hmark with hnew | ⟨stored, hstored, hkeeps⟩
      · obtain ⟨n, hless, hn⟩ := hs.given hy
        rw [hnew, hn, Option.some.injEq] at heq
        have := m.text_injective heq
        omega
      · exact hne (hs.place_eq hstored hy ((m.read_eq hkeeps).trans heq)).symm
    constructor
    · intro place' y hy
      rw [hput.at?] at hy
      split at hy
      · cases hy
        rcases hmark with hnew | ⟨stored, hstored, hkeeps⟩
        · exact ⟨s.nextVersion, by omega, hnew⟩
        · obtain ⟨n, hless, hn⟩ := hs.given hstored
          exact ⟨n, by omega, (m.read_eq hkeeps).symm.trans hn⟩
      · obtain ⟨n, hless, hn⟩ := hs.given hy
        exact ⟨n, by omega, hn⟩
    · intro place₁ place₂ x y hx hy heq
      rw [hput.at?] at hx hy
      split at hx
      · rename_i hplace₁
        cases hx
        split at hy
        · rename_i hplace₂
          exact hplace₁.trans hplace₂.symm
        · rename_i hne
          exact absurd heq (hother hne hy)
      · rename_i hne
        split at hy
        · cases hy
          exact absurd heq.symm (hother hne hx)
        · exact hs.place_eq hx hy heq
  · refine ⟨fun hx => ?_, fun hx hy => hs.place_eq (hkept _ _ hx) (hkept _ _ hy)⟩
    rw [hnext]
    exact hs.given (hkept _ _ hx)

theorem Reachable.distinct (hm : m.IsGiven) (hs : s.Reachable) : Distinct m s := by
  obtain ⟨es, rfl⟩ := hs
  have hrun {s' : Store} (h : Changes {} s') : Distinct m s' := by
    induction h with
    | refl => exact distinct_empty m
    | tail _ hchange ih => exact ih.change hm hchange
  exact hrun (changes_edits es keyed_empty)

theorem Distinct.lt (hs : Distinct m s) (hx : s.at? place = some x) {n : Nat}
    (h : m.read x.metadata = some (m.text n)) : n < s.nextVersion := by
  obtain ⟨n', hless, hn'⟩ := hs.given hx
  rw [h, Option.some.injEq] at hn'
  rw [m.text_injective hn']
  exact hless

/-- An object with a mark that was found before is at the same place, and has kept what it keeps
together with the mark. -/
theorem Distinct.keeps (hs : Distinct m s) (h : Since m s s') (hx : s.at? place = some x)
    (hy : s'.at? place' = some y) (hmark : m.read x.metadata = m.read y.metadata) :
    place = place' ∧ m.Keeps x y := by
  rcases h.object hy with ⟨x', hx', hkeeps⟩ | ⟨n, hleast, _, hn⟩
  · have hplace := hs.place_eq hx hx' (hmark.trans (m.read_eq hkeeps).symm)
    rw [hplace, hx'] at hx
    cases hx
    exact ⟨hplace, hkeeps⟩
  · exact absurd (hs.lt hx (hmark.trans hn)) (Nat.not_lt.mpr hleast)

/-- What has a mark at the end that was found at the start has had it all the time. -/
theorem Distinct.keeps_between (hs : Distinct m s) (h : Since m s s') (h' : Since m s' s'')
    (hx : s.at? place = some x) (hy : s''.at? place' = some y)
    (hmark : m.read x.metadata = m.read y.metadata) :
    ∃ z, s'.at? place = some z ∧ m.Keeps x z := by
  rcases h'.object hy with ⟨z, hz, hkeeps⟩ | ⟨n, hleast, _, hn⟩
  · obtain ⟨rfl, hkeeps'⟩ := hs.keeps h hx hz (hmark.trans (m.read_eq hkeeps).symm)
    exact ⟨z, hz, hkeeps'⟩
  · have hless := hs.lt hx (hmark.trans hn)
    have hnext := h.next
    omega

end Since

/-! ## Generations -/

/-- Whether all objects have generations, and none has been written more often than anything has. -/
structure Counted (s : Store) : Prop where
  next : 0 < s.nextVersion
  object {place : Place} {x : AnyObject} (h : s.at? place = some x) :
    ∃ g, x.metadata.generation = some g ∧
      (s.nextVersion ≤ 2 ^ 63 → 0 < g.toInt ∧ g.toInt < s.nextVersion)

theorem toInt_add_one {g : Int64} (hpos : 0 < g.toInt) (hless : g.toInt + 1 < 2 ^ 63) :
    (g + 1).toInt = g.toInt + 1 := by
  rw [Int64.toInt_add, Int64.toInt_one]
  exact Int.bmod_eq_of_le (by omega) (by omega)

theorem Counted.change {s s' : Store} (hs : s.Counted) (h : Change s s') : s'.Counted := by
  rcases h.cases with ⟨place, x, hput, horigin⟩ | ⟨hkept, hnext⟩
  · have hnext := hput.next
    have hpos := hs.next
    have hx : ∃ g, x.metadata.generation = some g ∧
        (s'.nextVersion ≤ 2 ^ 63 → 0 < g.toInt ∧ g.toInt < s'.nextVersion) := by
      cases horigin with
      | new _ _ hgeneration => exact ⟨1, hgeneration, fun _ => by rw [Int64.toInt_one]; omega⟩
      | stored hstored _ hgeneration =>
        obtain ⟨g, hg, hbound⟩ := hs.object hstored
        rcases hgeneration with hsame | hcounted
        · refine ⟨g, hsame.trans hg, fun hless => ?_⟩
          have := hbound (by omega)
          omega
        · rw [hg] at hcounted
          refine ⟨g + 1, hcounted, fun hless => ?_⟩
          have := hbound (by omega)
          rw [toInt_add_one this.1 (by omega)]
          omega
    refine ⟨by omega, fun {place' y} hy => ?_⟩
    rw [hput.at?] at hy
    split at hy
    · cases hy
      exact hx
    · obtain ⟨g, hg, hbound⟩ := hs.object hy
      exact ⟨g, hg, fun hless => by have := hbound (by omega); omega⟩
  · refine ⟨hnext ▸ hs.next, fun hy => ?_⟩
    rw [hnext]
    exact hs.object (hkept _ _ hy)

theorem Reachable.counted {s : Store} (hs : s.Reachable) : s.Counted := by
  obtain ⟨es, rfl⟩ := hs
  have hrun {s' : Store} (h : Changes {} s') : s'.Counted := by
    induction h with
    | refl =>
      refine ⟨Nat.one_pos, fun hx => ?_⟩
      rw [at?_empty] at hx
      cases hx
    | tail _ hchange ih => exact ih.change hchange
  exact hrun (changes_edits es keyed_empty)

/-! ## Objects of one kind -/

section Placed

variable {α : Type} [Stored α] [Placed α] {s s' : Store} {key : ObjectKey} {x y : α}

/-- Every object of a reachable store has a version that has been given. -/
theorem Reachable.version (hs : s.Reachable) (hx : (Stored.objects s).get? key = some x) :
    ∃ v, v < s.nextVersion ∧ (Stored.metadata x).resourceVersion = some (toString v) := by
  rw [← Placed.metadata_ofStored]
  exact (hs.distinct Mark.isGiven_version).given (at?_eq_some.mpr hx)

/-- **A version stands for one object.** What is found in the version in which it was found before
is unaltered. -/
theorem Reachable.eq_of_version_eq (hs : s.Reachable) (h : Changes s s')
    (hx : (Stored.objects s).get? key = some x) (hy : (Stored.objects s').get? key = some y)
    (hversion : (Stored.metadata y).resourceVersion = (Stored.metadata x).resourceVersion) :
    y = x := by
  rw [← Placed.metadata_ofStored, ← Placed.metadata_ofStored] at hversion
  obtain ⟨-, heq⟩ := (hs.distinct Mark.isGiven_version).keeps
    (h.since Mark.isGiven_version) (at?_eq_some.mpr hx) (at?_eq_some.mpr hy) hversion.symm
  exact (Placed.ofStored_injective heq).symm

/-- An object that is found again has been there all the time. -/
theorem Reachable.eq_between {s'' : Store} (hs : s.Reachable) (h : Changes s s')
    (h' : Changes s' s'') (hx : (Stored.objects s).get? key = some x)
    (hx'' : (Stored.objects s'').get? key = some x) : (Stored.objects s').get? key = some x := by
  obtain ⟨y, hy, heq⟩ := (hs.distinct Mark.isGiven_version).keeps_between
    (h.since Mark.isGiven_version) (h'.since Mark.isGiven_version) (at?_eq_some.mpr hx)
    (at?_eq_some.mpr hx'') rfl
  have heq : Placed.ofStored x = y := heq
  rw [← heq] at hy
  exact at?_eq_some.mp hy

end Placed

/-! ## Reachable stores -/

theorem Reachable.edit {s : Store} (hs : s.Reachable) (e : StoreEdit) : (s.edit e).Reachable :=
  hs.edits [e]

theorem Reachable.answer {s : Store} (hs : s.Reachable) (call : StoreCall) :
    (s.answer call).2.Reachable := hs.edit (.call call)

end PoolOperator.Store
