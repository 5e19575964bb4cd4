import PoolOperator.Artifact.Text
import PoolOperator.Proofs.Yaml.Nodes

/-!
# Artifacts are read as they were written

The text of an artifact reads back as the artifact in normal form, whatever its names and addresses
hold. So a text that was written once is not written again.
-/

namespace PoolOperator

open Yaml (Document Following Node nodeOf nodesOf membersOf Style)

/-! ## Typed values -/

section Typed

variable (d : Document) (n : Nat)

theorem mapM_text (texts : List String) :
    (nodesOf (texts.map .str)).mapM d.text n = some (texts, n) := by
  induction texts with
  | nil => rfl
  | cons s texts ih =>
    rw [List.map_cons, nodesOf, List.mapM_cons]
    show ((nodesOf (texts.map .str)).mapM d.text n).bind _ = _
    rw [ih]
    rfl

/-- A step is made with what the step before it has read. -/
theorem bind_eq {α β : Type} {x : Following α} {f : α → Following β} {a : α} {n k : Nat}
    (h : x n = some (a, k)) : (x >>= f) n = f a k := by
  show (x n).bind _ = _
  rw [h]
  rfl

/-- The members of an object with known and different keys are its fields, last first. -/
theorem fields_membersOf {known : List String} {ms : List (String × Json)}
    (hknown : ∀ m ∈ ms, m.1 ∈ known) (hnodup : (ms.map (·.1)).Nodup) :
    ∀ seen : List (String × Node), (∀ m ∈ ms, seen.lookup m.1 = none) →
      d.fields known seen (membersOf ms) n =
        some ((ms.map fun m => (m.1, nodeOf m.2)).reverse ++ seen, n) := by
  induction ms with
  | nil =>
    intro seen _
    rfl
  | cons m ms ih =>
    obtain ⟨name, v⟩ := m
    intro seen hseen
    rw [List.map_cons, List.nodup_cons] at hnodup
    have hcontains : known.contains name = true := by simpa using hknown (name, v) (by simp)
    have hnew : (seen.lookup name).isSome = false := by rw [hseen (name, v) (by simp)]; rfl
    have hrest : ∀ m ∈ ms, ((name, nodeOf v) :: seen).lookup m.1 = none := by
      intro m hm
      have hne : m.1 ≠ name := by
        intro heq
        exact hnodup.1 (List.mem_map.mpr ⟨m, hm, heq⟩)
      rw [List.lookup_cons, beq_false_of_ne hne]
      exact hseen m (List.mem_cons_of_mem _ hm)
    have hread := ih (fun m hm => hknown m (List.mem_cons_of_mem _ hm)) hnodup.2 _ hrest
    rw [membersOf]
    show (if known.contains name = true then
      (if (seen.lookup name).isSome = true then _ else _ : Following _) else _ :
        Following (List (String × Node))) n = _
    rw [hcontains, hnew, if_pos rfl, if_neg Bool.false_ne_true, hread]
    simp

/-- The fields of an object whose keys are known and different. -/
theorem fields_obj {known : List String} {ms : List (String × Json)} {α : Type}
    (hknown : ∀ m ∈ ms, m.1 ∈ known) (hnodup : (ms.map (·.1)).Nodup)
    (f : List (String × Node) → Following α) :
    (do f (← d.fields known [] (← d.members (nodeOf (.obj ms)))) : Following α) n =
      f (ms.map fun m => (m.1, nodeOf m.2)).reverse n := by
  have hfields := fields_membersOf d n hknown hnodup [] (by simp)
  rw [List.append_nil] at hfields
  exact bind_eq hfields

end Typed

/-! ## Entries and artifacts -/

section Entries

variable {d : Document} {n : Nat}

/-- An entry is read as it was written. -/
theorem PoolEntry.ofNode_toJson (e : PoolEntry) :
    PoolEntry.ofNode d (nodeOf e.toJson) n = some (e, n) := by
  obtain ⟨name, protocol, autoAssign, addresses⟩ := e
  cases protocol
  rcases autoAssign with _ | _ | _
  all_goals
    refine (fields_obj d n ?_ ?_ _).trans ?_
    · simp
    · simp
    · show ((nodesOf (addresses.map .str)).mapM d.text n).bind _ = _
      rw [mapM_text]
      rfl

theorem mapM_ofNode (entries : List PoolEntry) :
    (nodesOf (entries.map PoolEntry.toJson)).mapM (PoolEntry.ofNode d) n = some (entries, n) := by
  induction entries with
  | nil => rfl
  | cons e entries ih =>
    rw [List.map_cons, nodesOf, List.mapM_cons, bind_eq (PoolEntry.ofNode_toJson e), bind_eq ih]
    rfl

/-- So is an artifact. -/
theorem Artifact.ofNode_toJson (a : Artifact) :
    Artifact.ofNode d (nodeOf a.toJson) n = some (a, n) := by
  refine (fields_obj d n ?_ ?_ _).trans ?_
  · simp
  · simp
  · show ((nodesOf (a.pools.map PoolEntry.toJson)).mapM (PoolEntry.ofNode d) n).bind _ = _
    rw [mapM_ofNode]
    rfl

end Entries

/-! ## Normal forms -/

@[simp] theorem normalAutoAssign_normalAutoAssign (choice : Option Bool) :
    normalAutoAssign (normalAutoAssign choice) = normalAutoAssign choice := by
  rcases choice with _ | _ | _ <;> rfl

theorem normalAutoAssign_eq_self {choice : Option Bool} :
    normalAutoAssign choice = choice ↔ choice ≠ some true := by
  rcases choice with _ | _ | _ <;> decide

namespace PoolEntry

@[simp] theorem normal_normal (e : PoolEntry) : e.normal.normal = e.normal := by
  simp [normal]

theorem normal_eq_self {e : PoolEntry} : e.normal = e ↔ e.autoAssign ≠ some true := by
  rw [← normalAutoAssign_eq_self]
  constructor
  · intro h
    exact congrArg PoolEntry.autoAssign h
  · intro h
    rw [normal, h]

/-- The entry of a pool is in normal form. -/
theorem normal_of_ofPool {p : AddressPool} {e : PoolEntry} (h : ofPool p = .ok e) :
    e.normal = e := by
  unfold ofPool at h
  split at h
  · cases h
  · split at h
    · cases h
    · split at h
      · cases h
      · cases h
        simp [normal]

end PoolEntry

namespace Artifact

@[simp] theorem normal_normal (a : Artifact) : a.normal.normal = a.normal := by
  simp [normal]

theorem normal_eq_self {a : Artifact} : a.normal = a ↔ ∀ e ∈ a.pools, e.autoAssign ≠ some true := by
  obtain ⟨entries⟩ := a
  have hmap : entries.map PoolEntry.normal = entries ↔ ∀ e ∈ entries, e.normal = e := by
    simpa using List.map_inj_left (f := PoolEntry.normal) (g := id) (l := entries)
  rw [normal, mk.injEq, hmap]
  simp only [PoolEntry.normal_eq_self]

theorem decode_eq_ok {text : String} {a : Artifact} :
    decode text = .ok a ↔ decode? text = some a := by
  unfold decode
  cases decode? text with
  | none => exact ⟨(fun h => nomatch h), (fun h => nomatch h)⟩
  | some b => simp

/-- What is read is in normal form. -/
theorem normal_of_decode? {text : String} {a : Artifact} (h : decode? text = some a) :
    a.normal = a := by
  simp only [decode?, Option.bind_eq_bind, Option.bind_eq_some_iff] at h
  obtain ⟨root, -, h⟩ := h
  cases root with
  | none =>
    cases h
    rfl
  | some root =>
    obtain ⟨b, -, h⟩ := Option.bind_eq_some_iff.mp h
    cases h
    exact normal_normal b

end Artifact

/-! ## Texts -/

/-- The keys of artifacts and entries stand plain. -/
theorem isKey_field {name : String}
    (h : name ∈ ["address-pools", "name", "protocol", "auto-assign", "addresses"]) :
    Yaml.IsKey name := by
  have hall : ∀ name ∈ ["address-pools", "name", "protocol", "auto-assign", "addresses"],
      Style.ofText name.toList = .plain ∧ name.toList.length ≤ Yaml.maxKeyLength := by decide
  obtain ⟨hstyle, hlength⟩ := hall name h
  exact ⟨hstyle, hlength⟩

/-- Every member of an entry is one of its fields; the choice of assignment may be missing. -/
theorem PoolEntry.toJson_eq (e : PoolEntry) :
    ∃ ms, e.toJson = .obj ms ∧ ∀ m ∈ ms, m = ("name", .str e.name) ∨
      m = ("protocol", .str e.protocol.word) ∨ (∃ b, m = ("auto-assign", .bool b)) ∨
      m = ("addresses", .arr (e.addresses.map .str)) := by
  refine ⟨_, rfl, fun m hm => ?_⟩
  obtain ⟨⟨name, value⟩, hfield, hvalue⟩ := List.mem_filterMap.mp hm
  obtain ⟨v, rfl, rfl⟩ := Option.map_eq_some_iff.mp hvalue
  simp only [List.mem_cons, Prod.mk.injEq, Option.some.injEq, List.not_mem_nil, or_false,
    eq_comm (a := some v), Option.map_eq_some_iff] at hfield
  rcases hfield with ⟨rfl, rfl⟩ | ⟨rfl, rfl⟩ | ⟨rfl, b, -, rfl⟩ | ⟨rfl, rfl⟩
  · exact .inl rfl
  · exact .inr (.inl rfl)
  · exact .inr (.inr (.inl ⟨b, rfl⟩))
  · exact .inr (.inr (.inr rfl))

theorem PoolEntry.writable_toJson (e : PoolEntry) : Yaml.Writable e.toJson := by
  obtain ⟨ms, hjson, hms⟩ := e.toJson_eq
  rw [hjson]
  refine .obj (fun m hm => ?_) (fun m hm => ?_)
  · rcases hms m hm with rfl | rfl | ⟨b, rfl⟩ | rfl
    all_goals exact isKey_field (by simp)
  · rcases hms m hm with rfl | rfl | ⟨b, rfl⟩ | rfl
    · exact .str _
    · exact .str _
    · exact .bool b
    · refine .arr fun v hv => ?_
      obtain ⟨s, -, rfl⟩ := List.mem_map.mp hv
      exact .str s

namespace Artifact

theorem writable_toJson (a : Artifact) : Yaml.Writable a.toJson := by
  refine .obj (fun m hm => ?_) (fun m hm => ?_)
  · rw [List.mem_singleton.mp hm]
    exact isKey_field (by simp)
  · rw [List.mem_singleton.mp hm]
    refine .arr fun v hv => ?_
    obtain ⟨e, -, rfl⟩ := List.mem_map.mp hv
    exact e.writable_toJson

theorem decode?_encode (a : Artifact) : decode? (encode a) = some a.normal := by
  have hread : Yaml.readText? (encode a) = some (some (nodeOf a.toJson)) :=
    Yaml.readText?_render a.writable_toJson
  have hnode : (ofNode (.ofNode (nodeOf a.toJson)) (nodeOf a.toJson)).run' 0 = some a := by
    show Option.map _ (ofNode (.ofNode (nodeOf a.toJson)) (nodeOf a.toJson) 0) = _
    rw [ofNode_toJson]
    rfl
  rw [decode?, hread]
  show ((ofNode (.ofNode (nodeOf a.toJson)) (nodeOf a.toJson)).run' 0).bind _ = _
  rw [hnode]
  rfl

/-- An artifact is read as it was written, in normal form. -/
theorem decode_encode (a : Artifact) : decode (encode a) = .ok a.normal := by
  rw [decode, decode?_encode]

theorem isDescribedBy_encode {a : Artifact} :
    a.isDescribedBy (encode a) = true ↔ ∀ e ∈ a.pools, e.autoAssign ≠ some true := by
  rw [isDescribedBy, decode_encode, beq_iff_eq, normal_eq_self]

/-- **Reading undoes writing.** Whatever the names and addresses hold, the text of an artifact is
read as the same entries in the same order, with a choice for assignment forgotten. So a text
describes the artifact it was written for just if no entry makes that choice; entries of pools never
do, and neither does what has been read. -/
theorem reading_undoes_writing :
    (∀ a : Artifact, decode (encode a) = .ok ⟨a.pools.map fun e =>
        { e with autoAssign := if e.autoAssign = some true then none else e.autoAssign }⟩) ∧
      (∀ a : Artifact,
        a.isDescribedBy (encode a) = true ↔ ∀ e ∈ a.pools, e.autoAssign ≠ some true) ∧
      (∀ p e, PoolEntry.ofPool p = .ok e → e.normal = e) ∧
      ∀ text a, decode text = .ok a → decode (encode a) = .ok a := by
  refine ⟨fun a => ?_, fun a => isDescribedBy_encode, fun p e h => PoolEntry.normal_of_ofPool h,
    fun text a h => ?_⟩
  · rw [decode_encode, normal]
    congr
    funext e
    rcases e with ⟨name, protocol, _ | _ | _, addresses⟩ <;> rfl
  · rw [decode_encode, normal_of_decode? (decode_eq_ok.mp h)]

/-- A name that reads like null, and addresses with a quote, a colon and a line feed. -/
theorem reading_undoes_writing_odd_texts :
    decode (encode ⟨[⟨"~", .layer2, some true, ["it's: #", "a\n b "]⟩]⟩) =
        .ok ⟨[⟨"~", .layer2, none, ["it's: #", "a\n b "]⟩]⟩ ∧
      PoolEntry.normal ⟨"no", .layer2, none, []⟩ = ⟨"no", .layer2, none, []⟩ ∧
      decode "" = .ok ⟨[]⟩ ∧ decode (encode ⟨[]⟩) = .ok ⟨[]⟩ := by
  have hpool : PoolEntry.ofPool
      { metadata := { name := some "no" }, spec := { protocol := "layer2" } } =
        .ok ⟨"no", .layer2, none, []⟩ := by decide
  have htext : decode "" = .ok ⟨[]⟩ := rfl
  exact ⟨reading_undoes_writing.1 _, reading_undoes_writing.2.2.1 _ _ hpool, htext,
    reading_undoes_writing.2.2.2 _ _ htext⟩

end Artifact

end PoolOperator
