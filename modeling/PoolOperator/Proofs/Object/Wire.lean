import PoolOperator.Object.Wire
import PoolOperator.Proofs.Json

/-!
# Objects that are read back

What objects of each kind are written as is read back as the same objects. Metadata, specification
and status are read from the places where they are written.
-/

namespace PoolOperator

open Json (ReadsBack present readsBack_str readsBack_bool readsBack_texts)

/-! ## Parts of objects -/

theorem Timestamp.readsBack :
    ReadsBack (fun t => t.str?.bind Timestamp.parse?) fun t : Timestamp => .str t.text where
  read_write t := by
    show Timestamp.parse? t.text = some t
    rw [Timestamp.parse?, dif_pos t.valid]
  write_ne_null _ := nofun

theorem Json.int64?_toInt (n : Int64) : int64? (.int n.toInt) = some n.toInt := by
  have hleast : -0x8000000000000000 ≤ n.toInt := n.le_toInt
  have hgreatest : n.toInt < 0x8000000000000000 := n.toInt_lt
  show (if _ then some n.toInt else none) = some n.toInt
  rw [if_pos ⟨hleast, hgreatest⟩]

theorem Json.optional_int64 (n : Option Int64) :
    (optional int64? (n.map fun n => .int n.toInt)).map (·.map Int64.ofInt) = some n := by
  cases n with
  | none => rfl
  | some n =>
    show ((int64? (.int n.toInt)).map some).map (·.map Int64.ofInt) = some (some n)
    rw [int64?_toInt]
    exact congrArg (some <| some ·) n.ofInt_toInt

theorem ObjectMeta.readsBack : ReadsBack ObjectMeta.ofJson? ObjectMeta.toJson where
  read_write md := by
    simp only [toJson, Json.ofMembers_eq, ofJson?, Json.obj?, Option.bind_eq_bind,
      Option.bind_some, Json.member?_present_cons, Json.present_nil, Json.member?_nil,
      String.reduceEq, if_true, if_false, Option.none_or, Option.or_none, readsBack_str.optional,
      readsBack_texts.optional, Timestamp.readsBack.optional, Json.optional_int64]
    rfl
  write_ne_null _ := nofun

theorem Condition.readsBack : ReadsBack Condition.ofJson? Condition.toJson where
  read_write c := by
    have hfields : c.toJson.fields? ["type", "status", "reason", "message", "lastTransitionTime"] =
        some [some (.str c.type), some (.str c.status.word), some (.str c.reason),
          some (.str c.message), c.lastTransitionTime.map .str] :=
      Json.fields?_ofMembers (by simp)
    have hword : Json.required Json.word? (some (.str c.status.word)) = some c.status.word := rfl
    have hstatus : ConditionStatus.ofWord? c.status.word = some c.status :=
      ConditionStatus.ofWord?_eq_some.mpr rfl
    simp only [ofJson?, hfields, Option.bind_eq_bind, Option.bind_some, readsBack_str.required,
      hword, hstatus, readsBack_str.defaulted, readsBack_str.optional]
    rfl
  write_ne_null _ := nofun

theorem Status.readsBack : ReadsBack Status.ofJson? Status.toJson where
  read_write s := by
    have hfields : s.toJson.fields? ["conditions"] =
        some [some (.arr (s.conditions.map Condition.toJson))] := rfl
    simp only [ofJson?, hfields, Option.bind_eq_bind, Option.bind_some,
      Condition.readsBack.list.defaulted]
    rfl
  write_ne_null _ := nofun

theorem PoolSpec.readsBack : ReadsBack PoolSpec.ofJson? PoolSpec.toJson where
  read_write s := by
    have hfields : s.toJson.fields? ["protocol", "addresses", "autoAssign"] =
        some [some (.str s.protocol), some (.arr (s.addresses.map .str)),
          s.autoAssign.map .bool] :=
      Json.fields?_ofMembers (by simp)
    simp only [ofJson?, hfields, Option.bind_eq_bind, Option.bind_some, readsBack_str.required,
      readsBack_str.list.defaulted, readsBack_bool.optional]
    rfl
  write_ne_null _ := nofun

theorem InstanceSpec.readsBack : ReadsBack InstanceSpec.ofJson? InstanceSpec.toJson where
  read_write s := by
    have hfields : s.toJson.fields?
        ["logLevel", "speakerNodeSelector", "controllerNodeSelector"] =
          some [s.logLevel.map .str, s.speakerNodeSelector.map .ofTexts,
            s.controllerNodeSelector.map .ofTexts] :=
      Json.fields?_ofMembers (by simp)
    simp only [ofJson?, hfields, Option.bind_eq_bind, Option.bind_some, readsBack_str.optional,
      readsBack_texts.optional]
    rfl
  write_ne_null _ := nofun

/-! ## Objects -/

/-- The members of a pool or an instance that are there whatever its status is. -/
def rootMembers (apiVersion kind : String) (md spec : Json) : List (String × Json) :=
  [("apiVersion", .str apiVersion), ("kind", .str kind), ("metadata", md), ("spec", spec)]

/-- The member for a status, if there is one. -/
def statusMember (status : Option Status) : List (String × Json) :=
  (status.map fun s => ("status", s.toJson)).toList

/-- A pool or an instance in JSON. -/
def rootJson (apiVersion kind : String) (md : ObjectMeta) (spec : Json)
    (status : Option Status) : Json :=
  .obj (rootMembers apiVersion kind md.toJson spec ++ statusMember status)

theorem rootJson_eq (apiVersion kind : String) (md : ObjectMeta) (spec : Json)
    (status : Option Status) : rootJson apiVersion kind md spec status =
      .ofMembers [("apiVersion", some (.str apiVersion)), ("kind", some (.str kind)),
        ("metadata", some md.toJson), ("spec", some spec),
        ("status", status.map Status.toJson)] := by
  cases status <;> rfl

theorem AddressPool.toJson_eq (p : AddressPool) : p.toJson =
    rootJson "metallb.io/v1alpha1" "AddressPool" p.metadata p.spec.toJson p.status :=
  (rootJson_eq ..).symm

theorem Instance.toJson_eq (i : Instance) : i.toJson =
    rootJson "metallb.io/v1beta1" "MetalLB" i.metadata i.spec.toJson i.status :=
  (rootJson_eq ..).symm

theorem rootFields?_rootJson (apiVersion kind : String) (md : ObjectMeta) (spec : Json)
    (status : Option Status) :
    rootFields? (rootJson apiVersion kind md spec status) =
      some (some md.toJson, some spec, status.map Status.toJson) := by
  cases status <;> rfl

theorem AddressPool.readsBack : ReadsBack AddressPool.ofJson? AddressPool.toJson where
  read_write p := by
    rw [toJson_eq, ofJson?, rootFields?_rootJson]
    simp only [Option.bind_eq_bind, Option.bind_some, ObjectMeta.readsBack.required,
      PoolSpec.readsBack.required, Status.readsBack.optional]
    rfl
  write_ne_null _ := nofun

theorem Instance.readsBack : ReadsBack Instance.ofJson? Instance.toJson where
  read_write i := by
    rw [toJson_eq, ofJson?, rootFields?_rootJson]
    simp only [Option.bind_eq_bind, Option.bind_some, ObjectMeta.readsBack.required,
      InstanceSpec.readsBack.required, Status.readsBack.optional]
    rfl
  write_ne_null _ := nofun

end PoolOperator
