import PoolOperator.Json

/-!
# Records in JSON

How typed values are read from JSON. A record is an object with named fields, of which unknown ones
are passed over, or the list of its fields in their order.
-/

namespace PoolOperator.Json

/-- The fields of a record: by name from an object, by place from a list. -/
def fields? (names : List String) : Json → Option (List (Option Json))
  | .obj members => some (names.map fun name => member? name members)
  | .arr items =>
    if items.length ≤ names.length then
      some (items.map some ++ List.replicate (names.length - items.length) none)
    else none
  | _ => none

/-- A field that must be there. -/
def required {α : Type} (read : Json → Option α) (field : Option Json) : Option α :=
  field.bind read

/-- A field that has a value of its own when it is absent; null is no value for it. -/
def defaulted {α : Type} (read : Json → Option α) (default : α) : Option Json → Option α
  | none => some default
  | some v => read v

/-- A field that may be absent or null. -/
def optional {α : Type} (read : Json → Option α) : Option Json → Option (Option α)
  | none => some none
  | some .null => some none
  | some v => (read v).map some

/-- A list of values. -/
def list? {α : Type} (read : Json → Option α) (v : Json) : Option (List α) := do
  let items ← v.arr?
  items.mapM read

/-- A map from texts to texts. -/
def texts? (v : Json) : Option (SortedMap String String) := do
  let members ← v.obj?
  let pairs ← members.mapM fun (k, v) => v.str?.map (k, ·)
  return SortedMap.ofList pairs

/-- An integer of 64 bits. -/
def int64? (v : Json) : Option Int := do
  let n ← v.int?
  if -0x8000000000000000 ≤ n ∧ n < 0x8000000000000000 then some n else none

/-- A word: one of the given texts, bare or as the only member of an object, with value null. -/
def word? (v : Json) : Option String :=
  match v with
  | .str s => some s
  | .obj [(s, .null)] => some s
  | _ => none

end PoolOperator.Json
