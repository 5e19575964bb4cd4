import PoolOperator.Json

/-!
# Schemas

Descriptions of the values that a field of an object may hold. The members of a schema are written
in the order of their names.
-/

namespace PoolOperator

/-- A schema, by its members. -/
structure Schema where
  members : SortedMap String Json

namespace Schema

/-- A schema in JSON. -/
def toJson (s : Schema) : Json := .obj s.members.entries

/-- Adds a member. -/
def setting (s : Schema) (name : String) (value : Json) : Schema := ⟨s.members.insert name value⟩

/-- The values of a type. -/
def ofType (type : String) : Schema := ⟨.ofList [("type", .str type)]⟩

/-- Any text. -/
def text : Schema := ofType "string"

/-- A truth value. -/
def flag : Schema := ofType "boolean"

/-- One of some words. -/
def oneOf (words : List String) : Schema := text.setting "enum" (.arr (words.map .str))

/-- A list of values. -/
def listOf (items : Schema) : Schema := (ofType "array").setting "items" items.toJson

/-- Values by names of any kind. -/
def mapOf (values : Schema) : Schema :=
  (ofType "object").setting "additionalProperties" values.toJson

/-- Values by fixed names, some of which must be there. -/
def record (fields : List (String × Schema)) (needed : List String) : Schema :=
  let properties : SortedMap String Json := .ofList (fields.map fun (name, s) => (name, s.toJson))
  let s := (ofType "object").setting "properties" (.obj properties.entries)
  if needed.isEmpty then s
  else s.setting "required" (.arr ((needed.mergeSort fun a b => a ≤ b).map .str))

/-- Says what the values mean. -/
def describe (description : String) (s : Schema) : Schema :=
  s.setting "description" (.str description)

/-- Gives a title. -/
def titled (title : String) (s : Schema) : Schema := s.setting "title" (.str title)

/-- Allows null. -/
def nullable (s : Schema) : Schema := s.setting "nullable" (.bool true)

/-- Says which value an absent one stands for. -/
def withDefault (value : Json) (s : Schema) : Schema := s.setting "default" value

end Schema

end PoolOperator
