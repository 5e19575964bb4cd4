import PoolOperator.Yaml.Node.Reader

/-!
# Typed values from nodes

How texts, truth values, lists and records are read from nodes. Any scalar is a text. A value that
is not written is an empty list and a record without members. Aliases are followed, but not more
often than a document of its size needs.
-/

namespace PoolOperator.Yaml

/-- What aliases of a document stand for, and how often they may be followed. -/
structure Document where
  /-- The marked nodes, last first. -/
  marks : List (Nat × Node)
  maxFollowed : Nat
deriving Inhabited

/-- The document of a node. -/
def Document.ofNode (root : Node) : Document := ⟨root.marks.reverse, 100 * root.size⟩

/-- A step in reading values; it counts the aliases that have been followed. -/
abbrev Following := StateT Nat Option

namespace Document

/-- The node itself, or the one that an alias stands for. -/
def resolve (d : Document) (node : Node) : Following Node := do
  match node.bare with
  | .alias mark =>
    let followed := (← get) + 1
    if d.maxFollowed < followed then failure
    set followed
    d.marks.lookup mark
  | node => return node

/-- A text. -/
def text (d : Document) (node : Node) : Following String := do
  match ← d.resolve node with
  | .scalar _ _ s => return s
  | _ => failure

/-- The items of a list. -/
def items (d : Document) (node : Node) : Following (List Node) := do
  match ← d.resolve node with
  | .list _ items => return items
  | .scalar _ .plain "" => return []
  | _ => failure

/-- The members of a record. -/
def members (d : Document) (node : Node) : Following (List (Node × Node)) := do
  match ← d.resolve node with
  | .record _ members => return members
  | .scalar _ .plain "" => return []
  | _ => failure

/-- The values of the known fields among members. Keys are texts; none of the known ones may come
twice, and values of the others are not looked at. -/
def fields (d : Document) (known : List String) (seen : List (String × Node)) :
    List (Node × Node) → Following (List (String × Node))
  | [] => return seen
  | (key, value) :: rest => do
    let name ← d.text key
    if known.contains name then
      if (seen.lookup name).isSome then failure
      else d.fields known ((name, value) :: seen) rest
    else d.fields known seen rest

/-- The tag of null, and that of truth values. -/
def nullTag : String := "tag:yaml.org,2002:null"

@[inherit_doc nullTag] def boolTag : String := "tag:yaml.org,2002:bool"

/-- Whether a scalar says that a value is absent; nothing if it claims so without being null. -/
def isAbsent? (tag : Option String) (style : Style) (s : String) : Option Bool :=
  if style ≠ .plain then some false
  else
    match tag with
    | some tag =>
      if tag = nullTag then (if nullWords.contains s then some true else none) else some false
    | none => some (s.isEmpty || nullWords.contains s)

/-- A truth value that may be absent. -/
def bool? (d : Document) (node : Node) : Following (Option Bool) := do
  match ← d.resolve node with
  | .scalar tag style s =>
    if ← isAbsent? tag style s then return none
    else if style = .plain ∨ (style = .literal ∧ tag = some boolTag) then
      return some (← boolOfWord? s)
    else failure
  | _ => failure

/-- One of several words: a text, or a tag of its own on a value that is null. -/
def word (d : Document) (node : Node) : Following String := do
  match ← d.resolve node with
  | .scalar tag style s =>
    match tag.map String.toList with
    | some ('!' :: name) =>
      if style = .plain ∧ (s.isEmpty ∨ nullWords.contains s) then return String.ofList name
      else failure
    | _ => return s
  | _ => failure

end Document

end PoolOperator.Yaml
