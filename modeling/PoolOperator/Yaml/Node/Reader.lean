import PoolOperator.Yaml.Node
import PoolOperator.Yaml.Token.Lexer

/-!
# From tokens to nodes

A text holds one document or none. A value that is not written is an empty scalar.
-/

namespace PoolOperator.Yaml

/-- Tokens that are being put together. -/
structure NodeReader where
  tokens : List Token
  /-- The names of anchors, with the mark each stands for at present. -/
  anchors : List (String × Nat) := []

/-- A step in putting tokens together. -/
abbrev Reading := StateT NodeReader Option

namespace Reading

/-- The next token. -/
def peek : Reading (Option Token) := return (← get).tokens.head?

/-- Passes over a token. -/
def skip : Reading Unit := modify fun s => { s with tokens := s.tokens.drop 1 }

/-- Passes over a token, which must be a certain one. -/
def expect (t : Token) : Reading Unit := do
  if (← peek) = some t then skip else failure

/-- Whether the next token is one of several. -/
def isNext (ts : List Token) : Reading Bool := do
  match ← peek with
  | some t => return ts.contains t
  | none => return false

/-- The mark of an alias, which must have been declared. -/
def findAnchor (name : List Char) : Reading Nat := do
  (← get).anchors.lookup (String.ofList name)

/-- Declares an anchor, anew if its name is taken. Its mark is the number of names so far. -/
def declareAnchor (name : List Char) : Reading Nat := do
  let s ← get
  let name := String.ofList name
  set { s with anchors := (name, s.anchors.length) :: s.anchors.filter (·.1 != name) }
  return s.anchors.length

end Reading

/-- What stands before a value. -/
structure Properties where
  anchor : Option (List Char) := none
  tag : Option TagName := none

/-- Reads an anchor and a tag, in either order. -/
def readProperties : Reading Properties := do
  match ← Reading.peek with
  | some (.anchor name) =>
    Reading.skip
    match ← Reading.peek with
    | some (.tag tag) => do Reading.skip; return ⟨some name, some tag⟩
    | _ => return ⟨some name, none⟩
  | some (.tag tag) =>
    Reading.skip
    match ← Reading.peek with
    | some (.anchor name) => do Reading.skip; return ⟨some name, some tag⟩
    | _ => return ⟨none, some tag⟩
  | _ => return {}

/-- What tags are short for. -/
abbrev TagTable := List (List Char × List Char)

/-- The short forms that need no declaration. -/
def defaultTags : TagTable := [(['!'], ['!']), (['!', '!'], "tag:yaml.org,2002:".toList)]

/-- The full text of a tag; the handle must be known. -/
def TagName.resolve? (table : TagTable) (t : TagName) : Option String :=
  if t.handle.isEmpty then some (String.ofList t.suffix)
  else (table.lookup t.handle).map fun leader => String.ofList (leader ++ t.suffix)

/-- A node with the mark of an anchor. -/
def Node.markedBy (mark : Option Nat) (node : Node) : Node :=
  match mark with
  | some mark => .marked mark node
  | none => node

mutual

/-- Reads a value. Block collections are read only where they may stand, and items without
indentation of their own only behind a key. -/
def readNode (table : TagTable) : (budget : Nat) → (inBlock behindKey : Bool) → Reading Node
  | 0, _, _ => failure
  | budget + 1, inBlock, behindKey => do
    match ← Reading.peek with
    | some (.alias name) =>
      let mark ← Reading.findAnchor name
      Reading.skip
      return .alias mark
    | _ =>
      let properties ← readProperties
      let tag ← properties.tag.mapM fun t => (t.resolve? table : Reading String)
      let mark ← properties.anchor.mapM Reading.declareAnchor
      let node ← readContent table budget inBlock behindKey tag mark.isSome
      return node.markedBy mark

/-- Reads what stands behind the properties of a value. -/
def readContent (table : TagTable) : (budget : Nat) → (inBlock behindKey : Bool) →
    (tag : Option String) → (isMarked : Bool) → Reading Node
  | 0, _, _, _, _ => failure
  | budget + 1, inBlock, behindKey, tag, isMarked => do
    match ← Reading.peek with
    | some (.scalar style text) =>
      Reading.skip
      return .scalar (tag.filter (· != "!")) style (String.ofList text)
    | some .flowSequence =>
      Reading.skip
      return .list tag (← readFlowItems table budget true)
    | some .flowMapping =>
      Reading.skip
      return .record tag (← readFlowMembers table budget true)
    | some t =>
      if t = .blockEntry ∧ behindKey then
        return .list tag (← readBareItems table budget)
      else if t = .blockSequence ∧ inBlock then
        Reading.skip
        return .list tag (← readBlockItems table budget)
      else if t = .blockMapping ∧ inBlock then
        Reading.skip
        return .record tag (← readBlockMembers table budget)
      else if tag.isSome || isMarked then return .empty tag
      else failure
    | none => if tag.isSome || isMarked then return .empty tag else failure

/-- Reads a value, unless one of several tokens shows that it is not written. -/
def readNodeBefore (table : TagTable) : (budget : Nat) → (inBlock behindKey : Bool) →
    (ends : List Token) → Reading Node
  | 0, _, _, _ => failure
  | budget + 1, inBlock, behindKey, ends => do
    if ← Reading.isNext ends then return .empty none
    else readNode table budget inBlock behindKey

/-- Reads the items of a block up to its end. -/
def readBlockItems (table : TagTable) : (budget : Nat) → Reading (List Node)
  | 0 => failure
  | budget + 1 => do
    if ← Reading.isNext [.blockEntry] then
      Reading.skip
      let node ← readNodeBefore table budget true false [.blockEntry, .blockEnd]
      return node :: (← readBlockItems table budget)
    else
      Reading.expect .blockEnd
      return []

/-- Reads items that end with the members around them. -/
def readBareItems (table : TagTable) : (budget : Nat) → Reading (List Node)
  | 0 => failure
  | budget + 1 => do
    if ← Reading.isNext [.blockEntry] then
      Reading.skip
      let node ← readNodeBefore table budget true false [.blockEntry, .key, .value, .blockEnd]
      return node :: (← readBareItems table budget)
    else return []

/-- Reads the members of a block up to its end. A key or a value may be missing. -/
def readBlockMembers (table : TagTable) : (budget : Nat) → Reading (List (Node × Node))
  | 0 => failure
  | budget + 1 => do
    if ← Reading.isNext [.blockEnd] then
      Reading.skip
      return []
    else
      Reading.expect .key
      let key ← readNodeBefore table budget true true [.key, .value, .blockEnd]
      let value ← readBlockValue table budget
      return (key, value) :: (← readBlockMembers table budget)

/-- Reads the value of a member of a block. -/
def readBlockValue (table : TagTable) : (budget : Nat) → Reading Node
  | 0 => failure
  | budget + 1 => do
    if ← Reading.isNext [.value] then
      Reading.skip
      readNodeBefore table budget true true [.key, .value, .blockEnd]
    else return .empty none

/-- Reads the items between brackets, behind the first of them. An item may be a lone member. -/
def readFlowItems (table : TagTable) : (budget : Nat) → (isFirst : Bool) → Reading (List Node)
  | 0, _ => failure
  | budget + 1, isFirst => do
    if ← Reading.isNext [.flowSequenceEnd] then
      Reading.skip
      return []
    else
      if !isFirst then Reading.expect .flowEntry
      if ← Reading.isNext [.flowSequenceEnd] then
        Reading.skip
        return []
      else if ← Reading.isNext [.key] then
        Reading.skip
        let node ← readLoneMember table budget
        return node :: (← readFlowItems table budget false)
      else
        let node ← readNode table budget false false
        return node :: (← readFlowItems table budget false)

/-- Reads a member that is an item of its own. If its key is missing, so is the mark that shows
it. -/
def readLoneMember (table : TagTable) : (budget : Nat) → Reading Node
  | 0 => failure
  | budget + 1 => do
    let key ←
      if ← Reading.isNext [.value, .flowEntry, .flowSequenceEnd] then
        Reading.skip
        pure (.empty none)
      else readNode table budget false false
    let value ←
      if ← Reading.isNext [.value] then
        Reading.skip
        readNodeBefore table budget false false [.flowEntry, .flowSequenceEnd]
      else pure (.empty none)
    return .record none [(key, value)]

/-- Reads the members between braces, behind the first of them. -/
def readFlowMembers (table : TagTable) : (budget : Nat) → (isFirst : Bool) →
    Reading (List (Node × Node))
  | 0, _ => failure
  | budget + 1, isFirst => do
    if ← Reading.isNext [.flowMappingEnd] then
      Reading.skip
      return []
    else
      if !isFirst then Reading.expect .flowEntry
      if ← Reading.isNext [.flowMappingEnd] then
        Reading.skip
        return []
      else if ← Reading.isNext [.key] then
        Reading.skip
        let key ← readNodeBefore table budget false false [.value, .flowEntry, .flowMappingEnd]
        let value ← readFlowValue table budget
        return (key, value) :: (← readFlowMembers table budget false)
      else
        let key ← readNode table budget false false
        return (key, .empty none) :: (← readFlowMembers table budget false)

/-- Reads the value of a member between braces. -/
def readFlowValue (table : TagTable) : (budget : Nat) → Reading Node
  | 0 => failure
  | budget + 1 => do
    if ← Reading.isNext [.value] then
      Reading.skip
      readNodeBefore table budget false false [.flowEntry, .flowMappingEnd]
    else return .empty none

end

/-! ## Documents -/

/-- What the directives before a document declare. -/
structure Directives where
  hasVersion : Bool := false
  table : TagTable := []

/-- Reads the directives before a document: at most one version, which must be known, and at most
one meaning for a handle. -/
def readDirectives? (d : Directives) : List Token → Option (Directives × List Token)
  | .version major minor :: ts =>
    if d.hasVersion || major != 1 || (minor != 1 && minor != 2) then none
    else readDirectives? { d with hasVersion := true } ts
  | .tagHandle handle leader :: ts =>
    if (d.table.lookup handle).isSome then none
    else readDirectives? { d with table := (handle, leader) :: d.table } ts
  | ts => some (d, ts)

/-- Whether a token starts a document that is not bare. -/
def Token.startsDocument : Token → Bool
  | .version .. | .tagHandle .. | .documentStart => true
  | _ => false

/-- The budget for a number of tokens. -/
def budgetFor (ts : List Token) : Nat := 4 * ts.length + 4

/-- Reads the value of a document, and checks that nothing but ends of documents follows. -/
def readRoot? (table : TagTable) (ts : List Token) : Option Node := do
  let (node, s) ← (readNode (table ++ defaultTags) (budgetFor ts) true false).run { tokens := ts }
  if s.tokens.all (· = .documentEnd) then some node else none

/-- The value of the only document in a list of tokens; none if there is no document. -/
def documentOf? (ts : List Token) : Option (Option Node) :=
  match ts with
  | [] => some none
  | t :: _ =>
    if t.startsDocument then do
      let (directives, ts) ← readDirectives? {} ts
      match ts with
      | .documentStart :: ts =>
        if ts.all (· = .documentEnd) then some (some (.empty none))
        else (readRoot? directives.table ts).map some
      | _ => none
    else (readRoot? [] ts).map some

/-- Reads the value of a text. -/
def readText? (text : String) : Option (Option Node) := (tokensOf? text).bind documentOf?

end PoolOperator.Yaml
