import PoolOperator.Api.Response
import PoolOperator.Store.Event

/-!
# Watches over API responses

A watch lists the objects, page by page, and then follows their changes. After a failed list, or a
change that cannot be followed, it lists again; a stream of changes that ends is started again.
-/

namespace PoolOperator.Api

/-! ## Changes -/

/-- One line of a stream of changes. -/
inductive Change (α : Type) where
  | event (e : WatchEvent α)
  | bookmark
  | error (e : ApiError)

/-- Whether a value is a bookmark. -/
def isBookmark (v : Json) : Bool :=
  Option.isSome do
    let _ ← (v.get? "apiVersion").bind Json.str?
    let _ ← (v.get? "kind").bind Json.str?
    let md ← v.get? "metadata"
    let _ ← Json.defaulted Json.texts? ∅ (md.get? "annotations")
    (md.get? "resourceVersion").bind Json.str?

/-- Reads a change. -/
def Change.ofJson? {α : Type} [Wire α] (v : Json) : Option (Change α) := do
  let (word, object) ←
    match v with
    | .obj members => some (Json.member? "type" members, Json.member? "object" members)
    | .arr [word, object] => some (some word, some object)
    | _ => none
  let word ← word.bind Json.word?
  let object ← object
  match word with
  | "ADDED" | "MODIFIED" => (Wire.ofJson? object).map fun x => .event (.modified x)
  | "DELETED" => (Wire.ofJson? object).map fun x => .event (.deleted x)
  | "BOOKMARK" => if isBookmark object then some .bookmark else none
  | "ERROR" => (ApiError.ofJson? object).map .error
  | _ => none

/-! ## Traces -/

/-- What a watch does: it asks for a list or for changes, or it tells something. -/
inductive TraceItem (α : Type) where
  | list
  | watch
  | tell (e : Except WatchFailure (WatchEvent α))

/-- What the lines of a stream of changes tell, up to one after which the objects have to be listed
again. Blank lines are passed over. The flag says whether there was such a line. -/
def tellLines {α : Type} [Wire α] (metadata : α → ObjectMeta) :
    List String → List (TraceItem α) × Bool
  | [] => ([], false)
  | line :: lines =>
    let goOn (items : List (TraceItem α)) : List (TraceItem α) × Bool :=
      let (more, isStale) := tellLines metadata lines
      (items ++ more, isStale)
    if line.toList.all Char.isWhitespace then goOn []
    else
      match (Json.parse? line).bind Change.ofJson? with
      | none =>
        match (Json.parse? line).bind ApiError.ofJson? with
        | some e => goOn [.tell (.error (.watch (.api e)))]
        | none => goOn [.tell (.error (.watch .transport))]
      | some .bookmark => goOn []
      | some (.error e) =>
        if e.code = 410 then ([.tell (.error (.reported e))], true)
        else goOn [.tell (.error (.reported e))]
      | some (.event e) =>
        if ((metadata e.object).resourceVersion.getD "").isEmpty then
          ([.tell (.error .noResourceVersion)], true)
        else goOn [.tell (.ok e)]

/-- The lines of a body, and whether the body ends behind them. -/
def Body.lines : Body → List String × Bool
  | .complete text => (text.splitOn "\n", true)
  | .unending lines => (lines, false)

/-- A text that is not empty. -/
def nonEmpty (s : Option String) : Option String := s.filter (!·.isEmpty)

/-- What a watch does with the responses it gets, from a list on or from a stream of changes on.
The trace ends where nothing more comes. -/
def trace {α : Type} [Wire α] (metadata : α → ObjectMeta) :
    (isListed : Bool) → List Response → List (TraceItem α)
  | false, [] => [.list]
  | true, [] => [.watch]
  | false, r :: rs =>
    match r.body with
    | .unending _ => [.list]
    | .complete _ =>
      .list ::
        match r.value (ObjectList.ofJson? (α := α)) with
        | .error e => .tell (.error (.initialList e)) :: trace metadata false rs
        | .ok page =>
          let version := nonEmpty page.metadata.resourceVersion
          let nextPage := nonEmpty page.metadata.nextPage
          if version.isNone && nextPage.isNone then
            .tell (.error .noResourceVersion) :: trace metadata false rs
          else
            page.items.map (fun x => .tell (.ok (.added x))) ++ trace metadata nextPage.isNone rs
  | true, r :: rs =>
    let (lines, isEnding) := r.body.lines
    let (items, isStale) := tellLines metadata lines
    .watch :: items ++
      (if isStale then trace metadata false rs
      else if isEnding then trace metadata true rs
      else [])

/-- What a trace tells until it has told a number of things, and what it asked for by then. The
flags tell streams of changes from lists. -/
def takeTold {α : Type} : (count : Nat) → List (TraceItem α) →
    List Bool × List (Except WatchFailure (WatchEvent α))
  | 0, _ => ([], [])
  | _, [] => ([], [])
  | count + 1, .tell e :: items =>
    let (asked, told) := takeTold count items
    (asked, e :: told)
  | count + 1, .list :: items =>
    let (asked, told) := takeTold (count + 1) items
    (false :: asked, told)
  | count + 1, .watch :: items =>
    let (asked, told) := takeTold (count + 1) items
    (true :: asked, told)

/-! ## Sources -/

/-- What a server has to say about a kind: one response to every list and one to every request for
changes. Without a response, the request never gets one. -/
structure Source where
  list : Option Response := none
  watch : Option Response := none

/-- What a watch over a source tells at once, and whether it has listed the objects. -/
structure Outset (α : Type) where
  isListed : Bool := false
  told : List (Except WatchFailure (WatchEvent α)) := []

/-- What an item of a trace tells. -/
def TraceItem.told? {α : Type} : TraceItem α → Option (Except WatchFailure (WatchEvent α))
  | .tell e => some e
  | .list | .watch => none

/-- The outset of a watch over a source: the list, then the changes, if the list went well. -/
def Source.outset {α : Type} [Wire α] (metadata : α → ObjectMeta) (s : Source) : Outset α :=
  let items := trace metadata false s.list.toList
  let isListed :=
    match items.getLast? with
    | some .watch => true
    | _ => false
  let changes := if isListed then trace metadata true s.watch.toList else []
  ⟨isListed, (items ++ changes).filterMap TraceItem.told?⟩

end PoolOperator.Api
