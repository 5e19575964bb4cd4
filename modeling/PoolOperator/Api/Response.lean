import PoolOperator.Api.Failure
import PoolOperator.Json.Printer
import PoolOperator.Json.Reader
import PoolOperator.Object.Wire

/-!
# Responses of an API server

How values and failures are read from responses. A failure that the server does not describe in the
usual form is described by the response itself.
-/

namespace PoolOperator.Api

/-- The body of a response: a text, or lines of one that goes on. -/
inductive Body where
  | complete (text : String)
  | unending (lines : List String)
deriving DecidableEq, Repr

/-- A response. -/
structure Response where
  status : Nat := 200
  body : Body
deriving DecidableEq, Repr

/-- The words for the codes of failures. -/
def reasonPhrases : List (Nat × String) :=
  [(400, "Bad Request"), (401, "Unauthorized"), (402, "Payment Required"), (403, "Forbidden"),
    (404, "Not Found"), (405, "Method Not Allowed"), (406, "Not Acceptable"),
    (407, "Proxy Authentication Required"), (408, "Request Timeout"), (409, "Conflict"),
    (410, "Gone"), (411, "Length Required"), (412, "Precondition Failed"),
    (413, "Payload Too Large"), (414, "URI Too Long"), (415, "Unsupported Media Type"),
    (416, "Range Not Satisfiable"), (417, "Expectation Failed"), (418, "I'm a teapot"),
    (421, "Misdirected Request"), (422, "Unprocessable Entity"), (423, "Locked"),
    (424, "Failed Dependency"), (425, "Too Early"), (426, "Upgrade Required"),
    (428, "Precondition Required"), (429, "Too Many Requests"),
    (431, "Request Header Fields Too Large"), (451, "Unavailable For Legal Reasons"),
    (500, "Internal Server Error"), (501, "Not Implemented"), (502, "Bad Gateway"),
    (503, "Service Unavailable"), (504, "Gateway Timeout"), (505, "HTTP Version Not Supported"),
    (506, "Variant Also Negotiates"), (507, "Insufficient Storage"), (508, "Loop Detected"),
    (510, "Not Extended"), (511, "Network Authentication Required")]

/-- A code and its word. -/
def statusLine (code : Nat) : String :=
  let phrase := (reasonPhrases.lookup code).getD "<unknown status code>"
  s!"{code} {phrase}"

/-! ## Failures -/

/-- A number of 16 bits. -/
def word16? (v : Json) : Option Nat := do
  let n ← v.int?
  if 0 ≤ n ∧ n < 65536 then some n.toNat else none

/-- Reads the description of a failure. -/
def ApiError.ofJson? (v : Json) : Option ApiError := do
  match ← v.fields? ["status", "message", "reason", "code"] with
  | [status, message, reason, code] =>
    return {
      status := ← Json.required Json.str? status
      message := ← Json.defaulted Json.str? "" message
      reason := ← Json.defaulted Json.str? "" reason
      code := ← Json.required word16? code }
  | _ => none

/-- The failure that a response with a text amounts to. -/
def ApiError.ofText (status : Nat) (text : String) : ApiError :=
  match (Json.parse? text).bind ApiError.ofJson? with
  | some e => e
  | none => ⟨statusLine status, Text.quoted text, "Failed to parse error data", status⟩

/-- Whether a code stands for a failure. -/
def isFailure (status : Nat) : Bool := 400 ≤ status && status < 600

/-- The text of a response that is complete and no failure. -/
def Response.text (r : Response) : Except ClientError String :=
  match r.body with
  | .unending _ => .error .transport
  | .complete text =>
    if isFailure r.status then .error (.api (.ofText r.status text)) else .ok text

/-- The value in a response. -/
def Response.value {α : Type} (read : Json → Option α) (r : Response) : Except ClientError α := do
  match (Json.parse? (← r.text)).bind read with
  | some a => .ok a
  | none => .error .transport

/-! ## Lists -/

/-- What a list says about itself. -/
structure ListMeta where
  resourceVersion : Option String := none
  /-- Where the next page starts, if there is one. -/
  nextPage : Option String := none

/-- A page of objects. -/
structure ObjectList (α : Type) where
  metadata : ListMeta
  items : List α

/-- Reads what a list says about itself. -/
def ListMeta.ofJson? (v : Json) : Option ListMeta := do
  let members ← v.obj?
  let field (name : String) := Json.member? name members
  let _ ← Json.optional Json.int64? (field "remainingItemCount")
  let _ ← Json.optional Json.str? (field "selfLink")
  return {
    resourceVersion := ← Json.optional Json.str? (field "resourceVersion")
    nextPage := ← Json.optional Json.str? (field "continue") }

/-- Reads a page of objects. The items must be there, but may be null. -/
def ObjectList.ofJson? {α : Type} [Wire α] (v : Json) : Option (ObjectList α) := do
  let members ← v.obj?
  let metadata ← Json.defaulted ListMeta.ofJson? {} (Json.member? "metadata" members)
  let items ← Json.member? "items" members
  let items ← Json.optional (Json.list? Wire.ofJson?) (some items)
  return ⟨metadata, items.getD []⟩

/-! ## Deletions -/

/-- Whether a value is the report of an operation. -/
def isReport (v : Json) : Bool :=
  (v.get? "kind").bind Json.str? == some "Status" &&
    Option.isSome do
      let status ← Json.optional Json.str? (v.get? "status")
      if !(status.all fun s => s == "Success" || s == "Failure") then none
      let _ ← Json.defaulted word16? 0 (v.get? "code")
      let _ ← Json.defaulted Json.str? "" (v.get? "message")
      Json.defaulted Json.str? "" (v.get? "reason")

/-- Reads the answer to a deletion: a report, or the object that is going to be deleted. -/
def deletion? (α : Type) [Wire α] (v : Json) : Option Unit :=
  if (v.get? "kind").bind Json.str? = some "Status" then
    if isReport v then some () else none
  else (Wire.ofJson? v : Option α).map fun _ => ()

end PoolOperator.Api
