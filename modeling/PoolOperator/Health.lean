import PoolOperator.Metrics

/-!
# Health

Which pipelines have stopped for good, and the pages that tell about it.
-/

namespace PoolOperator

/-- The pipelines that have stopped, and why. -/
structure Health where
  failures : SortedMap String String := ∅
deriving DecidableEq, Inhabited

namespace Health

/-- Notes that a pipeline has stopped. -/
def markFailed (h : Health) (pipeline reason : String) : Health :=
  ⟨h.failures.insert pipeline reason⟩

/-- Whether every pipeline is running. -/
def isReady (h : Health) : Bool := h.failures.entries.isEmpty

/-- The stopped pipelines, one a line. -/
def describe (h : Health) : String :=
  "\n".intercalate (h.failures.entries.map fun (pipeline, reason) => s!"{pipeline}: {reason}")

end Health

/-- A page, or the refusal of one. -/
structure Page where
  status : Nat
  contentType : Option String := none
  /-- The methods that would have been right. -/
  allow : Option String := none
  body : String := ""
deriving DecidableEq, Repr

namespace Page

/-- A page of plain text. -/
def plain (status : Nat) (body : String) : Page :=
  ⟨status, some "text/plain; charset=utf-8", none, body⟩

/-- The page of a path: a sign of life, readiness, or the metrics. -/
def get? (h : Health) (m : Metrics) (path : String) : Option Page :=
  if path = "/healthz" then some (plain 200 "ok")
  else if path = "/readyz" then
    some (if h.isReady then plain 200 "ok" else plain 503 h.describe)
  else if path = "/metrics" then
    some ⟨200, some "text/plain; version=0.0.4; charset=utf-8", none, m.render⟩
  else none

/-- The answer to a request. What follows a question mark does not count. -/
def answer (h : Health) (m : Metrics) (method target : String) : Page :=
  let path := String.ofList (target.toList.takeWhile (· != '?'))
  match get? h m path with
  | none => { status := 404 }
  | some page =>
    if method = "GET" then page
    else if method = "HEAD" then { page with body := "" }
    else { status := 405, allow := some "GET,HEAD" }

end Page

end PoolOperator
