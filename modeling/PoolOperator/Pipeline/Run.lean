import PoolOperator.Api.Watch
import PoolOperator.Pipeline.Agenda
import PoolOperator.Pipeline.Result
import PoolOperator.Turn

/-!
# Runs of a pipeline

A pipeline knows the objects of its kind from a watch. An object that is new or has changed is due
for a turn, and so is the namespace of every pool that has changed. Each turn says whether the
object is due again. No turn begins before the objects have been listed, and none after a result
that ends the pipeline.
-/

namespace PoolOperator

/-- What a pipeline does. -/
structure Pipeline (α : Type) where
  name : String
  metadata : α → ObjectMeta
  turn : World → α → Except OperatorError Unit × Action × World

namespace Pipeline

/-- The pipeline that merges the pools of a namespace. -/
def pools (now : String) : Pipeline Namespace where
  name := poolPipeline
  metadata := Namespace.metadata
  turn := World.turnOnNamespace now

/-- The pipeline that validates instances. -/
def instances (now : String) : Pipeline Instance where
  name := instancePipeline
  metadata := Instance.metadata
  turn := World.turnOnInstance now

/-- A pipeline at work. -/
structure State (α : Type) where
  world : World
  /-- The objects of the kind, as the watch has told about them. -/
  known : SortedMap ObjectRef α := ∅
  agenda : Agenda := {}
  /-- The last result first. -/
  results : List PipelineResult := []
  /-- The error that has ended the pipeline. -/
  failure : Option OperatorError := none

variable {α : Type}

/-- Takes a result into account, unless the pipeline has ended. -/
def State.note (s : State α) (r : PipelineResult) : State α :=
  if s.failure.isSome then s else { s with results := r :: s.results, failure := r.fatal? }

/-- Asks for a turn from a time on. -/
def State.ask (s : State α) (ref : ObjectRef) (time : Nat) : State α :=
  { s with agenda := s.agenda.ask ref time }

/-- The health of the operator, with the error that has ended the pipeline, if it has ended. -/
def State.health (p : Pipeline α) (s : State α) (h : Health) : Health :=
  match s.failure with
  | some e => h.stop p.name e
  | none => h

/-! ## Events -/

/-- Hears of a change of an object of the kind. -/
def observe (p : Pipeline α) (time : Nat) (s : State α) : WatchEvent α → State α
  | .added x | .modified x =>
    let ref := ObjectRef.ofMeta (p.metadata x)
    { s.ask ref time with known := s.known.insert ref x }
  | .deleted x => { s with known := s.known.erase (.ofMeta (p.metadata x)) }

/-- Hears from the watch of the kind. -/
def hear (p : Pipeline α) (time : Nat) (s : State α) :
    Except Api.WatchFailure (WatchEvent α) → State α
  | .ok e => p.observe time s e
  | .error e => s.note (.interrupted e)

/-- Hears from the watch of another kind, each change of which concerns an object of this kind or
none. -/
def hearOther {β : Type} (concerns : β → Option ObjectRef) (time : Nat) (s : State α) :
    Except Api.WatchFailure (WatchEvent β) → State α
  | .ok e =>
    match concerns e.object with
    | some ref => s.ask ref time
    | none => s
  | .error e => s.note (.interrupted e)

/-! ## Turns -/

/-- A turn on an object that is due, unless the pipeline has ended. -/
def turnOn (p : Pipeline α) (time : Nat) (s : State α) (ref : ObjectRef) : State α :=
  if s.failure.isSome then s
  else
    let s := { s with agenda := s.agenda.erase ref }
    match s.known.get? ref with
    | none => s.note .objectNotFound
    | some x =>
      let (result, action, world) := p.turn s.world x
      let s := { s with world := world }
      let s :=
        s.note
          (match result with
          | .ok () => .done
          | .error e => .failed e)
      match action with
      | .awaitChange => s
      | .requeue delay => s.ask ref (time + delay.toNat)

/-- The turns that are due at a time. -/
def turnsAt (p : Pipeline α) (time : Nat) (s : State α) : State α :=
  (s.agenda.dueAt time).foldl (p.turnOn time) s

/-- The turns of a number of seconds. -/
def turns (p : Pipeline α) : (seconds time : Nat) → State α → State α
  | 0, _, s => s
  | seconds + 1, time, s =>
    if s.failure.isSome then s else p.turns seconds (time + 1) (p.turnsAt time s)

/-! ## Runs -/

/-- Works for a number of seconds on what a watch has told at the outset. -/
def work (p : Pipeline α) (isListed : Bool) (seconds : Nat) (s : State α) : State α :=
  if isListed then p.turns (seconds + 1) 0 s else s

/-- A run of the pipeline of pools. A change of a pool concerns its namespace. -/
def runPools (now : String) (namespaces pools : Api.Source) (seconds : Nat) (w : World) :
    State Namespace :=
  let p := Pipeline.pools now
  let own := namespaces.outset Namespace.metadata
  let others := pools.outset AddressPool.metadata
  let concerns (pool : AddressPool) : Option ObjectRef :=
    pool.metadata.ns.map fun ns => ⟨none, ns⟩
  let s := own.told.foldl (p.hear 0) { world := w }
  let s := others.told.foldl (hearOther concerns 0) s
  p.work own.isListed seconds s

/-- A run of the pipeline of instances. -/
def runInstances (now : String) (instances : Api.Source) (seconds : Nat) (w : World) :
    State Instance :=
  let p := Pipeline.instances now
  let own := instances.outset Instance.metadata
  p.work own.isListed seconds (own.told.foldl (p.hear 0) { world := w })

end Pipeline

end PoolOperator
