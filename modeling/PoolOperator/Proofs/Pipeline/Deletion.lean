import PoolOperator.Pipeline.Run
import PoolOperator.Proofs.Retries

/-!
# Deleted instances

A turn on an instance that is gone forgets its failures. But an instance that is deleted is known no
more, and when one that is not known is due, no turn is taken on it. So its failures in a row are
kept, and the first failure of an instance that comes back under its name waits for as long as if
the deleted one had failed once more.
-/

namespace PoolOperator

/-- The key of an instance depends on the settings only. -/
theorem World.keyOfInstance_of_settings {v w : World}
    (h : v.operator.settings = w.operator.settings) (i : Instance) :
    v.keyOfInstance i = w.keyOfInstance i := by
  rw [keyOfInstance, h, keyOfInstance]

/-- Whether an instance has a name, and a namespace without a slash. -/
def Instance.IsPlaced (i : Instance) : Prop :=
  ∃ ns name, i.metadata.ns = some ns ∧ i.metadata.name = some name ∧ '/' ∉ ns.toList

theorem Instance.IsPlaced.isPlain {i : Instance} (h : i.IsPlaced) (w : World) :
    (Subject.instanceAt (w.keyOfInstance i)).IsPlain := by
  obtain ⟨ns, name, hns, -, hslash⟩ := h
  show '/' ∉ (i.metadata.ns.getD w.operator.settings.ns).toList
  rw [hns]
  exact hslash

/-- Two instances with one key have one reference. -/
theorem Instance.IsPlaced.ofMeta_eq {i j : Instance} (hi : i.IsPlaced) (hj : j.IsPlaced)
    {w : World} (h : w.keyOfInstance i = w.keyOfInstance j) :
    ObjectRef.ofMeta i.metadata = ObjectRef.ofMeta j.metadata := by
  obtain ⟨ns, name, hns, hname, -⟩ := hi
  obtain ⟨ns', name', hns', hname', -⟩ := hj
  rw [World.keyOfInstance, World.keyOfInstance, ObjectMeta.anyName, ObjectMeta.anyName, hns, hname,
    hns', hname'] at h
  obtain ⟨rfl, rfl⟩ : ns = ns' ∧ name = name' := ObjectKey.mk.inj h
  rw [ObjectRef.ofMeta, ObjectRef.ofMeta, hns, hname, hns', hname']

/-- A turn that finds its instance gone forgets what has failed. -/
theorem World.turnOnInstance_of_gone (now : String) {w : World} {i : Instance}
    (h : (w.answerCall (.getInstance (w.keyOfInstance i))).1 = .ok none) :
    (w.turnOnInstance now i).1 = .ok () ∧ (w.turnOnInstance now i).2.1 = .awaitChange ∧
      (w.turnOnInstance now i).2.2.operator.retries =
        w.operator.retries.erase (Subject.instanceAt (w.keyOfInstance i)).retryKey := by
  obtain ⟨v, hvalidate⟩ : ∃ v,
      w.perform (.validate now w.attempts (w.keyOfInstance i)) = (.ok none, v) := by
    rcases hcall : w.answerCall (.getInstance (w.keyOfInstance i)) with ⟨reply, v⟩
    rw [hcall] at h
    refine ⟨v, ?_⟩
    rw [perform, Task.validate, Task.call, Task.ask_bind, Task.run_ask]
    rw [show answer (.store (.getInstance (w.keyOfInstance i))) w = (.ok none, v) from
      hcall.trans (congrArg (·, v) h)]
    rfl
  have hresult : (w.turnOnInstance now i).1 = .ok () ∧
      (w.turnOnInstance now i).2.1 = .awaitChange := by
    rcases w.turnOnInstance_cases now i with ⟨e, he, -⟩ | ⟨state, hstate, hturn⟩
    · rw [hvalidate] at he
      cases he
    · rw [hvalidate] at hstate hturn
      cases hstate
      rw [hturn]
      exact ⟨rfl, rfl⟩
  have hnoted := noted_turnOnInstance now w i
  refine ⟨hresult.1, hresult.2, hnoted.retries.trans ?_⟩
  rw [hresult.1]
  rfl

namespace Pipeline

/-! ## Turns that are taken -/

/-- The turn that is taken when an object is due: none after the end of the pipeline, and none on an
object that is not known. -/
def turnTaken? (now : String) (s : State Instance) (ref : ObjectRef) : Option Turn :=
  if s.failure.isSome then none
  else
    (s.known.get? ref).map fun i =>
      ⟨.instanceAt (s.world.keyOfInstance i), (s.world.turnOnInstance now i).1⟩

/-- The pipeline of instances at work, and the turns that it has taken. -/
structure Shift where
  state : State Instance
  turns : List Turn := []

/-- What happens in a run of the pipeline of instances. -/
inductive Move where
  /-- The watch tells something. -/
  | hear (time : Nat) (told : Except Api.WatchFailure (WatchEvent Instance))
  /-- The turns that are due are taken. -/
  | work (time : Nat)
  /-- Others act, and it is settled what happens at the next calls. -/
  | outside (edits : List StoreEdit) (disturbances : List (StoreMethod × Disturbance))
      (readiness : Except OperatorError Readiness)

namespace Shift

/-- A pipeline that has not heard anything. -/
def start (w : World) : Shift := ⟨{ world := w }, []⟩

/-- A turn on an object that is due, if the object is known. -/
def turnOn (now : String) (time : Nat) (s : Shift) (ref : ObjectRef) : Shift :=
  ⟨(instances now).turnOn time s.state ref, s.turns ++ (turnTaken? now s.state ref).toList⟩

/-- What one move leads to. -/
def move (now : String) (s : Shift) : Move → Shift
  | .hear time told => { s with state := (instances now).hear time s.state told }
  | .work time => (s.state.agenda.dueAt time).foldl (turnOn now time) s
  | .outside edits disturbances readiness =>
    { s with state.world :=
        { s.state.world with
          store := s.state.world.store.edits edits
          disturbances := disturbances
          readiness := readiness } }

/-- One move after another. -/
def run (now : String) (s : Shift) (moves : List Move) : Shift := moves.foldl (move now) s

theorem run_append (now : String) (s : Shift) (before after : List Move) :
    s.run now (before ++ after) = (s.run now before).run now after := List.foldl_append

/-- What the pipeline remembers. -/
def operator (s : Shift) : Operator := s.state.world.operator

/-! ## Runs of the pipeline -/

theorem state_foldl_turnOn (now : String) (time : Nat) (refs : List ObjectRef) (s : Shift) :
    (refs.foldl (turnOn now time) s).state = refs.foldl ((instances now).turnOn time) s.state := by
  induction refs generalizing s with
  | nil => rfl
  | cons ref refs ih => exact ih _

theorem state_work (now : String) (s : Shift) (time : Nat) :
    (s.move now (.work time)).state = (instances now).turnsAt time s.state :=
  state_foldl_turnOn now time _ s

theorem turnsAt_of_failure {α : Type} (p : Pipeline α) (time : Nat) {s : State α}
    (h : s.failure.isSome = true) : p.turnsAt time s = s := by
  have hturn (refs : List ObjectRef) : refs.foldl (p.turnOn time) s = s := by
    induction refs with
    | nil => rfl
    | cons ref refs ih => rw [List.foldl_cons, Pipeline.turnOn, if_pos h, ih]
  exact hturn _

theorem state_run_work (now : String) (seconds time : Nat) (s : Shift) :
    (s.run now ((List.range' time seconds).map .work)).state =
      (instances now).turns seconds time s.state := by
  induction seconds generalizing time s with
  | zero => rfl
  | succ seconds ih =>
    have hlater := ih (time + 1) (s.move now (.work time))
    rw [state_work] at hlater
    refine Eq.trans hlater ?_
    rw [Pipeline.turns]
    split
    · rename_i hfailure
      rw [turnsAt_of_failure _ _ hfailure]
      cases seconds with
      | zero => rfl
      | succ seconds => rw [Pipeline.turns, if_pos hfailure]
    · rfl

/-- What happens in a run that begins with what a watch tells at once. -/
def movesFrom (o : Api.Outset Instance) (seconds : Nat) : List Move :=
  o.told.map (.hear 0) ++ if o.isListed then (List.range' 0 (seconds + 1)).map .work else []

/-- A run of the pipeline consists of such moves. -/
theorem state_run_movesFrom (now : String) (source : Api.Source) (seconds : Nat) (w : World) :
    ((start w).run now (movesFrom (source.outset Instance.metadata) seconds)).state =
      runInstances now source seconds w := by
  have hheard (told : List (Except Api.WatchFailure (WatchEvent Instance))) (s : Shift) :
      (s.run now (told.map (.hear 0))).state = told.foldl ((instances now).hear 0) s.state := by
    induction told generalizing s with
    | nil => rfl
    | cons e told ih => exact ih _
  rw [movesFrom, run_append, runInstances, work]
  split
  · rw [state_run_work, hheard]
    rfl
  · exact hheard _ _

/-! ## What a run keeps -/

/-- What is kept by all that the pipeline hears, by each turn, and by others, is kept by a run. -/
theorem run_keeps {P : Shift → Prop} {now : String} {moves : List Move}
    (hhear : ∀ s time told, .hear time told ∈ moves → P s → P (s.move now (.hear time told)))
    (hturn : ∀ s time ref, P s → P (s.turnOn now time ref))
    (houtside : ∀ s edits disturbances readiness, P s →
      P (s.move now (.outside edits disturbances readiness)))
    {s : Shift} (h : P s) : P (s.run now moves) := by
  induction moves using List.reverseRecOn with
  | nil => exact h
  | append_singleton moves m ih =>
    have hs := ih fun s time told hmem => hhear s time told (List.mem_append_left _ hmem)
    rw [run_append]
    cases m with
    | hear time told => exact hhear _ time told (List.mem_append_right _ List.mem_cons_self) hs
    | work time =>
      have hturns (refs : List ObjectRef) {s : Shift} (h : P s) :
          P (refs.foldl (turnOn now time) s) := by
        induction refs generalizing s with
        | nil => exact h
        | cons ref refs ih => exact ih (hturn _ time ref h)
      exact hturns _ hs
    | outside edits disturbances readiness => exact houtside _ edits disturbances readiness hs

end Shift

section Turns

variable {α : Type} {s : State α}

@[simp] theorem State.world_note (r : PipelineResult) : (s.note r).world = s.world := by
  unfold note
  split <;> rfl

@[simp] theorem State.known_note (r : PipelineResult) : (s.note r).known = s.known := by
  unfold note
  split <;> rfl

theorem turnOn_of_unknown (p : Pipeline α) (time : Nat) {ref : ObjectRef}
    (h : s.known.get? ref = none) :
    (p.turnOn time s ref).known = s.known ∧ (p.turnOn time s ref).world = s.world := by
  unfold turnOn
  split
  · exact ⟨rfl, rfl⟩
  · dsimp only
    rw [h]
    exact ⟨State.known_note _, State.world_note _⟩

theorem turnOn_of_known (p : Pipeline α) (time : Nat) {ref : ObjectRef} {x : α}
    (hgoing : s.failure.isSome = false) (h : s.known.get? ref = some x) :
    (p.turnOn time s ref).known = s.known ∧
      (p.turnOn time s ref).world = (p.turn s.world x).2.2 := by
  unfold turnOn
  rw [hgoing, if_neg Bool.false_ne_true]
  dsimp only
  rw [h]
  dsimp only
  split <;> exact ⟨State.known_note _, State.world_note _⟩

theorem world_hear (p : Pipeline α) (time : Nat)
    (told : Except Api.WatchFailure (WatchEvent α)) : (p.hear time s told).world = s.world := by
  rcases told with e | ⟨x | x | x⟩
  · exact State.world_note _
  · rfl
  · rfl
  · rfl

/-- Nothing is known but what has been told of. -/
theorem mem_known_hear {p : Pipeline α} {time : Nat}
    {told : Except Api.WatchFailure (WatchEvent α)} {f : ObjectRef × α}
    (hf : f ∈ (p.hear time s told).known.entries) :
    f ∈ s.known.entries ∨ ∃ x, (told = .ok (.added x) ∨ told = .ok (.modified x)) ∧
      f = (.ofMeta (p.metadata x), x) := by
  rcases told with e | ⟨x | x | x⟩
  · rw [show (p.hear time s (.error e)).known = s.known from State.known_note _] at hf
    exact .inl hf
  · exact (SortedMap.mem_insertEntry hf).symm.imp_right fun h => ⟨x, .inl rfl, h⟩
  · exact (SortedMap.mem_insertEntry hf).symm.imp_right fun h => ⟨x, .inr rfl, h⟩
  · exact .inl (List.mem_of_mem_filter hf)

end Turns

/-! ## Deletions -/

/-- Whether the instances that a pipeline knows are placed, each under its own reference. -/
def State.Filed (s : State Instance) : Prop :=
  ∀ f ∈ s.known.entries, f.1 = .ofMeta f.2.metadata ∧ f.2.IsPlaced

/-- Whether a pipeline knows no instance under a key. -/
def State.Lacks (s : State Instance) (key : ObjectKey) : Prop :=
  ∀ f ∈ s.known.entries, s.world.keyOfInstance f.2 ≠ key

/-- Whether a move tells of a placed instance, if it tells of one at all. -/
def Move.IsPlaced : Move → Prop
  | .hear _ (.ok e) => e.object.IsPlaced
  | _ => True

/-- Whether a move makes a pipeline know an instance under a key. -/
def Move.Shows (w : World) (key : ObjectKey) : Move → Prop
  | .hear _ (.ok (.added i)) | .hear _ (.ok (.modified i)) => w.keyOfInstance i = key
  | _ => False

namespace Shift

variable {now : String} {w : World} {settings : Settings} {s : Shift} {key : ObjectKey}

/-- What comes of an object that is due: no turn, and nothing outside the pipeline, or a turn on an
instance that is known. The instances that are known stay the same. -/
theorem turnOn_cases (now : String) (time : Nat) (s : Shift) (ref : ObjectRef) :
    (s.turnOn now time ref).state.known = s.state.known ∧
      ((s.turnOn now time ref).turns = s.turns ∧
          (s.turnOn now time ref).state.world = s.state.world ∨
        ∃ f ∈ s.state.known.entries,
          (s.turnOn now time ref).turns = s.turns ++
            [⟨.instanceAt (s.state.world.keyOfInstance f.2),
              (s.state.world.turnOnInstance now f.2).1⟩] ∧
          (s.turnOn now time ref).state.world = (s.state.world.turnOnInstance now f.2).2.2) := by
  rw [turnOn, turnTaken?]
  cases hfailure : s.state.failure.isSome with
  | true =>
    have hstays : (instances now).turnOn time s.state ref = s.state := if_pos hfailure
    rw [hstays]
    exact ⟨rfl, .inl ⟨List.append_nil _, rfl⟩⟩
  | false =>
    cases hknown : s.state.known.get? ref with
    | none =>
      obtain ⟨hsame, hworld⟩ := turnOn_of_unknown (instances now) time hknown
      exact ⟨hsame, .inl ⟨List.append_nil _, hworld⟩⟩
    | some i =>
      obtain ⟨hsame, hworld⟩ := turnOn_of_known (instances now) time hfailure hknown
      obtain ⟨f, hf, rfl⟩ := SortedMap.exists_mem_of_get? hknown
      exact ⟨hsame, .inr ⟨f, hf, rfl, hworld⟩⟩

theorem settings_turnOn (now : String) (time : Nat) (s : Shift) (ref : ObjectRef) :
    (s.turnOn now time ref).operator.settings = s.operator.settings := by
  rw [operator, operator]
  obtain ⟨-, ⟨-, hworld⟩ | ⟨f, -, -, hworld⟩⟩ := turnOn_cases now time s ref
  · rw [hworld]
  · rw [hworld, (World.noted_turnOnInstance now s.state.world f.2).settings]
    exact Operator.settings_note _ _

theorem settings_run (now : String) (w : World) (moves : List Move) :
    ((start w).run now moves).operator.settings = w.operator.settings := by
  refine run_keeps (P := fun s => s.operator.settings = w.operator.settings) ?_ ?_ ?_ rfl
  · intro s time told _ h
    exact (congrArg (·.operator.settings) (world_hear _ _ _)).trans h
  · intro s time ref h
    exact (settings_turnOn now time s ref).trans h
  · intro s edits disturbances readiness h
    exact h

theorem filed_hear (h : s.state.Filed) (now : String) {time : Nat}
    {told : Except Api.WatchFailure (WatchEvent Instance)}
    (htold : (Move.hear time told).IsPlaced) : (s.move now (.hear time told)).state.Filed := by
  intro f hf
  rcases mem_known_hear hf with hf | ⟨i, rfl | rfl, rfl⟩
  · exact h f hf
  · exact ⟨rfl, htold⟩
  · exact ⟨rfl, htold⟩

/-- The instances that are known have been told of. An operator that has nothing to remember at the
start remembers the turns of a run. -/
theorem remembers_run (now : String) (hstart : w.operator.retries = ∅) {moves : List Move}
    (hmoves : ∀ m ∈ moves, m.IsPlaced) :
    ((start w).run now moves).state.Filed ∧
      ((start w).run now moves).operator.Remembers w.operator.settings
        ((start w).run now moves).turns := by
  refine run_keeps (P := fun s => s.state.Filed ∧
    s.operator.Remembers w.operator.settings s.turns) ?_ ?_ ?_
    ⟨List.forall_mem_nil _, Operator.remembers_nil hstart⟩
  · rintro s time told hmem ⟨hfiled, hs⟩
    have hworld : (s.move now (.hear time told)).operator = s.operator :=
      congrArg World.operator (world_hear _ _ _)
    refine ⟨filed_hear hfiled now (hmoves _ hmem), ?_⟩
    rw [hworld]
    exact hs
  · rintro s time ref ⟨hfiled, hs⟩
    obtain ⟨hknown, ⟨hturns, hworld⟩ | ⟨f, hf, hturns, hworld⟩⟩ := turnOn_cases now time s ref
    · rw [State.Filed, hknown, hturns, operator, hworld]
      exact ⟨hfiled, hs⟩
    · have hnoted := World.noted_turnOnInstance now s.state.world f.2
      rw [State.Filed, hknown, hturns, operator, hworld]
      exact ⟨hfiled, (hs.note ((hfiled f hf).2.isPlain _)).of_eq hnoted.settings hnoted.retries⟩
  · intro s edits disturbances readiness hs
    exact hs

/-- An instance is known no more when it is told to be deleted. -/
theorem lacks_deleted (h : s.state.Filed) (now : String) (time : Nat) {i : Instance}
    (hi : i.IsPlaced) : (s.move now (.hear time (.ok (.deleted i)))).state.Lacks
      (s.state.world.keyOfInstance i) := by
  intro f hf hkey
  obtain ⟨hmem, hother⟩ := List.mem_filter.mp hf
  obtain ⟨href, hplaced⟩ := h f hmem
  have hsame : compare f.1 (.ofMeta i.metadata) = .eq := by
    rw [href, hplaced.ofMeta_eq hi hkey]
    exact Std.ReflCmp.compare_self
  exact bne_iff_ne.mp hother hsame

/-- Whether a pipeline knows no instance under a key, and has taken no turn on one since it had
taken some turns. -/
structure Apart (settings : Settings) (key : ObjectKey) (turns : List Turn) (s : Shift) :
    Prop where
  settings_eq : s.operator.settings = settings
  lacks : s.state.Lacks key
  turns_eq : ∃ taken, s.turns = turns ++ taken ∧ ∀ t ∈ taken, t.subject ≠ .instanceAt key

theorem Apart.hear {turns : List Turn} (h : s.Apart w.operator.settings key turns) {time : Nat}
    {told : Except Api.WatchFailure (WatchEvent Instance)}
    (hother : ¬(Move.hear time told).Shows w key) :
    (s.move now (.hear time told)).Apart w.operator.settings key turns := by
  have hworld : (s.move now (.hear time told)).state.world = s.state.world := world_hear _ _ _
  refine ⟨(congrArg (·.operator.settings) hworld).trans h.settings_eq, ?_, h.turns_eq⟩
  intro f hf
  rw [hworld]
  rcases mem_known_hear hf with hf | ⟨i, rfl | rfl, rfl⟩
  · exact h.lacks f hf
  · rw [World.keyOfInstance_of_settings h.settings_eq]
    exact hother
  · rw [World.keyOfInstance_of_settings h.settings_eq]
    exact hother

theorem Apart.turnOn {turns : List Turn} (h : s.Apart settings key turns) (now : String)
    (time : Nat) (ref : ObjectRef) : (s.turnOn now time ref).Apart settings key turns := by
  obtain ⟨taken, htaken, hothers⟩ := h.turns_eq
  obtain ⟨hknown, ⟨hturns, hworld⟩ | ⟨f, hf, hturns, hworld⟩⟩ := turnOn_cases now time s ref
  · refine ⟨(congrArg (·.operator.settings) hworld).trans h.settings_eq, ?_, taken,
      hturns.trans htaken, hothers⟩
    rw [State.Lacks, hknown, hworld]
    exact h.lacks
  · have hsettings := settings_turnOn now time s ref
    rw [htaken, List.append_assoc] at hturns
    refine ⟨hsettings.trans h.settings_eq, ?_, _, hturns, ?_⟩
    · intro f hf
      rw [hknown] at hf
      rw [World.keyOfInstance_of_settings hsettings]
      exact h.lacks f hf
    · intro t ht hsubject
      rcases List.mem_append.mp ht with ht | ht
      · exact hothers t ht hsubject
      · cases List.mem_singleton.mp ht
        exact h.lacks f hf (Subject.instanceAt.inj hsubject)

/-- No turn is taken on an instance that a pipeline does not know and does not hear of. -/
theorem apart_run (now : String) {moves : List Move}
    (hsettings : s.operator.settings = w.operator.settings) (hlacks : s.state.Lacks key)
    (hmoves : ∀ m ∈ moves, ¬m.Shows w key) :
    (s.run now moves).Apart w.operator.settings key s.turns := by
  refine run_keeps (P := Apart w.operator.settings key s.turns) ?_ ?_ ?_
    ⟨hsettings, hlacks, [], (List.append_nil _).symm, List.forall_mem_nil _⟩
  · intro s' time told hmem h
    exact h.hear (hmoves _ hmem)
  · intro s' time ref h
    exact h.turnOn now time ref
  · intro s' edits disturbances readiness h
    exact ⟨h.settings_eq, h.lacks, h.turns_eq⟩

/-- **A deletion does not count as a success.** When a pipeline has heard that an instance is deleted,
it keeps the failures in a row that the instance has had, whatever it works off and whatever others
do, as long as it does not hear of an instance under that name again. The next failure under that
name leads to the delay after all these. A turn that finds the instance gone makes the pipeline
forget them, but none is taken. -/
theorem failures_outlive_deletion (now : String) (w : World) (before after : List Move) (time : Nat)
    (i : Instance) (hstart : w.operator.retries = ∅)
    (hplaced : ∀ m ∈ before ++ .hear time (.ok (.deleted i)) :: after, m.IsPlaced)
    (hafter : ∀ m ∈ after, ¬m.Shows w (w.keyOfInstance i)) :
    let x : Subject := .instanceAt (w.keyOfInstance i)
    let known := (start w).run now before
    let gone := known.run now (.hear time (.ok (.deleted i)) :: after)
    let o := gone.operator
    let n := Turn.failuresInARow x known.turns
    o.retries.get? x.retryKey = known.operator.retries.get? x.retryKey ∧
    (o.retries.contains x.retryKey = true ↔ n ≠ 0) ∧
    ∀ (later : String) (v : World) (j : Instance), v.operator = o →
      v.keyOfInstance j = w.keyOfInstance i →
      (∀ e, (v.turnOnInstance later j).1 = .error e → e.isFatal = false →
        ∃ delay, (v.turnOnInstance later j).2.1 = .requeue delay ∧
          delay.toNat = min (w.operator.settings.backoffLeast.toNat * Nat.fib (n + 1))
            w.operator.settings.backoffGreatest.toNat) ∧
      ((v.answerCall (.getInstance (w.keyOfInstance i))).1 = .ok none →
        (v.turnOnInstance later j).2.2.operator.retries.contains x.retryKey = false) := by
  intro x known gone o n
  obtain ⟨hbefore, hlater⟩ := List.forall_mem_append.mp hplaced
  have hi : i.IsPlaced := (List.forall_mem_cons.mp hlater).1
  have hx : x.IsPlain := hi.isPlain w
  obtain ⟨hfiled, hfirst⟩ := remembers_run now hstart hbefore
  have hlast : o.Remembers w.operator.settings gone.turns := by
    have h := (remembers_run now hstart hplaced).2
    rw [run_append] at h
    exact h
  -- hearing of the deletion takes no turn, and afterwards there is nothing to take one on
  have hlacks := lacks_deleted hfiled now time hi
  rw [World.keyOfInstance_of_settings (settings_run now w before)] at hlacks
  have hsettings : (known.move now (.hear time (.ok (.deleted i)))).operator.settings =
      w.operator.settings := settings_run now w before
  obtain ⟨-, -, taken, htaken, hothers⟩ := apart_run now hsettings hlacks hafter
  have hkept : o.retries.get? x.retryKey = Operator.kept w.operator.settings n := by
    refine (hlast.retries x hx).trans (congrArg _ ?_)
    exact (congrArg _ htaken).trans (Turn.failuresInARow_append_of_ne hothers)
  refine ⟨hkept.trans (hfirst.retries x hx).symm, Operator.contains_iff_of_kept hkept, ?_⟩
  intro later v j hv hkey
  constructor
  · intro e herror hfatal
    have haction := (World.noted_turnOnInstance later v j).action e herror
    rw [hv, hkey] at haction
    rw [haction, ← hlast.settings_eq]
    exact Operator.delay_of_kept (hlast.settings_eq ▸ hkept) hfatal
  · intro hgone
    rw [← hkey] at hgone
    have hx : x = .instanceAt (v.keyOfInstance j) := congrArg _ hkey.symm
    rw [hx, (World.turnOnInstance_of_gone later hgone).2.2, SortedMap.contains,
      SortedMap.get?_erase_self]
    rfl

/-- An instance that is going to be deleted. -/
def fleeting : Instance where
  metadata := { name := some "metallb", ns := some "a" }
  spec := {}

/-- The call that fails when an instance is looked up. -/
def lookUpFails : StoreMethod × Disturbance := (.getInstance, .fail (.unavailable "down"))

/-- The instance is there at a time, and its next turn fails. -/
def appear (time : Nat) : List Move :=
  [.outside [.addInstance fleeting] [lookUpFails] (.ok .ready), .hear time (.ok (.added fleeting)),
    .work (time + 1)]

/-- The instance fails a second time and is deleted. -/
def disappear : List Move :=
  [.outside [] [lookUpFails] (.ok .ready), .work 4,
    .outside [.call (.deleteInstance ⟨"a", "metallb"⟩)] [] (.ok .ready)]

/-- The pipeline hears that the instance is deleted, and works off what is due. -/
def workOff : List Move := [.hear 5 (.ok (.deleted fleeting)), .work 7]

/-- A deleted instance that has failed twice waits for three seconds when it fails again, although
it has been due in the meantime. A turn that finds it gone makes the pipeline forget it. -/
theorem failures_outlive_deletion_fleeting :
    let known := (start { operator := .hasty }).run "" (appear 0 ++ disappear)
    let o := (known.run "" workOff).operator
    o.retries.contains "metallb/a/metallb" = true ∧
      (∃ delay, (World.turnOnInstance "" ⟨{}, [lookUpFails], .ok .ready, o⟩ fleeting).2.1 =
        .requeue delay ∧ delay.toNat = 3) ∧
      (World.turnOnInstance "" { operator := o } fleeting).2.2.operator.retries.contains
        "metallb/a/metallb" = false := by
  intro known o
  have hfleeting : fleeting.IsPlaced := ⟨"a", "metallb", rfl, rfl, by decide⟩
  have hplaced : ∀ m ∈ appear 0 ++ disappear ++ workOff, m.IsPlaced := by
    simp [appear, disappear, workOff, Move.IsPlaced, WatchEvent.object, hfleeting]
  have hafter : ∀ m ∈ [Move.work 7], ¬m.Shows { operator := .hasty } ⟨"a", "metallb"⟩ := by
    intro m hm
    cases List.mem_singleton.mp hm
    exact id
  obtain ⟨-, hkept, hnext⟩ := failures_outlive_deletion "" { operator := .hasty }
    (appear 0 ++ disappear) [.work 7] 5 fleeting rfl hplaced hafter
  have htwice : Turn.failuresInARow (.instanceAt ⟨"a", "metallb"⟩) known.turns = 2 := by
    decide +kernel
  refine ⟨hkept.mpr ?_, ?_, ?_⟩
  · exact htwice.trans_ne (by decide)
  · obtain ⟨delay, haction, hdelay⟩ := (hnext "" ⟨{}, [lookUpFails], .ok .ready, o⟩ fleeting rfl
      rfl).1 (.store (.unavailable "down")) rfl rfl
    exact ⟨delay, haction, hdelay.trans (congrArg (fun n => min (2 * Nat.fib (n + 1)) 3) htwice)⟩
  · exact (hnext "" { operator := o } fleeting rfl rfl).2 rfl

/-- The instance is deleted, and all that was due has been worked off. Its failures are kept. When
it is back, its first failure leads to a delay of three seconds, where that of an instance that has
not been there before leads to two. -/
theorem returning_instance_waits_longer :
    let s := (start { operator := .hasty }).run "" (appear 0 ++ disappear ++ workOff)
    s.state.world.store.instances.entries = [] ∧ s.state.known.entries = [] ∧
      s.state.agenda.entries = [] ∧ s.state.results.head? = some .objectNotFound ∧
      s.operator.retries.contains "metallb/a/metallb" = true ∧
      (s.run "" (appear 8)).state.agenda.entries = [(13, ⟨some "a", "metallb"⟩)] ∧
      ((start { operator := .hasty }).run "" (appear 8)).state.agenda.entries =
        [(12, ⟨some "a", "metallb"⟩)] := by
  decide +kernel

end Shift

end Pipeline

end PoolOperator
