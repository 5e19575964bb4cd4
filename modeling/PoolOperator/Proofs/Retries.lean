import PoolOperator.Proofs.Backoff
import PoolOperator.Proofs.Reconcile.Calls
import PoolOperator.Proofs.SortedMap

/-!
# Failures in a row

The failures of all objects are kept in one map, under texts. No two objects share a text, so that
each object waits just as if it were the only one: after its n-th failure in a row for the n-th
Fibonacci number, times the least delay and capped by the greatest one.
-/

namespace PoolOperator

/-! ## Subjects -/

/-- What a pipeline works on: the pools of a namespace, or an instance. -/
inductive Subject where
  | poolsOf (ns : String)
  | instanceAt (key : ObjectKey)
deriving DecidableEq

namespace Subject

/-- The pipeline that works on a subject. -/
def pipeline : Subject → String
  | poolsOf _ => poolPipeline
  | instanceAt _ => instancePipeline

/-- The text by which a pipeline calls its subject. -/
def text : Subject → String
  | poolsOf ns => ns
  | instanceAt key => key.display

/-- The text under which the failures of a subject are kept. -/
def retryKey (x : Subject) : String := Operator.retryKey x.pipeline x.text

/-- Whether the namespace of an instance has no slash. That of pools may have one. -/
def IsPlain : Subject → Prop
  | poolsOf _ => True
  | instanceAt key => '/' ∉ key.ns.toList

instance (x : Subject) : Decidable x.IsPlain := by
  cases x <;> unfold IsPlain <;> infer_instance

theorem toList_retryKey (pipeline object : String) :
    (Operator.retryKey pipeline object).toList = pipeline.toList ++ '/' :: object.toList := by
  show (pipeline ++ "/" ++ object).toList = _
  simp

theorem toList_display (key : ObjectKey) :
    key.display.toList = key.ns.toList ++ '/' :: key.name.toList := by
  show (key.ns ++ "/" ++ key.name).toList = _
  simp

/-- A text without a slash ends at the first slash behind it. -/
theorem append_slash_inj {a b c d : List Char} (ha : '/' ∉ a) (hb : '/' ∉ b)
    (h : a ++ '/' :: c = b ++ '/' :: d) : a = b ∧ c = d := by
  rcases List.append_eq_append_iff.mp h with ⟨l, rfl, hl⟩ | ⟨l, rfl, hl⟩
  · cases l with
    | nil => exact ⟨(List.append_nil a).symm, List.tail_eq_of_cons_eq hl⟩
    | cons x l => simp_all
  · cases l with
    | nil => exact ⟨List.append_nil b, (List.tail_eq_of_cons_eq hl).symm⟩
    | cons x l => simp_all

/-- **No two subjects share a text**, even if a namespace is called like an instance. -/
theorem retryKey_injective {x y : Subject} (hx : x.IsPlain) (hy : y.IsPlain)
    (h : x.retryKey = y.retryKey) : x = y := by
  have hlist : x.pipeline.toList ++ '/' :: x.text.toList =
      y.pipeline.toList ++ '/' :: y.text.toList := by
    rw [← toList_retryKey, ← toList_retryKey]
    exact congrArg String.toList h
  have hslash (x : Subject) : '/' ∉ x.pipeline.toList := by
    cases x with
    | poolsOf ns => exact (by decide : '/' ∉ poolPipeline.toList)
    | instanceAt key => exact (by decide : '/' ∉ instancePipeline.toList)
  obtain ⟨hpipeline, htext⟩ := append_slash_inj (hslash x) (hslash y) hlist
  have hne : poolPipeline.toList ≠ instancePipeline.toList := by decide
  cases x with
  | poolsOf ns =>
    cases y with
    | poolsOf ns' => exact congrArg poolsOf (String.toList_inj.mp htext)
    | instanceAt key => exact absurd hpipeline hne
  | instanceAt key =>
    cases y with
    | poolsOf ns => exact absurd hpipeline.symm hne
    | instanceAt key' =>
      rw [text, text, toList_display, toList_display] at htext
      obtain ⟨hns, hname⟩ := append_slash_inj hx hy htext
      rw [String.toList_inj] at hns hname
      cases key
      cases key'
      cases hns
      cases hname
      rfl

end Subject

/-! ## Turns -/

/-- A turn of a pipeline, and what came of it. -/
structure Turn where
  subject : Subject
  result : Except OperatorError Unit

namespace Turn

/-- Whether a turn has failed for good. -/
def isFatal (t : Turn) : Bool :=
  match t.result with
  | .ok _ => false
  | .error e => e.isFatal

/-- Whether a turn has failed, and may succeed when it is repeated. -/
def isTransient (t : Turn) : Bool :=
  match t.result with
  | .ok _ => false
  | .error e => !e.isFatal

/-- How often a subject has failed since its last success. Failures for good do not count. -/
def failuresInARow (x : Subject) (turns : List Turn) : Nat :=
  ((turns.reverse.filter (·.subject = x)).takeWhile fun t => !t.result.isOk).countP isTransient

/-- The last turn on a subject, apart from those that have failed for good. -/
def lastOn? (x : Subject) (turns : List Turn) : Option Turn :=
  (turns.filter fun t => t.subject = x && !t.isFatal).getLast?

section Append

variable {x : Subject} {turns : List Turn} {t : Turn}

theorem failuresInARow_of_ne (h : t.subject ≠ x) :
    failuresInARow x (turns ++ [t]) = failuresInARow x turns := by
  simp [failuresInARow, h]

theorem failuresInARow_append_of_ne {others : List Turn} (h : ∀ t ∈ others, t.subject ≠ x) :
    failuresInARow x (turns ++ others) = failuresInARow x turns := by
  have hnone : others.reverse.filter (·.subject = x) = [] := by
    refine List.filter_eq_nil_iff.mpr fun t ht => ?_
    simpa using h t (List.mem_reverse.mp ht)
  rw [failuresInARow, failuresInARow, List.reverse_append, List.filter_append, hnone,
    List.nil_append]

theorem failuresInARow_of_ok (h : t.subject = x) (hresult : t.result = .ok ()) :
    failuresInARow x (turns ++ [t]) = 0 := by
  simp [failuresInARow, h, hresult, Except.isOk, Except.toBool]

theorem failuresInARow_of_error (h : t.subject = x) {e : OperatorError}
    (hresult : t.result = .error e) :
    failuresInARow x (turns ++ [t]) =
      failuresInARow x turns + if e.isFatal then 0 else 1 := by
  have htransient : t.isTransient = !e.isFatal := by rw [isTransient, hresult]
  cases hfatal : e.isFatal <;>
    simp [failuresInARow, h, hresult, htransient, hfatal, Except.isOk, Except.toBool]

theorem lastOn?_of_settled (h : t.subject = x) (hfatal : t.isFatal = false) :
    lastOn? x (turns ++ [t]) = some t := by
  simp [lastOn?, h, hfatal]

theorem lastOn?_of_fatal (hfatal : t.isFatal = true) :
    lastOn? x (turns ++ [t]) = lastOn? x turns := by
  simp [lastOn?, hfatal]

theorem lastOn?_of_ne (h : t.subject ≠ x) : lastOn? x (turns ++ [t]) = lastOn? x turns := by
  simp [lastOn?, h]

end Append

/-- A subject has failures in a row just if its last turn has failed. -/
theorem failuresInARow_ne_zero_iff (x : Subject) (turns : List Turn) :
    failuresInARow x turns ≠ 0 ↔ ∃ t, lastOn? x turns = some t ∧ t.result.isOk = false := by
  induction turns using List.reverseRecOn with
  | nil => simp [failuresInARow, lastOn?]
  | append_singleton turns t ih =>
    by_cases hsubject : t.subject = x
    · cases hresult : t.result with
      | ok u =>
        have hfatal : t.isFatal = false := by rw [isFatal, hresult]
        rw [failuresInARow_of_ok hsubject hresult, lastOn?_of_settled hsubject hfatal]
        simp [hresult, Except.isOk, Except.toBool]
      | error e =>
        have hfatal : t.isFatal = e.isFatal := by rw [isFatal, hresult]
        rw [failuresInARow_of_error hsubject hresult]
        cases he : e.isFatal with
        | true =>
          rw [lastOn?_of_fatal (hfatal.trans he), if_pos rfl, Nat.add_zero]
          exact ih
        | false =>
          rw [lastOn?_of_settled hsubject (hfatal.trans he)]
          simp [hresult, Except.isOk, Except.toBool]
    · rw [failuresInARow_of_ne hsubject, lastOn?_of_ne hsubject]
      exact ih

end Turn

/-! ## What is kept -/

namespace Operator

/-- What is kept of a number of failures in a row. -/
def kept (settings : Settings) (failures : Nat) : Option Retries :=
  if failures = 0 then none
  else some ⟨.after settings.backoffLeast settings.backoffGreatest failures, failures⟩

/-- The operator after a turn. -/
def note (o : Operator) (t : Turn) : Operator :=
  match t.result with
  | .ok _ => o.afterSuccess t.subject.pipeline t.subject.text
  | .error e => (o.afterFailure t.subject.pipeline t.subject.text e).2

variable {o o' : Operator} {settings : Settings} {n : Nat} {key : String} {t : Turn}
  {turns : List Turn} {e : OperatorError}

theorem retriesOf_of_kept (h : o.retries.get? key = kept o.settings n) :
    o.retriesOf key = ⟨.after o.settings.backoffLeast o.settings.backoffGreatest n, n⟩ := by
  rw [retriesOf, h, kept]
  split
  · rename_i hzero
    rw [hzero]
    rfl
  · rfl

theorem contains_iff_of_kept (h : o.retries.get? key = kept settings n) :
    o.retries.contains key = true ↔ n ≠ 0 := by
  rw [SortedMap.contains, h, kept]
  by_cases hzero : n = 0
  · rw [if_pos hzero]
    exact iff_of_false Bool.false_ne_true (absurd hzero)
  · rw [if_neg hzero]
    exact iff_of_true rfl hzero

/-- A failure is counted before the delay is taken. -/
theorem nextDelay_countFailure_eq (o : Operator) (key : String) :
    ((o.countFailure key).nextDelay key).1 =
        ((o.retriesOf key).backoff.next.1, (o.retriesOf key).failures + 1) ∧
      ∀ j, ((o.countFailure key).nextDelay key).2.retries.get? j =
        if j = key then
          some ⟨(o.retriesOf key).backoff.next.2, (o.retriesOf key).failures + 1⟩
        else o.retries.get? j := by
  have hcounted : (o.countFailure key).retriesOf key =
      ⟨(o.retriesOf key).backoff, (o.retriesOf key).failures + 1⟩ := by
    rw [countFailure, retriesOf, SortedMap.get?_insert_self]
    rfl
  unfold nextDelay
  rw [hcounted]
  refine ⟨rfl, ?_⟩
  intro j
  show ((o.retries.insert key _).insert key _).get? j = _
  rw [SortedMap.get?_insert, SortedMap.get?_insert]
  split <;> rfl

theorem nextDelay_countFailure (h : o.retries.get? key = kept o.settings n) :
    ((o.countFailure key).nextDelay key).1 =
        ((Backoff.after o.settings.backoffLeast o.settings.backoffGreatest n).next.1, n + 1) ∧
      ∀ j, ((o.countFailure key).nextDelay key).2.retries.get? j =
        if j = key then kept o.settings (n + 1) else o.retries.get? j := by
  have hdelay := nextDelay_countFailure_eq o key
  rw [retriesOf_of_kept h] at hdelay
  exact hdelay

theorem afterFailure_of_fatal (he : e.isFatal = true) (pipeline object : String) :
    (o.afterFailure pipeline object e).1 = .awaitChange ∧
      (o.afterFailure pipeline object e).2.retries = o.retries := by
  rw [afterFailure, if_pos he]
  exact ⟨rfl, rfl⟩

theorem afterFailure_of_not_fatal (he : e.isFatal = false) (pipeline object : String) :
    (o.afterFailure pipeline object e).1 =
        .requeue ((o.countFailure (retryKey pipeline object)).nextDelay
          (retryKey pipeline object)).1.1 ∧
      (o.afterFailure pipeline object e).2.retries =
        ((o.countFailure (retryKey pipeline object)).nextDelay
          (retryKey pipeline object)).2.retries := by
  rw [afterFailure, he]
  exact ⟨rfl, rfl⟩

/-- The next failure in a row leads to the next delay. -/
theorem delay_of_kept {x : Subject} (h : o.retries.get? x.retryKey = kept o.settings n)
    (he : e.isFatal = false) :
    ∃ delay, (o.afterFailure x.pipeline x.text e).1 = .requeue delay ∧
      delay.toNat =
        min (o.settings.backoffLeast.toNat * Nat.fib (n + 1)) o.settings.backoffGreatest.toNat := by
  refine ⟨_, (afterFailure_of_not_fatal he _ _).1, ?_⟩
  show ((o.countFailure x.retryKey).nextDelay x.retryKey).1.1.toNat = _
  rw [(nextDelay_countFailure h).1]
  exact Backoff.toNat_delay _ _ _

/-- What is counted besides has no part in it. -/
theorem afterFailure_of_metrics {metrics : Metrics} (h : o' = { o with metrics := metrics })
    (pipeline object : String) (e : OperatorError) :
    (o'.afterFailure pipeline object e).1 = (o.afterFailure pipeline object e).1 ∧
      (o'.afterFailure pipeline object e).2.retries =
        (o.afterFailure pipeline object e).2.retries := by
  rw [h, afterFailure, afterFailure]
  split <;> exact ⟨rfl, rfl⟩

theorem settings_note (o : Operator) (t : Turn) : (o.note t).settings = o.settings := by
  unfold note
  cases t.result with
  | ok _ => rfl
  | error e =>
    dsimp only
    unfold afterFailure
    split <;> rfl

/-- A turn concerns what is kept for its subject and nothing else. -/
theorem get?_note
    (h : o.retries.get? t.subject.retryKey =
      kept o.settings (Turn.failuresInARow t.subject turns)) (key : String) :
    (o.note t).retries.get? key =
      if key = t.subject.retryKey then
        kept o.settings (Turn.failuresInARow t.subject (turns ++ [t]))
      else o.retries.get? key := by
  cases hresult : t.result with
  | ok u =>
    rw [note, hresult, Turn.failuresInARow_of_ok rfl hresult]
    show (o.retries.erase t.subject.retryKey).get? key = _
    rw [SortedMap.get?_erase]
    rfl
  | error e =>
    rw [note, hresult, Turn.failuresInARow_of_error rfl hresult]
    dsimp only
    cases he : e.isFatal with
    | true =>
      rw [(afterFailure_of_fatal he _ _).2, if_pos rfl, Nat.add_zero]
      split
      · rename_i heq
        rw [heq]
        exact h
      · rfl
    | false =>
      rw [(afterFailure_of_not_fatal he _ _).2]
      exact (nextDelay_countFailure h).2 key

/-- Whether an operator has some settings, and keeps for every subject what turns say of it. -/
structure Remembers (o : Operator) (settings : Settings) (turns : List Turn) : Prop where
  settings_eq : o.settings = settings
  retries (x : Subject) (hx : x.IsPlain) :
    o.retries.get? x.retryKey = kept settings (Turn.failuresInARow x turns)
  subject (key : String) (hkey : o.retries.get? key ≠ none) :
    ∃ x : Subject, x.IsPlain ∧ x.retryKey = key

theorem remembers_nil (h : o.retries = ∅) : o.Remembers o.settings [] := by
  refine ⟨rfl, ?_, ?_⟩
  · intro x _
    rw [h]
    rfl
  · intro key hkey
    rw [h] at hkey
    exact absurd rfl hkey

/-- What is counted besides makes no difference. -/
theorem Remembers.of_eq (h : o.Remembers settings turns) (hsettings : o'.settings = o.settings)
    (hretries : o'.retries = o.retries) : o'.Remembers settings turns := by
  refine ⟨hsettings.trans h.settings_eq, ?_, ?_⟩
  · rw [hretries]
    exact h.retries
  · rw [hretries]
    exact h.subject

theorem Remembers.note (h : o.Remembers settings turns) (ht : t.subject.IsPlain) :
    (o.note t).Remembers settings (turns ++ [t]) := by
  obtain ⟨rfl, hretries, hsubjects⟩ := h
  have hget := get?_note (hretries t.subject ht)
  refine ⟨settings_note o t, ?_, ?_⟩
  · intro x hx
    rw [hget]
    by_cases hsubject : t.subject = x
    · rw [hsubject, if_pos rfl]
    · -- the text of another subject is another text
      have hne : x.retryKey ≠ t.subject.retryKey := fun heq =>
        hsubject (Subject.retryKey_injective hx ht heq).symm
      rw [if_neg hne, Turn.failuresInARow_of_ne hsubject]
      exact hretries x hx
  · intro key hkey
    rw [hget] at hkey
    split at hkey
    · rename_i heq
      exact ⟨t.subject, ht, heq.symm⟩
    · exact hsubjects key hkey

end Operator

/-! ## Turns of a world -/

namespace World

/-- Whether a turn on a subject has been noted: the operator has changed as by a note, but for what
has been counted, and a failure leads to the action that it has to lead to. -/
structure Noted (o : Operator) (x : Subject) (r : Except OperatorError Unit × Action × World) :
    Prop where
  settings : r.2.2.operator.settings = (o.note ⟨x, r.1⟩).settings
  retries : r.2.2.operator.retries = (o.note ⟨x, r.1⟩).retries
  action (e : OperatorError) (h : r.1 = .error e) :
    r.2.1 = (o.afterFailure x.pipeline x.text e).1

theorem noted_of_error {o : Operator} (x : Subject) {w : World} {metrics : Metrics}
    (h : w.operator = { o with metrics := metrics }) (e : OperatorError) :
    Noted o x (conclude x.pipeline x.text (.error e, w)) := by
  obtain ⟨haction, hretries⟩ := Operator.afterFailure_of_metrics h x.pipeline x.text e
  refine ⟨?_, hretries, ?_⟩
  · show (w.operator.note ⟨x, .error e⟩).settings = _
    rw [Operator.settings_note, Operator.settings_note, h]
  · intro e' he'
    cases he'
    exact haction

theorem noted_of_ok {o : Operator} (x : Subject) {w : World} {metrics : Metrics}
    (h : w.operator = { o with metrics := metrics }) (action : Action) :
    Noted o x (conclude x.pipeline x.text
      (.ok action, { w with operator := w.operator.afterSuccess x.pipeline x.text })) := by
  rw [h]
  exact ⟨rfl, rfl, nofun⟩

theorem noted_turnOnNamespaceIn (order : List AddressPool → List AddressPool) (now : String)
    (w : World) (n : Namespace) :
    Noted w.operator (.poolsOf n.metadata.anyName) (w.turnOnNamespaceIn order now n) := by
  obtain ⟨metrics, h⟩ := w.operator_run order (.aggregate now w.attempts n.metadata.anyName)
  rcases w.turnOnNamespaceIn_cases order now n with ⟨e, -, hturn⟩ | ⟨outcome, -, hturn⟩
  · rw [hturn]
    exact noted_of_error (.poolsOf n.metadata.anyName) h e
  · rw [hturn]
    exact noted_of_ok (.poolsOf n.metadata.anyName) h _

theorem noted_turnOnInstance (now : String) (w : World) (i : Instance) :
    Noted w.operator (.instanceAt (w.keyOfInstance i)) (w.turnOnInstance now i) := by
  obtain ⟨metrics, h⟩ := w.operator_run id (.validate now w.attempts (w.keyOfInstance i))
  rw [← perform_eq] at h
  rcases w.turnOnInstance_cases now i with ⟨e, -, hturn⟩ | ⟨state, -, hturn⟩
  · rw [hturn]
    exact noted_of_error (.instanceAt (w.keyOfInstance i)) h e
  · rw [hturn]
    exact noted_of_ok (.instanceAt (w.keyOfInstance i)) h _

end World

/-! ## Any number of turns -/

namespace Operator

variable {o o' : Operator} {turns : List Turn}

/-- What an operator may become by turns: those that are noted, and those that a world makes. What
happens to the world between two turns is left open, and each merge may list pools in an order of its
own. -/
inductive After (o : Operator) : List Turn → Operator → Prop where
  | start : After o [] o
  | noted {turns : List Turn} {o' : Operator} (h : After o turns o') (t : Turn) :
      After o (turns ++ [t]) (o'.note t)
  | onNamespace {turns : List Turn} {w : World} (h : After o turns w.operator)
      (order : List AddressPool → List AddressPool) (now : String) (n : Namespace) :
      After o (turns ++ [⟨.poolsOf n.metadata.anyName, (w.turnOnNamespaceIn order now n).1⟩])
        (w.turnOnNamespaceIn order now n).2.2.operator
  | onInstance {turns : List Turn} {w : World} (h : After o turns w.operator) (now : String)
      (i : Instance) :
      After o (turns ++ [⟨.instanceAt (w.keyOfInstance i), (w.turnOnInstance now i).1⟩])
        (w.turnOnInstance now i).2.2.operator

theorem After.remembers (h : o.After turns o') (hstart : o.retries = ∅)
    (hplain : ∀ t ∈ turns, t.subject.IsPlain) : o'.Remembers o.settings turns := by
  have hlast {turns : List Turn} {t : Turn} (hplain : ∀ u ∈ turns ++ [t], u.subject.IsPlain) :
      (∀ u ∈ turns, u.subject.IsPlain) ∧ t.subject.IsPlain :=
    ⟨fun u hu => hplain u (List.mem_append_left _ hu),
      hplain t (List.mem_append_right _ List.mem_cons_self)⟩
  induction h with
  | start => exact remembers_nil hstart
  | noted _ t ih =>
    obtain ⟨hturns, ht⟩ := hlast hplain
    exact (ih hturns).note ht
  | @onNamespace _ w _ order now n ih =>
    obtain ⟨hturns, ht⟩ := hlast hplain
    have hnoted := World.noted_turnOnNamespaceIn order now w n
    exact ((ih hturns).note ht).of_eq hnoted.settings hnoted.retries
  | @onInstance _ w _ now i ih =>
    obtain ⟨hturns, ht⟩ := hlast hplain
    have hnoted := World.noted_turnOnInstance now w i
    exact ((ih hturns).note ht).of_eq hnoted.settings hnoted.retries

/-- What is kept is kept for those whose last turn has failed. -/
theorem Remembers.contains_iff {settings : Settings} (h : o.Remembers settings turns)
    (key : String) : o.retries.contains key = true ↔ ∃ x t, x.IsPlain ∧ x.retryKey = key ∧
      Turn.lastOn? x turns = some t ∧ t.result.isOk = false := by
  constructor
  · intro hkey
    obtain ⟨x, hx, rfl⟩ := h.subject key (Option.isSome_iff_ne_none.mp hkey)
    rw [contains_iff_of_kept (h.retries x hx), Turn.failuresInARow_ne_zero_iff] at hkey
    obtain ⟨t, hlast, hfailed⟩ := hkey
    exact ⟨x, t, hx, rfl, hlast, hfailed⟩
  · rintro ⟨x, t, hx, rfl, hlast, hfailed⟩
    rw [contains_iff_of_kept (h.retries x hx), Turn.failuresInARow_ne_zero_iff]
    exact ⟨t, hlast, hfailed⟩

/-- **Each object waits by itself.** After any turns, the n-th failure of an object in a row leads to
the n-th delay and is counted as the n-th, whatever has become of other objects. A failure for good
leads to no delay and is not counted. Failures are kept just for the objects whose last turn has
failed. A turn of a world takes the action that its failure leads to. -/
theorem delays_per_object (h : o.After turns o') (hstart : o.retries = ∅)
    (hplain : ∀ t ∈ turns, t.subject.IsPlain) :
    (∀ (x : Subject) (e : OperatorError), x.IsPlain →
      let n := Turn.failuresInARow x turns + 1
      let failed := o'.afterFailure x.pipeline x.text e
      (e.isFatal = false → ∃ delay, failed.1 = .requeue delay ∧
        delay.toNat =
          min (o.settings.backoffLeast.toNat * Nat.fib n) o.settings.backoffGreatest.toNat ∧
        ((o'.countFailure x.retryKey).nextDelay x.retryKey).1 = (delay, n)) ∧
      (e.isFatal = true → failed.1 = .awaitChange ∧ failed.2.retries = o'.retries)) ∧
    (∀ key, o'.retries.contains key = true ↔ ∃ x t, x.IsPlain ∧ x.retryKey = key ∧
      Turn.lastOn? x turns = some t ∧ t.result.isOk = false) ∧
    ∀ (w : World) (now : String), w.operator = o' →
      (∀ order n e, (w.turnOnNamespaceIn order now n).1 = .error e →
        (w.turnOnNamespaceIn order now n).2.1 =
          (o'.afterFailure poolPipeline n.metadata.anyName e).1) ∧
      ∀ i e, (w.turnOnInstance now i).1 = .error e →
        (w.turnOnInstance now i).2.1 =
          (o'.afterFailure instancePipeline (w.keyOfInstance i).display e).1 := by
  have hremembers := h.remembers hstart hplain
  refine ⟨?_, hremembers.contains_iff, ?_⟩
  · intro x e hx n failed
    refine ⟨?_, fun he => afterFailure_of_fatal he _ _⟩
    intro he
    have hkept : o'.retries.get? x.retryKey = kept o'.settings (Turn.failuresInARow x turns) := by
      rw [hremembers.settings_eq]
      exact hremembers.retries x hx
    have hdelay := (nextDelay_countFailure hkept).1
    rw [hremembers.settings_eq] at hdelay
    refine ⟨_, (afterFailure_of_not_fatal he _ _).1, ?_, ?_⟩
    · show ((o'.countFailure x.retryKey).nextDelay x.retryKey).1.1.toNat = _
      rw [hdelay]
      exact Backoff.toNat_delay _ _ _
    · show ((o'.countFailure x.retryKey).nextDelay x.retryKey).1 =
        (((o'.countFailure x.retryKey).nextDelay x.retryKey).1.1, n)
      rw [hdelay]
  · rintro w now rfl
    exact ⟨fun order n => (World.noted_turnOnNamespaceIn order now w n).action,
      fun i => (World.noted_turnOnInstance now w i).action⟩

/-- Turns that are noted one after another. -/
theorem after_foldl (o : Operator) (turns : List Turn) : o.After turns (turns.foldl note o) := by
  induction turns using List.reverseRecOn with
  | nil => exact .start
  | append_singleton turns t ih =>
    rw [List.foldl_append]
    exact ih.noted t

/-- Delays of two seconds, three at most. -/
def hasty : Operator where
  settings := {
    ns := "a"
    resync := 300
    maxAttempts := 5
    backoffLeast := 2
    backoffGreatest := 3
    bindAddress := ⟨.v4 ⟨0⟩, 0, 8081⟩ }

/-- The pools of a namespace that is called like an instance. -/
def namesakes : Subject × Subject := (.poolsOf "a/b", .instanceAt ⟨"a", "b"⟩)

/-- Failures of both, a success of the instance, and a failure of the pools for good. -/
def mingled : List Turn := [
  ⟨namesakes.1, .error (.watch "late")⟩,
  ⟨namesakes.2, .error (.watch "late")⟩,
  ⟨namesakes.1, .error (.watch "late")⟩,
  ⟨namesakes.2, .ok ()⟩,
  ⟨namesakes.1, .error (.invalidSettings "none")⟩]

/-- The pools fail for the third time and wait for three seconds. The instance fails for the first
time and waits for two. A failure for good does not make the operator forget the others. -/
theorem delays_per_object_namesakes :
    let o := mingled.foldl note hasty
    (∃ delay, (o.afterFailure poolPipeline "a/b" (.watch "late")).1 = .requeue delay ∧
      delay.toNat = 3) ∧
    (∃ delay, (o.afterFailure instancePipeline "a/b" (.watch "late")).1 = .requeue delay ∧
      delay.toNat = 2) ∧
    o.retries.contains namesakes.1.retryKey = true := by
  intro o
  have hplain : ∀ t ∈ mingled, t.subject.IsPlain := by decide
  obtain ⟨hdelays, hkept, -⟩ := delays_per_object (after_foldl hasty mingled) rfl hplain
  have hpools : Turn.failuresInARow namesakes.1 mingled = 2 := by decide
  have hinstance : Turn.failuresInARow namesakes.2 mingled = 0 := by decide
  refine ⟨?_, ?_, ?_⟩
  · obtain ⟨delay, haction, hdelay, -⟩ := (hdelays namesakes.1 (.watch "late") trivial).1 rfl
    rw [hpools] at hdelay
    exact ⟨delay, haction, hdelay⟩
  · obtain ⟨delay, haction, hdelay, -⟩ := (hdelays namesakes.2 (.watch "late") (by decide)).1 rfl
    rw [hinstance] at hdelay
    exact ⟨delay, haction, hdelay⟩
  · exact (hkept _).mpr
      ⟨namesakes.1, ⟨namesakes.1, .error (.watch "late")⟩, trivial, rfl, rfl, rfl⟩

end Operator

end PoolOperator
