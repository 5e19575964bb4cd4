import PoolOperator.Proofs.Api.Reply
import PoolOperator.Proofs.Task

/-!
# Tasks over an API

The calls of a task are answered by the responses of a server, whatever these are. Every call is
noted with the response that has come to it, so that what a task comes to can be read off its calls.
-/

namespace PoolOperator

namespace Api

/-- A call that has been made, and the response to it, unless none has come. -/
structure Contact where
  call : StoreCall
  response : Option Response

namespace Contact

/-- Whether a call has been answered by a failure that the server describes. -/
def IsRefused (c : Contact) (failure : ApiError) : Prop :=
  ∃ r, c.response = some r ∧ r.Refuses failure

/-- Whether a call has been refused because something is missing. -/
def IsMissing (c : Contact) : Prop := ∃ failure, c.IsRefused failure ∧ failure.code = 404

/-- Whether a call has been refused because of a newer version. A look-up that finds nothing is not
refused, whatever its code. -/
def IsConflict (c : Contact) : Prop := ∃ failure, c.IsRefused failure ∧ failure.code = 409 ∧
  (c.call.IsLookUp → failure.reason ≠ "NotFound")

/-- What a call may be answered with. Without a response it fails, but neither for good nor because
of a newer version. -/
inductive Brings (c : Contact) : Except StoreError c.call.Reply → Prop where
  | heard {r : Response} (hresponse : c.response = some r) : Brings c (replyTo r c.call)
  | unheard (hresponse : c.response = none) {e : StoreError} (hfatal : e.isFatal = false)
      (hconflict : e.isConflict = false) : Brings c (.error e)

variable {c : Contact} {reply : Except StoreError c.call.Reply}

theorem isRefused_of_response {r : Response} (h : c.response = some r) {failure : ApiError} :
    c.IsRefused failure ↔ r.Refuses failure := by
  constructor
  · rintro ⟨r', h', hrefuses⟩
    rw [h] at h'
    cases h'
    exact hrefuses
  · intro hrefuses
    exact ⟨r, h, hrefuses⟩

theorem not_isRefused_of_response (h : c.response = none) {failure : ApiError} :
    ¬c.IsRefused failure := by
  rintro ⟨r, h', -⟩
  rw [h] at h'
  cases h'

/-- A call fails for good just if it is a list of what is missing. -/
theorem Brings.fails_isFatal (h : c.Brings reply) :
    Fails reply StoreError.isFatal ↔ c.call.IsListing ∧ c.IsMissing := by
  unfold IsMissing
  cases h with
  | heard hresponse =>
    simp only [isRefused_of_response hresponse]
    exact fails_replyTo_isFatal _ c.call
  | unheard hresponse hfatal _ =>
    rw [fails_error, hfatal]
    refine iff_of_false Bool.false_ne_true ?_
    rintro ⟨-, failure, hrefused, -⟩
    exact not_isRefused_of_response hresponse hrefused

theorem Brings.fails_isConflict (h : c.Brings reply) :
    Fails reply StoreError.isConflict ↔ c.IsConflict := by
  unfold IsConflict
  cases h with
  | heard hresponse =>
    simp only [isRefused_of_response hresponse]
    exact fails_replyTo_isConflict _ c.call
  | unheard hresponse _ hconflict =>
    rw [fails_error, hconflict]
    refine iff_of_false Bool.false_ne_true ?_
    rintro ⟨failure, hrefused, -⟩
    exact not_isRefused_of_response hresponse hrefused

theorem Brings.fails_isNotFound (h : c.Brings reply) (hcall : c.call.IsDelete)
    (hmissing : c.IsMissing) : Fails reply StoreError.isNotFound := by
  obtain ⟨failure, ⟨r, hresponse, hrefuses⟩, hcode⟩ := hmissing
  cases h with
  | heard hresponse' =>
    rw [hresponse] at hresponse'
    cases hresponse'
    exact fails_replyTo_isNotFound hrefuses hcode hcall
  | unheard hnone =>
    rw [hresponse] at hnone
    cases hnone

end Contact

/-! ## Requests that are not made -/

section Request

variable {call : StoreCall} {e : StoreError} {watchNs : String}

/-- Why a request is not made: it cannot be put into words, or its object has no name. -/
inductive IsUnmade : StoreError → Prop where
  | unanswered : IsUnmade unanswered
  | invalidObject (detail : String) : IsUnmade (.invalidObject detail)

theorem IsUnmade.isFatal (h : IsUnmade e) : e.isFatal = false := by
  cases h <;> rfl

theorem IsUnmade.isConflict (h : IsUnmade e) : e.isConflict = false := by
  cases h <;> rfl

theorem isUnmade_of_request {method : Method} {target : String} {contentType : Option String}
    {body : Option Json} (h : request method target contentType body = .error e) : IsUnmade e := by
  unfold request at h
  split at h <;> cases h
  exact .unanswered

theorem isUnmade_of_naming {collection : Collection} {key : ObjectKey}
    {build : String → Except StoreError Request}
    (hbuild : ∀ target, build target = .error e → IsUnmade e)
    (h : naming collection key build = .error e) : IsUnmade e := by
  unfold naming at h
  split at h
  · cases h
    exact .unanswered
  · exact hbuild _ h

/-- The same of a request about an object that is to be written over. -/
theorem isUnmade_of_keyOf {collection : Collection} {md : ObjectMeta}
    {next : ObjectKey → Except StoreError Request} (hnext : ∀ key, next key = .error e → IsUnmade e)
    (h : (keyOf collection watchNs md >>= next) = .error e) : IsUnmade e := by
  cases hkey : keyOf collection watchNs md with
  | error e' =>
    rw [hkey] at h
    cases h
    unfold keyOf at hkey
    split at hkey <;> cases hkey
    exact .invalidObject _
  | ok key =>
    rw [hkey] at h
    exact hnext key h

theorem isUnmade_of_requestFor (h : requestFor watchNs call = .error e) : IsUnmade e := by
  cases call with
  | listPools | listInstances => exact isUnmade_of_request h
  | createPool | createConfigMap | createInstance => exact isUnmade_of_request h
  | getPool | getConfigMap | getInstance =>
    rw [requestFor] at h
    exact isUnmade_of_naming (fun _ => isUnmade_of_request) h
  | deletePool | deleteConfigMap | deleteInstance =>
    rw [requestFor, deleting] at h
    exact isUnmade_of_naming (fun _ => isUnmade_of_request) h
  | replacePool | replaceConfigMap =>
    rw [requestFor, replacing] at h
    exact isUnmade_of_keyOf (fun _ => isUnmade_of_naming fun _ => isUnmade_of_request) h
  | patchPoolStatus | patchInstanceStatus =>
    rw [requestFor, patching] at h
    exact isUnmade_of_keyOf (fun _ => isUnmade_of_naming fun _ => isUnmade_of_request) h

end Request

/-! ## Dialogues -/

/-- The response that comes to a call. -/
def Client.response? (client : Client) (call : StoreCall) : Option Response :=
  match requestFor client.watchNs call with
  | .error _ => none
  | .ok _ => client.responses.head?

theorem Client.brings_answer (client : Client) (call : StoreCall) :
    Contact.Brings ⟨call, client.response? call⟩ (client.answer call).1 := by
  unfold Client.response? Client.answer
  cases hrequest : requestFor client.watchNs call with
  | error e =>
    have hunmade := isUnmade_of_requestFor hrequest
    exact .unheard rfl hunmade.isFatal hunmade.isConflict
  | ok request =>
    cases client.responses with
    | nil => exact .unheard rfl rfl rfl
    | cons r rest => exact .heard rfl

/-- A client and the calls that have been made of it, the first one first. -/
structure Dialogue where
  client : Client
  log : List Contact := []

/-- The answer to a request of a task. -/
def Dialogue.answer (probe : Instance → Except OperatorError Readiness)
    (request : PoolOperator.Request) (d : Dialogue) : request.Reply × Dialogue :=
  match request with
  | .store call =>
    let (reply, client) := d.client.answer call
    (reply, ⟨client, d.log ++ [⟨call, d.client.response? call⟩]⟩)
  | .probe object => (probe object, d)
  | .countWrite _ => ((), d)

end Api

open Api

/-! ## What holds of all dialogues -/

/-- What holds of the calls of a task and of its result, whatever responses come. Probes do not fail
for good. -/
def Task.Hears {α : Type} : (List Contact → α → Prop) → Task α → Prop
  | P, .done a => P [] a
  | P, .ask (.store call) next => ∀ response reply, Contact.Brings ⟨call, response⟩ reply →
    (next reply).Hears fun log a => P (⟨call, response⟩ :: log) a
  | P, .ask (.probe _) next => ∀ reply, ¬Fails reply OperatorError.isFatal → (next reply).Hears P
  | P, .ask (.countWrite _) next => (next ()).Hears P

namespace Task

variable {α β : Type} {P P' : List Contact → α → Prop} {t : Task α}

theorem Hears.mono (h : t.Hears P) (himp : ∀ log a, P log a → P' log a) : t.Hears P' := by
  induction t generalizing P P' with
  | done a => exact himp [] a h
  | ask request next ih =>
    cases request with
    | store call =>
      intro response reply hreply
      exact ih reply (h response reply hreply) fun log a => himp _ a
    | probe object => exact fun reply hreply => ih reply (h reply hreply) himp
    | countWrite operation => exact ih () h himp

theorem Hears.and (h : t.Hears P) (h' : t.Hears P') : t.Hears fun log a => P log a ∧ P' log a := by
  induction t generalizing P P' with
  | done a => exact ⟨h, h'⟩
  | ask request next ih =>
    cases request with
    | store call =>
      intro response reply hreply
      exact ih reply (h response reply hreply) (h' response reply hreply)
    | probe object => exact fun reply hreply => ih reply (h reply hreply) (h' reply hreply)
    | countWrite operation => exact ih () h h'

theorem hears_bind {P : List Contact → β → Prop} {f : α → Task β}
    (h : t.Hears fun log a => (f a).Hears fun log' b => P (log ++ log') b) :
    (t >>= f).Hears P := by
  induction t generalizing P with
  | done a => exact h
  | ask request next ih =>
    cases request with
    | store call =>
      intro response reply hreply
      exact ih reply (h response reply hreply)
    | probe object => exact fun reply hreply => ih reply (h reply hreply)
    | countWrite operation => exact ih () h

/-- A task hears what comes of its first call, and goes on. -/
theorem hears_call_bind {call : StoreCall} {f : Except StoreError call.Reply → Task α}
    (h : ∀ response reply, Contact.Brings ⟨call, response⟩ reply →
      (f reply).Hears fun log a => P (⟨call, response⟩ :: log) a) :
    (Task.call call >>= f).Hears P :=
  fun response reply hreply => h response reply hreply

/-- The calls of a task are those that it makes whatever it is answered. -/
theorem Only.hears {R : PoolOperator.Request → Prop} (h : t.Only R) :
    t.Hears fun log _ => ∀ c ∈ log, R (.store c.call) := by
  induction t with
  | done a => exact fun _ hc => nomatch hc
  | ask request next ih =>
    cases request with
    | store call =>
      intro response reply _
      exact (ih reply (h.2 reply)).mono fun log a hlog => List.forall_mem_cons.mpr ⟨h.1, hlog⟩
    | probe object => exact fun reply _ => ih reply (h.2 reply)
    | countWrite operation => exact ih () (h.2 ())

/-- What holds of all dialogues holds of each. -/
theorem Hears.run {probe : Instance → Except OperatorError Readiness}
    (hprobe : ∀ object, ¬Fails (probe object) OperatorError.isFatal) (h : t.Hears P)
    (d : Dialogue) : ∃ log, (t.run (Dialogue.answer probe) d).2.log = d.log ++ log ∧
      P log (t.run (Dialogue.answer probe) d).1 := by
  induction t generalizing P d with
  | done a => exact ⟨[], (List.append_nil _).symm, h⟩
  | ask request next ih =>
    cases request with
    | store call =>
      obtain ⟨log, hlog, hresult⟩ := ih _ (h _ _ (d.client.brings_answer call))
        (Dialogue.answer probe (.store call) d).2
      exact ⟨⟨call, d.client.response? call⟩ :: log, hlog.trans (List.append_assoc ..), hresult⟩
    | probe object => exact ih _ (h _ (hprobe object)) d
    | countWrite operation => exact ih () h d

end Task

end PoolOperator
