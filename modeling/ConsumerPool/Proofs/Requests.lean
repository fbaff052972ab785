import ConsumerPool.Pool.Basic
import ConsumerPool.Queue.Client
import Mathlib.Data.List.Forall2

/-! # The Requests of a Client

  A client exists only for parameters within the limits of the service, so all it has to
  look at are the arguments of a call. A call that fits them is one request with these
  arguments, and its result is the answer; a call that does not fails without one. All
  errors of a call are of its kind. -/

namespace ConsumerPool

/-- Whether the service takes an operation: it hands out one to ten messages at once, and
    waits for twenty seconds at most. -/
def Operation.WithinLimits : Operation → Prop
  | .receive maxMessages waitSeconds =>
    1 ≤ maxMessages ∧ maxMessages ≤ 10 ∧ 0 ≤ waitSeconds ∧ waitSeconds ≤ 20
  | .delete _ | .send _ => True

/-- Parameters without a fault have an address, and two numbers within the limits. -/
theorem QueueParams.limits_of_accepted {params : QueueParams} (h : params.fault? = none) :
    params.url ≠ "" ∧ (1 ≤ params.maxMessages ∧ params.maxMessages ≤ 10) ∧
      (0 ≤ params.waitSeconds ∧ params.waitSeconds ≤ 20) := by
  unfold QueueParams.fault? at h
  split at h
  · cases h
  · next hurl =>
    split at h
    · cases h
    · next hmax =>
      split at h
      · cases h
      · next hwait => exact ⟨hurl, not_not.mp hmax, not_not.mp hwait⟩

namespace QueueClient

/-! ### What calls are about -/

namespace Call

/-- Whether the service can be asked: no more messages are to be received than the
    parameters allow, and at least one; a message to delete has a handle. -/
def Fits (params : QueueParams) : Call → Prop
  | .receive limit _ => 1 ≤ limit ∧ limit ≤ params.maxMessages
  | .delete message _ => ∃ handle, message.handle = some handle
  | .send _ _ => True

instance (params : QueueParams) : (c : Call) → Decidable (c.Fits params)
  | .receive limit _ => inferInstanceAs (Decidable (1 ≤ limit ∧ limit ≤ params.maxMessages))
  | .delete message _ => decidable_of_iff (message.handle.isSome = true) Option.isSome_iff_exists
  | .send _ _ => .isTrue trivial

/-- Whether an operation is the one that a call is for, with its arguments. -/
def Asks (params : QueueParams) : Call → Operation → Prop
  | .receive limit _, operation => operation = .receive limit params.waitSeconds
  | .delete message _, operation =>
    ∃ handle, message.handle = some handle ∧ operation = .delete handle
  | .send body _, operation => operation = .send body

/-- The error of a call that fails for this reason. -/
def error : Call → String → PoolError
  | .receive _ _, reason => .receive reason
  | .delete message _, reason => .delete (message.id.getD "") reason
  | .send _ _, reason => .send reason

def answer : Call → Except String Value
  | .receive _ answer => answer.map .messages
  | .delete _ answer => answer.map fun _ => .deleted
  | .send _ answer => answer.map .sent

/-- Why a call fails that does not fit; there is no such message to send. -/
def refusal (params : QueueParams) : Call → String
  | .receive limit _ => "max received messages must be from 1 to "
      ++ Text.numeral params.maxMessages ++ ", got " ++ Text.numeral limit
  | .delete _ _ => "message has no receipt handle"
  | .send _ _ => ""

end Call

/-! ### One call -/

/-- A client is made from parameters exactly if the service takes them. -/
theorem ofParams_eq_ok_iff (params : QueueParams) (signer : Signer) (client : QueueClient) :
    ofParams params signer = .ok client ↔ params.fault? = none ∧ client.params = params ∧
      client.signer = signer := by
  unfold ofParams
  split
  · next fault hfault => simp [hfault]
  · next hfault =>
    simp only [Except.ok.injEq]
    constructor
    · rintro rfl
      exact ⟨hfault, rfl, rfl⟩
    · rintro ⟨-, rfl, rfl⟩
      rfl

/-- How a call is settled by a client of these parameters. -/
structure Settled (params : QueueParams) (signer : Signer) (c : Call) (x : Exchange) :
    Prop where
  /-- It issues a request exactly if it fits. -/
  issues : x.request.isSome = true ↔ c.Fits params
  /-- The request is about the queue and the arguments of the call, within the limits of the
      service. -/
  asks : ∀ r, x.request = some r → r.url = params.url ∧ r.url ≠ "" ∧ r.signer = signer ∧
    c.Asks params r.operation ∧ r.operation.WithinLimits
  /-- It returns what the service answers, a failure as an error of its kind. -/
  answered : c.Fits params → x.result = c.answer.mapError c.error
  /-- A call that does not fit fails with an error of its kind. -/
  refused : ¬ c.Fits params → x.result = .error (c.error (c.refusal params))

theorem settle_eq {α : Type} (answer : Except String α) (value : α → Value)
    (fail : String → PoolError) :
    settle answer value fail = (answer.map value).mapError fail := by
  cases answer <;> rfl

/-- A receive asks for the messages if it is within the limits of the client. -/
theorem receive_settled (client : QueueClient) (limit : Int)
    (answer : Except String (List Message)) :
    Settled client.params client.signer (.receive limit answer)
      (client.receive limit answer) := by
  obtain ⟨hurl, hmax, hwait⟩ := client.params.limits_of_accepted client.accepted
  unfold receive
  by_cases hlimit : 1 ≤ limit ∧ limit ≤ client.params.maxMessages
  · rw [if_pos hlimit]
    refine ⟨iff_of_true rfl hlimit, ?_, fun _ => settle_eq .., fun h => absurd hlimit h⟩
    intro r hr
    obtain rfl := Option.some.inj hr
    exact ⟨rfl, hurl, rfl, rfl, hlimit.1, Int.le_trans hlimit.2 hmax.2, hwait⟩
  · rw [if_neg hlimit]
    exact ⟨iff_of_false Bool.false_ne_true hlimit, by simp, fun h => absurd h hlimit,
      fun _ => rfl⟩

/-- A delete gives the handle of the message if there is one. -/
theorem delete_settled (client : QueueClient) (message : Message)
    (answer : Except String Unit) :
    Settled client.params client.signer (.delete message answer)
      (client.delete message answer) := by
  obtain ⟨hurl, -, -⟩ := client.params.limits_of_accepted client.accepted
  unfold delete
  split
  · next handle hhandle =>
    have hfits : (Call.delete message answer).Fits client.params := ⟨handle, hhandle⟩
    refine ⟨iff_of_true rfl hfits, ?_, fun _ => settle_eq .., fun h => absurd hfits h⟩
    intro r hr
    obtain rfl := Option.some.inj hr
    exact ⟨rfl, hurl, rfl, ⟨handle, hhandle, rfl⟩, trivial⟩
  · next hhandle =>
    have hfits : ¬ (Call.delete message answer).Fits client.params := by
      rintro ⟨handle, hsome⟩
      rw [hhandle] at hsome
      cases hsome
    exact ⟨iff_of_false Bool.false_ne_true hfits, by simp, fun h => absurd h hfits,
      fun _ => rfl⟩

theorem send_settled (client : QueueClient) (body : String)
    (answer : Except String (Option String)) :
    Settled client.params client.signer (.send body answer) (client.send body answer) := by
  obtain ⟨hurl, -, -⟩ := client.params.limits_of_accepted client.accepted
  refine ⟨iff_of_true rfl trivial, ?_, fun _ => settle_eq .., fun h => absurd trivial h⟩
  intro r hr
  obtain rfl := Option.some.inj hr
  exact ⟨rfl, hurl, rfl, rfl, trivial⟩

/-- **One call.** Every call is settled. -/
theorem call_settled (client : QueueClient) (c : Call) :
    Settled client.params client.signer c (client.call c) := by
  cases c with
  | receive limit answer => exact receive_settled client limit answer
  | delete message answer => exact delete_settled client message answer
  | send body answer => exact send_settled client body answer

theorem Settled.error_kind {params : QueueParams} {signer : Signer} {c : Call}
    {x : Exchange} (h : Settled params signer c x) {e : PoolError}
    (he : x.result = .error e) : ∃ reason, e = c.error reason := by
  by_cases hfits : c.Fits params
  · rw [h.answered hfits] at he
    cases hanswer : c.answer with
    | ok value =>
      rw [hanswer] at he
      cases he
    | error reason =>
      rw [hanswer] at he
      exact ⟨reason, (Except.error.inj he).symm⟩
  · rw [h.refused hfits] at he
    exact ⟨_, (Except.error.inj he).symm⟩

/-! ### Sequences of calls -/

def requests (client : QueueClient) (cs : List Call) : List Request :=
  (client.calls cs).filterMap Exchange.request

/-- The service sees as many requests as there are calls that fit. -/
theorem length_requests (client : QueueClient) (cs : List Call) :
    (client.requests cs).length = cs.countP fun c => c.Fits client.params := by
  unfold requests calls
  induction cs with
  | nil => rfl
  | cons c cs ih =>
    -- a call issues a request exactly if it fits
    have hissues := (call_settled client c).issues
    rw [List.map_cons, List.filterMap_cons, List.countP_cons]
    cases hrequest : (client.call c).request with
    | none =>
      have hfits : ¬ c.Fits client.params := by
        rw [← hissues, hrequest]
        exact Bool.false_ne_true
      simpa [hfits] using ih
    | some r =>
      have hfits : c.Fits client.params := by
        rw [← hissues, hrequest]
        rfl
      simpa [hfits] using ih

/-- How a client that is made from parameters serves a sequence of calls. -/
structure Serves (params : QueueParams) (signer : Signer) (client : QueueClient)
    (cs : List Call) : Prop where
  /-- It keeps its parameters, which the service takes. -/
  accepted : client.params = params ∧ params.url ≠ "" ∧
    (1 ≤ params.maxMessages ∧ params.maxMessages ≤ 10) ∧
    (0 ≤ params.waitSeconds ∧ params.waitSeconds ≤ 20)
  /-- Every call is settled, in order. -/
  settled : List.Forall₂ (Settled params signer) cs (client.calls cs)
  /-- Every error is of the kind of its call. -/
  blamed : List.Forall₂ (fun c x => ∀ e, x.result = .error e → ∃ reason, e = c.error reason)
    cs (client.calls cs)
  /-- The service sees one request for each call that fits, and no other. -/
  seen : (client.requests cs).length = cs.countP (fun c => c.Fits params) ∧
    (client.requests cs).length ≤ cs.length
  /-- Each of them is about the queue, and within the limits of the service. -/
  lawful : ∀ r ∈ client.requests cs, r.url = params.url ∧ r.url ≠ "" ∧ r.signer = signer ∧
    r.operation.WithinLimits
  /-- What a worker asks for in one receive always fits. -/
  polls : ∀ answer, (Call.receive messagesPerPoll answer).Fits params

/-- **The requests of a client.** Every client that is made serves every sequence of calls,
    whatever the service answers. -/
theorem calls_served {params : QueueParams} {signer : Signer} {client : QueueClient}
    (h : ofParams params signer = .ok client) (cs : List Call) :
    Serves params signer client cs := by
  obtain ⟨haccepted, rfl, rfl⟩ := (ofParams_eq_ok_iff params signer client).mp h
  have hlimits := QueueParams.limits_of_accepted haccepted
  constructor
  case accepted => exact ⟨rfl, hlimits⟩
  case settled =>
    -- each call is settled on its own, as the client keeps no state
    unfold calls
    rw [List.forall₂_map_right_iff, List.forall₂_same]
    intro c _
    exact call_settled client c
  case blamed =>
    unfold calls
    rw [List.forall₂_map_right_iff, List.forall₂_same]
    intro c _ e he
    exact (call_settled client c).error_kind he
  case seen =>
    rw [length_requests]
    exact ⟨rfl, List.countP_le_length⟩
  case lawful =>
    intro r hmem
    obtain ⟨x, hx, hr⟩ := List.mem_filterMap.mp hmem
    obtain ⟨c, -, rfl⟩ := List.mem_map.mp hx
    obtain ⟨hurl, hne, hsigner, -, hwithin⟩ := (call_settled client c).asks r hr
    exact ⟨hurl, hne, hsigner, hwithin⟩
  case polls =>
    intro answer
    exact ⟨by decide, hlimits.2.1.1⟩

/-- Three messages are too many for a client of two; a message without a handle is not
    deleted, and two others are sent, one of them in vain. -/
theorem calls_served_pair :
    ∃ client, ofParams { url := "q", maxMessages := 2 } { accessKey := "k", region := "r" } =
        .ok client ∧
      Serves { url := "q", maxMessages := 2 } { accessKey := "k", region := "r" } client
        [.receive 3 (.ok []), .receive 2 (.ok [default]), .delete default (.ok ()),
          .send "a" (.ok none), .send "b" (.error "throttled")] ∧
      (client.requests [.receive 3 (.ok []), .receive 2 (.ok [default]),
          .delete default (.ok ()), .send "a" (.ok none),
          .send "b" (.error "throttled")]).map Request.operation =
        [.receive 2 20, .send "a", .send "b"] :=
  ⟨⟨{ url := "q", maxMessages := 2 }, { accessKey := "k", region := "r" }, rfl⟩, rfl,
    calls_served rfl _, rfl⟩

end QueueClient

end ConsumerPool
