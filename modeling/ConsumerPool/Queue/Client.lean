import ConsumerPool.Message
import ConsumerPool.Queue.Params

/-! # The Queue Client

  A client turns calls into requests to the queue service. It is made only
  from parameters that the service accepts, so every request it issues keeps
  the service's limits. A call issues one request or fails on its own; what
  the service would answer is given with the call. -/

namespace ConsumerPool

/-! ### Requests -/

/-- Who signs the requests of a client, and for which region. -/
structure Signer where
  accessKey : String
  /-- The region a request is signed for. -/
  region : String
deriving DecidableEq, Inhabited

/-- What a request asks of the service. -/
inductive Operation where
  /-- Hand out at most this many messages, waiting this many seconds. -/
  | receive (maxMessages : Int) (waitSeconds : Int)
  | delete (handle : String)
  | send (body : String)
deriving DecidableEq

/-- A request as the service sees it. -/
structure Request where
  url : String
  operation : Operation
  signer : Signer
deriving DecidableEq

/-! ### The client -/

/-- A client of the queue service. -/
structure QueueClient where
  params : QueueParams
  signer : Signer
  /-- The service accepts the parameters. -/
  accepted : params.fault? = none

namespace QueueClient

/-- A client for parameters that the service accepts. -/
def ofParams (params : QueueParams) (signer : Signer) : Except PoolError QueueClient :=
  match h : params.fault? with
  | some fault => .error fault.error
  | none => .ok ⟨params, signer, h⟩

/-! ### Calls -/

/-- A call of the client, with the answer of the service if it is asked: what
    it returns, or why the request failed. -/
inductive Call where
  | receive (limit : Int) (answer : Except String (List Message))
  | delete (message : Message) (answer : Except String Unit)
  /-- Send a message; the service may tell the id it gave to it. -/
  | send (body : String) (answer : Except String (Option String))

/-- What a successful call returns. -/
inductive Value where
  | messages (messages : List Message)
  | deleted
  /-- The message is sent, under this id if the service told it. -/
  | sent (id : Option String)
deriving DecidableEq

/-- What a call does: the request it issues, if any, and its result. -/
structure Exchange where
  request : Option Request
  result : Except PoolError Value

def request (client : QueueClient) (operation : Operation) : Request :=
  { url := client.params.url, operation, signer := client.signer }

/-- The result of a request from the service's answer, a failure told as the
    error `fail` of its reason. -/
def settle {α : Type} (answer : Except String α) (value : α → Value)
    (fail : String → PoolError) : Except PoolError Value :=
  match answer with
  | .ok a => .ok (value a)
  | .error reason => .error (fail reason)

/-- Receives messages: more than the parameters allow are not asked for. -/
def receive (client : QueueClient) (limit : Int)
    (answer : Except String (List Message)) : Exchange :=
  if 1 ≤ limit ∧ limit ≤ client.params.maxMessages then
    { request := some (client.request (.receive limit client.params.waitSeconds))
      result := settle answer .messages .receive }
  else
    { request := none
      result := .error (.receive
        (QueueParams.batchRangeText client.params.maxMessages limit)) }

/-- Deletes a message: one that was never delivered cannot be. -/
def delete (client : QueueClient) (message : Message) (answer : Except String Unit) :
    Exchange :=
  match message.handle with
  | some handle =>
    { request := some (client.request (.delete handle))
      result := settle answer (fun _ => .deleted) (.delete message.shownId) }
  | none =>
    { request := none
      result := .error (.delete message.shownId "message has no receipt handle") }

/-- Sends a message. -/
def send (client : QueueClient) (body : String)
    (answer : Except String (Option String)) : Exchange :=
  { request := some (client.request (.send body))
    result := settle answer .sent .send }

def call (client : QueueClient) : Call → Exchange
  | .receive limit answer => client.receive limit answer
  | .delete message answer => client.delete message answer
  | .send body answer => client.send body answer

def calls (client : QueueClient) (cs : List Call) : List Exchange :=
  cs.map client.call

end QueueClient

end ConsumerPool
