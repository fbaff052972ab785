import ConsumerPool.Pool.Basic

/-! # Starting a Pool

  The parameters are checked, then the client is made if none is given, the
  error channel, the workers, and at last one line is logged. A fault found
  before the workers exist leaves nothing behind; a logger that panics on that
  last line leaves workers that nobody has a handle to. -/

namespace ConsumerPool

/-- What the outside brings to the start of a pool. -/
structure Surroundings where
  /-- The responses that wait in the client. -/
  queue : List Response := []
  stop : Bool := false
  processTransform : Option Transform := none
  clock : Nat := 0
  timer : Timer := .standard

/-- What starting a pool comes to. -/
inductive Start where
  | refused (error : PoolError)
  /-- The start panics; what runs all the same, if anything. -/
  | panicked (payload : Payload) (orphans : Option Pool)
  | started (pool : Pool)

namespace PoolParams

/-- The error that the parameters are refused with, if they are. The queue
    parameters are checked only where a client has to be made. -/
def refusal? (params : PoolParams) : Option PoolError :=
  match params.fault? with
  | some fault => some fault.error
  | none =>
    if params.clientGiven then none else params.queue.fault?.map QueueParams.Fault.error

end PoolParams

namespace Pool

/-- The bytes that the reference to a worker takes in the handle. -/
def handleEntrySize : Nat := 8

/-- The greatest size of a handle in bytes. -/
def maxHandleSize : Nat := 9223372036854775807

/-- What a start panics with before any worker exists, if it does: the channel
    or the handle would be too large. -/
def oversize? (params : PoolParams) : Option Payload :=
  if params.errorCapacity > ErrorChannel.maxCapacity then
    some (.text ("a semaphore may not have more than MAX_PERMITS permits ("
      ++ toString ErrorChannel.maxCapacity ++ ")"))
  else if params.workerCount * handleEntrySize > maxHandleSize then
    some (.text "capacity overflow")
  else none

/-- The pool whose workers have just been made: each has a sender of the error channel, and
    the one they were cloned from still exists. -/
def spawned (params : PoolParams) (around : Surroundings) : Pool :=
  { params
    stop := around.stop
    processTransform := around.processTransform
    queue := around.queue
    clock := around.clock
    timer := around.timer
    channel := .ofCapacity params.errorCapacity
    workers := List.replicate params.workerCount .spawned
    handle := .held
    lines := 0
    changed := []
    senders := params.workerCount + 1
    record := [] }

/-- Starts a pool. However a start ends, the sender that the workers' were cloned from does
    not outlive it. -/
def start (params : PoolParams) (around : Surroundings) : Start :=
  match params.refusal? with
  | some e => .refused e
  | none =>
    match oversize? params with
    | some payload => .panicked payload none
    | none =>
      match (spawned params around).write none
          (.poolStarted params.workerCount params.queue.url) with
      | (s, none) => .started s.dropSender
      | (s, some payload) =>
        .panicked payload
          (some { s.dropSender with channel := s.channel.drop, handle := .released })

end Pool

end ConsumerPool
