import ConsumerPool.ErrorChannel
import ConsumerPool.Pool.Event
import ConsumerPool.Pool.Params
import ConsumerPool.Timer

/-! # Pools

  The state of a running pool: what its workers are doing, and what they
  share with the outside, namely the stop signal, the responses waiting in
  the client, the clock, the error channel and the pool handle. -/

namespace ConsumerPool

/-! ### Workers -/

/-- How many messages a worker asks for in one receive. -/
def messagesPerPoll : Int := 1

/-- What a worker does after a report. -/
inductive AfterReport where
  | poll
  | idle
deriving DecidableEq, Inhabited

/-- Where a worker stands. -/
inductive Phase where
  | spawned
  /-- It is about to look for the stop signal and to begin a receive. -/
  | polling
  | receiving
  | holding (message : Message)
  | inTask (message : Message)
  | reporting (error : PoolError) (after : AfterReport)
  | deleting (message : Message)
  | deleteFailed (message : Message) (error : PoolError)
  | finishing (message : Message)
  | idling
  /-- It lets the others run before it polls again. -/
  | yielding
  | pausing (deadline : Nat)
  /-- It has seen the stop signal. -/
  | leaving
  /-- It has ended since the stop signal has fired. -/
  | stopped
  | crashed (payload : Payload)
deriving DecidableEq, Inhabited

namespace Phase

/-- Whether a worker has ended. -/
def ended : Phase → Bool
  | .stopped | .crashed _ => true
  | .spawned | .polling | .receiving | .holding _ | .inTask _ | .reporting _ _
  | .deleting _ | .deleteFailed _ _ | .finishing _ | .idling | .yielding
  | .pausing _ | .leaving => false

/-- Where a worker stands that is done with a report. -/
def afterReport : AfterReport → Phase
  | .poll => .polling
  | .idle => .idling

end Phase

/-! ### Pools -/

/-- What has become of the pool handle. -/
inductive Handle where
  | held
  /-- It was given up for waiting until every worker has ended. -/
  | joining
  /-- It does not exist any more, and nobody waits. -/
  | released
deriving DecidableEq, Inhabited

/-- The state of a pool. -/
structure Pool where
  params : PoolParams
  stop : Bool
  /-- The transform set for the whole process. -/
  processTransform : Option Transform
  /-- The responses that the client has not handed over, the next one first. -/
  queue : List Response
  clock : Nat
  timer : Timer
  channel : ErrorChannel
  workers : List Phase
  handle : Handle
  /-- How many lines the logger was given. -/
  lines : Nat
  /-- The errors that a transform was called on, in order. -/
  changed : List TaskError
  /-- How many senders of the error channel exist. -/
  senders : Nat
  record : List Event

namespace Pool

def isFinished (s : Pool) : Bool := s.workers.all Phase.ended

def workerCount (s : Pool) : Nat := s.workers.length

/-- How many reported errors were not taken. -/
def droppedErrors (s : Pool) : UInt64 := s.channel.dropped

/-- The transform for a panic that happens now: the pool's own if it has one,
    else the one set for the process. -/
def chosenTransform (s : Pool) : Option (Origin × Transform) :=
  match s.params.transform with
  | some t => some (.pool, t)
  | none => s.processTransform.map fun t => (.process, t)

/-- The change that it makes now. A pool only ever calls one transform, so the calls of it
    before this one are those that `changed` tells of. -/
def transformInForce (s : Pool) : Option (Origin × Change) :=
  s.chosenTransform.map fun (origin, t) => (origin, t s.changed)

/-! ### Single effects -/

def note (s : Pool) (worker : Option Nat) (act : Act) : Pool :=
  { s with record := s.record ++ [⟨s.clock, worker, act⟩] }

def enter (s : Pool) (w : Nat) (phase : Phase) : Pool :=
  { s with workers := s.workers.set w phase }

def fireStop (s : Pool) : Pool := { s with stop := true }

/-- Drops a sender of the error channel. -/
def dropSender (s : Pool) : Pool := { s with senders := s.senders - 1 }

/-- Ends a worker by a panic, which drops its sender. -/
def crash (s : Pool) (w : Nat) (payload : Payload) : Pool :=
  ((s.note (some w) (.crashed payload)).enter w (.crashed payload)).dropSender

/-- Gives a line to the logger, and tells what the logger panics with. -/
def write (s : Pool) (worker : Option Nat) (line : LogLine) : Pool × Option Payload :=
  ({ s.note worker (.logged line) with lines := s.lines + 1 },
    s.params.loggerInUse.panics s.lines line)

end Pool

end ConsumerPool
