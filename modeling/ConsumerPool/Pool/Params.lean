import ConsumerPool.Log
import ConsumerPool.Queue.Params

/-! # Pool Parameters

  What a pool is started with. The queue client is either given or made from
  the queue parameters; only in the second case does the region matter. -/

namespace ConsumerPool

/-- The settings of a pool. -/
structure PoolParams where
  queue : QueueParams
  /-- Whether a queue client is given. -/
  clientGiven : Bool := false
  workerCount : Nat := 1
  /-- Takes the log; the default is the forwarding logger. -/
  logger : Option Logger := none
  transform : Option Transform := none
  /-- How many errors can be unread before further ones are dropped. -/
  errorCapacity : Nat := 16
  /-- The pause after a poll without a message. -/
  emptyPollDelay : Nat := 0

namespace PoolParams

/-- Parameters of one worker and no settings of its own. -/
def ofQueue (queue : QueueParams) : PoolParams := { queue }

/-- What makes pool parameters unfit. -/
inductive Fault where
  | noWorkers
  | missingUrl
  /-- A client has to be made, but no region is given. -/
  | missingRegion
  | noErrorCapacity
deriving DecidableEq

def Fault.message : Fault → String
  | .noWorkers => "worker count must be at least 1"
  | .missingUrl => "missing queue url"
  | .missingRegion => "missing region, required because no client is set"
  | .noErrorCapacity => "error channel capacity must be at least 1"

/-- The error a pool is refused with for a fault. -/
def Fault.error (fault : Fault) : PoolError := .invalidConfig fault.message

/-- The first fault of the parameters, if they have one. -/
def fault? (params : PoolParams) : Option Fault :=
  if params.workerCount < 1 then some .noWorkers
  else if params.queue.url = "" then some .missingUrl
  else if params.clientGiven = false ∧ params.queue.region = "" then some .missingRegion
  else if params.errorCapacity < 1 then some .noErrorCapacity
  else none

/-- Whether the parameters are fit, and the first error if not. -/
def check (params : PoolParams) : Except PoolError Unit :=
  match params.fault? with
  | some fault => .error fault.error
  | none => .ok ()

def loggerInUse (params : PoolParams) : Logger := params.logger.getD .forwarding

end PoolParams

end ConsumerPool
