import ConsumerPool.Log
import ConsumerPool.Message

/-! # Events of a Pool

  What the client answers, how foreign code ends, and the events that a
  pool's record is made of. Every call that a worker makes of foreign code
  and every decision it takes is an event, stamped with the clock. -/

namespace ConsumerPool

/-! ### What foreign code does -/

/-- What a receive comes to. -/
inductive Received where
  | messages (messages : List Message)
  | failed (error : PoolError)
  | panicked (payload : Payload)
deriving DecidableEq, Inhabited

/-- A response that the client hands over. -/
structure Response where
  received : Received
  /-- Whether the stop signal fires just before the receive ends. -/
  firesStop : Bool := false
deriving DecidableEq, Inhabited

/-- How a call of foreign code ends, with errors of type `ε` and panics that throw a `π`. -/
inductive Outcome (ε : Type) (π : Type := Payload) where
  | ok
  | failed (error : ε)
  | panicked (thrown : π)
deriving DecidableEq, Inhabited

/-- Where the transform of a recovered error comes from. -/
inductive Origin where
  | pool
  | process
deriving DecidableEq, Inhabited

/-! ### Events -/

/-- What happened. -/
inductive Act where
  | logged (line : LogLine)
  | receiveBegun
  /-- A receive takes a response and ends. -/
  | received (received : Received)
  /-- A receive is given up for the stop signal. -/
  | receiveAbandoned
  | taskBegun (message : Message)
  | taskEnded (message : Message) (outcome : Outcome TaskError Thrown)
  /-- A transform is called on a recovered error. -/
  | transformed (origin : Origin) (error : TaskError)
  /-- An error is reported, and taken or not. -/
  | reported (error : PoolError) (accepted : Bool)
  | deleteBegun (message : Message)
  | deleteEnded (message : Message) (outcome : Outcome PoolError)
  /-- A pause begins, to last until the clock shows `deadline`. -/
  | paused (deadline : Nat)
  | exited
  | crashed (payload : Payload)
  | errorRead (error : PoolError)
  /-- The reader drops its end with these unread errors. -/
  | errorsDiscarded (errors : List PoolError)
deriving DecidableEq

/-- An event of the record. -/
structure Event where
  time : Nat
  /-- The worker that did it; none for the pool and the reader. -/
  worker : Option Nat
  act : Act
deriving DecidableEq

end ConsumerPool
