import ConsumerPool.Error

/-! # The Error Channel

  A bounded queue between the workers of a pool, which report errors, and one
  reader. Reporting never waits: an error that cannot be taken is handed back
  and counted. The reader may close its end, which keeps the unread errors
  readable, or drop it, which discards them. -/

namespace ConsumerPool

/-- The reader's end of an error channel. -/
inductive Receiver where
  | listening
  /-- It takes no more errors but still gives those it holds. -/
  | closed
  | gone
deriving DecidableEq, Inhabited

/-- An error channel. -/
structure ErrorChannel where
  capacity : Nat
  /-- The errors that are unread, the oldest first. -/
  unread : List PoolError
  receiver : Receiver
  /-- How many errors were not taken, modulo the size of the counter. -/
  dropped : UInt64
deriving DecidableEq

/-- What the reader gets. -/
inductive ReadResult where
  | error (error : PoolError)
  /-- Nothing now, maybe something later. -/
  | empty
  /-- Nothing now and nothing ever. -/
  | disconnected
  | gone
deriving DecidableEq

namespace ErrorChannel

/-- The greatest capacity a channel can have. -/
def maxCapacity : Nat := 2305843009213693951

/-- A new channel. -/
def ofCapacity (capacity : Nat) : ErrorChannel :=
  { capacity, unread := [], receiver := .listening, dropped := 0 }

/-! ### Reporting -/

/-- Whether the channel can take an error. -/
def accepts (ch : ErrorChannel) : Bool :=
  ch.receiver = .listening ∧ ch.unread.length < ch.capacity

/-- Reports an error: the channel afterwards, and the error again if it was
    not taken. -/
def report (ch : ErrorChannel) (e : PoolError) : ErrorChannel × Option PoolError :=
  if ch.accepts then ({ ch with unread := ch.unread ++ [e] }, none)
  else ({ ch with dropped := ch.dropped + 1 }, some e)

/-! ### Reading -/

/-- Reads without waiting. An empty channel that still listens is disconnected once no
    sender of it exists any more. -/
def read (ch : ErrorChannel) (senders : Nat) : ErrorChannel × ReadResult :=
  match ch.receiver, ch.unread with
  | .gone, _ => (ch, .gone)
  | _, e :: rest => ({ ch with unread := rest }, .error e)
  | .closed, [] => (ch, .disconnected)
  | .listening, [] => (ch, if senders = 0 then .disconnected else .empty)

/-- Closes the reader's end. -/
def close (ch : ErrorChannel) : ErrorChannel :=
  match ch.receiver with
  | .listening => { ch with receiver := .closed }
  | .closed | .gone => ch

/-- Drops the reader's end with the errors it holds. -/
def drop (ch : ErrorChannel) : ErrorChannel :=
  { ch with unread := [], receiver := .gone }

end ErrorChannel

end ConsumerPool
