import ConsumerPool.Pool.Basic
import ConsumerPool.Text.Quoted

/-! # Waiting for a Pool

  Who waits for a pool waits for its workers one after the other and is told
  about the first of them, in that order, that ended by a panic. -/

namespace ConsumerPool

/-- What waiting for a pool comes to. -/
inductive JoinStatus where
  | pending
  | ok
  | failed (error : PoolError)
deriving DecidableEq, Inhabited

/-- The error told about a worker that panicked. The number of its task is not
    known to the pool and shown as a hash. -/
def panicError (payload : Payload) : PoolError :=
  match payload.text? with
  | some text => .join ("task # panicked with message " ++ Text.quoted text)
  | none => .join "task # panicked"

/-- Waits for workers in order; `first` is the error found so far. -/
def await (first : Option PoolError) : List Phase → JoinStatus
  | [] =>
    match first with
    | some e => .failed e
    | none => .ok
  | phase :: rest =>
    match phase with
    | .stopped => await first rest
    | .crashed payload => await (first.or (some (panicError payload))) rest
    | .spawned | .polling | .receiving | .holding _ | .inTask _ | .reporting _ _
    | .deleting _ | .deleteFailed _ _ | .finishing _ | .idling | .yielding
    | .pausing _ | .leaving => .pending

/-- Waiting goes on exactly as long as some worker has not ended. -/
theorem await_eq_pending_iff (first : Option PoolError) (workers : List Phase) :
    await first workers = .pending ↔ workers.all Phase.ended = false := by
  induction workers generalizing first with
  | nil => cases first <;> simp [await]
  | cons phase rest ih => cases phase <;> simp [await, Phase.ended, ih]

namespace Pool

/-- What waiting for the pool comes to now. -/
def joinStatus (s : Pool) : JoinStatus := await none s.workers

theorem joinStatus_eq_pending_iff (s : Pool) :
    s.joinStatus = .pending ↔ s.isFinished = false :=
  await_eq_pending_iff none s.workers

end Pool

end ConsumerPool
