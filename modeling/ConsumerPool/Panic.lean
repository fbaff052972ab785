import ConsumerPool.Error

/-! # Panics

  What a panic carries, the error that a panicking task is taken to have
  failed with, and the transforms that may be applied to such an error. A
  transform is foreign code, so it may panic in turn.

  Where a task panics, the pool disposes of what was thrown after it has looked
  for an error or a text in it, and that may panic too: a task throws a `Thrown`.
  Everything else that panics throws a `Payload`, whose disposal does nothing. -/

namespace ConsumerPool

/-- What a panic carries. -/
inductive Payload where
  | text (text : String)
  /-- A task error, thrown instead of returned. -/
  | error (error : TaskError)
  /-- A text in a box of its own, which nobody looks into. -/
  | boxed (text : String)
  /-- A value of any other type. -/
  | other
deriving DecidableEq, Inhabited

namespace Payload

/-- The error a panicking task has failed with: a thrown task error is kept as
    it is, a text becomes the payload of a panic error. -/
def recovered : Payload → TaskError
  | .error e => e
  | .text t => .panicked t
  | .boxed _ | .other => .panicked "non-string panic payload"

def text? : Payload → Option String
  | .text t => some t
  | .error _ | .boxed _ | .other => none

end Payload

/-- What a task panics with. -/
inductive Thrown where
  | plain (payload : Payload)
  /-- A value, neither an error nor a text, whose disposal panics with `inner`. -/
  | fragile (inner : Payload)
deriving DecidableEq, Inhabited

/-- The error a panicking task has failed with, or what the disposal of the thrown
    value panics with. Nothing guards the disposal. -/
def Thrown.recover : Thrown → Except Payload TaskError
  | .plain p => .ok p.recovered
  | .fragile inner => .error inner

/-- A change made to the error recovered from a panic. -/
abbrev Change := TaskError → Except Payload TaskError

/-- Changes the errors recovered from panics. It may keep state: a call is told the
    errors of the calls before it, the oldest first. -/
abbrev Transform := List TaskError → Change

/-- The transform that makes the same change in every call. -/
def Transform.always (change : Change) : Transform := fun _ => change

end ConsumerPool
