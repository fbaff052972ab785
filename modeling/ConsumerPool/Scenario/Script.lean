import ConsumerPool.Pool.Step

/-! # Scripts

  A script fixes what one call of a task or a delete does, instruction by
  instruction; its end is success. A workload gives the scripts of all calls,
  by the body of a task's message and the id of a delete's. -/

namespace ConsumerPool.Scenario

/-! ### Instructions -/

/-- One thing a scripted call does, which fails with an `ε` and panics with a `π`. -/
inductive Instruction (ε : Type) (π : Type := Payload) where
  | fireStop
  /-- Let the others run once. -/
  | yield
  /-- Wait to be released. -/
  | block
  | sleep (duration : Nat)
  | fail (error : ε)
  | panic (thrown : π)
deriving DecidableEq, Inhabited

/-- What one call does, in order. -/
abbrev Script (ε : Type) (π : Type := Payload) := List (Instruction ε π)

/-- The script of the `n`-th of several calls: the last one repeats. -/
def nthScript {ε π : Type} (scripts : List (Script ε π)) (n : Nat) : Script ε π :=
  (scripts[min n (scripts.length - 1)]?).getD []

/-! ### Calls in progress -/

/-- A call that runs by a script. -/
structure Progress (ε : Type) (π : Type := Payload) where
  rest : Script ε π
  /-- The reading of the clock it sleeps until, if it sleeps. -/
  wakeAt : Option Nat := none
deriving DecidableEq

/-- What a call in progress does next. -/
inductive NextMove (ε : Type) (π : Type := Payload) where
  /-- Nothing, until it is released or the clock moves. -/
  | wait
  /-- It goes on without touching the pool. -/
  | pass (progress : Progress ε π)
  | fireStop (progress : Progress ε π)
  | finish (outcome : Outcome ε π)

namespace Progress

variable {ε π : Type}

/-- What the next instruction does when the clock shows `clock`. -/
def perform (timer : Timer) (clock : Nat) : Script ε π → NextMove ε π
  | [] => .finish .ok
  | .fireStop :: rest => .fireStop { rest }
  | .yield :: rest => .pass { rest }
  | .block :: _ => .wait
  | .sleep duration :: rest =>
    .pass { rest, wakeAt := some (timer.deadline clock duration) }
  | .fail e :: _ => .finish (.failed e)
  | .panic thrown :: _ => .finish (.panicked thrown)

/-- What the call does next when the clock shows `clock`. -/
def next (p : Progress ε π) (timer : Timer) (clock : Nat) : NextMove ε π :=
  match p.wakeAt with
  | some deadline => if deadline ≤ clock then .pass { rest := p.rest } else .wait
  | none => perform timer clock p.rest

/-- Whether the next instruction gives way to the others. -/
def yieldsNext (p : Progress ε π) : Bool :=
  match p.wakeAt, p.rest with
  | none, .yield :: _ => true
  | _, _ => false

/-- Whether the call waits to be released. -/
def isBlocked (p : Progress ε π) : Bool :=
  match p.wakeAt, p.rest with
  | none, .block :: _ => true
  | _, _ => false

/-- The call after its release. -/
def released (p : Progress ε π) : Progress ε π :=
  match p.rest with
  | .block :: rest => { rest }
  | _ => p

end Progress

/-! ### Workloads -/

/-- The scripts of all calls. A key without scripts succeeds at once. -/
structure Workload where
  tasks : List (String × List (Script TaskError Thrown)) := []
  deletes : List (String × List (Script PoolError)) := []

/-- How many times the task was called on a message with this body. -/
def taskCalls (record : List Event) (body : String) : Nat :=
  record.countP fun event =>
    match event.act with
    | .taskBegun m => m.shownBody = body
    | _ => false

/-- How many times a message with this id was to be deleted. -/
def deleteCalls (record : List Event) (id : String) : Nat :=
  record.countP fun event =>
    match event.act with
    | .deleteBegun m => m.shownId = id
    | _ => false

namespace Workload

/-- The script of a call of the task that follows those of a record. -/
def taskScript (workload : Workload) (record : List Event) (m : Message) :
    Script TaskError Thrown :=
  nthScript ((workload.tasks.lookup m.shownBody).getD []) (taskCalls record m.shownBody)

/-- The script of a delete that follows those of a record. -/
def deleteScript (workload : Workload) (record : List Event) (m : Message) :
    Script PoolError :=
  nthScript ((workload.deletes.lookup m.shownId).getD []) (deleteCalls record m.shownId)

end Workload

end ConsumerPool.Scenario
