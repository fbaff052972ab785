import ConsumerPool.Scenario.Script

/-! # Scripted Pools

  A pool whose tasks and deletes run by scripts. The outside only pushes
  responses, fires the stop signal, moves the clock and releases blocked
  calls; which step a worker takes when it is its turn is then fixed, and so
  is whether it can take one at all. -/

namespace ConsumerPool.Scenario

/-- The foreign code that runs for a worker. -/
inductive Job where
  | none
  | task (progress : Progress TaskError Thrown)
  | delete (progress : Progress PoolError)
deriving DecidableEq, Inhabited

/-- A pool with a workload. -/
structure Scripted where
  pool : Pool
  workload : Workload
  /-- The foreign code that runs for each worker, by number. -/
  jobs : List Job

namespace Scripted

/-- A pool at its start, with no foreign code running. -/
def ofPool (pool : Pool) (workload : Workload) : Scripted :=
  { pool, workload, jobs := pool.workers.map fun _ => .none }

/-! ### The steps of a worker -/

/-- The foreign code that runs for a worker after a step to `pool`. -/
def jobBegun (s : Scripted) (pool : Pool) (w : Nat) : Job :=
  match pool.workers[w]? with
  | some (.inTask m) => .task { rest := s.workload.taskScript s.pool.record m }
  | some (.deleting m) => .delete { rest := s.workload.deleteScript s.pool.record m }
  | _ => .none

/-- Takes a step of the pool after which foreign code may begin. -/
def take (s : Scripted) (w : Nat) (label : Label) : Scripted :=
  { s with
    pool := s.pool.step label
    jobs := s.jobs.set w (s.jobBegun (s.pool.step label) w) }

/-- Goes on with the foreign code of a worker. -/
def keep (s : Scripted) (w : Nat) (job : Job) : Scripted :=
  { s with jobs := s.jobs.set w job }

/-- The step of a worker whose task runs. -/
def stepTask? (s : Scripted) (w : Nat) (p : Progress TaskError Thrown) : Option Scripted :=
  match p.next s.pool.timer s.pool.clock with
  | .wait => none
  | .pass p' => some (s.keep w (.task p'))
  | .fireStop p' =>
    some { s.keep w (.task p') with pool := s.pool.step (.task w .fireStop) }
  | .finish outcome => some (s.take w (.task w (.finish outcome)))

/-- The step of a worker whose delete runs. -/
def stepDelete? (s : Scripted) (w : Nat) (p : Progress PoolError) : Option Scripted :=
  match p.next s.pool.timer s.pool.clock with
  | .wait => none
  | .pass p' => some (s.keep w (.delete p'))
  | .fireStop p' =>
    some { s.keep w (.delete p') with pool := s.pool.step (.delete w .fireStop) }
  | .finish outcome => some (s.take w (.delete w (.finish outcome)))

/-- The step of a worker, if it can take one. -/
def step? (s : Scripted) (w : Nat) : Option Scripted :=
  match s.pool.workers[w]?, s.jobs[w]? with
  | some (.inTask _), some (.task p) => s.stepTask? w p
  | some (.deleting _), some (.delete p) => s.stepDelete? w p
  | _, _ => if s.pool.canRun w then some (s.take w (.run w)) else none

/-- Whether the next step of a worker gives way to the others. -/
def yieldsNext (s : Scripted) (w : Nat) : Bool :=
  match s.pool.workers[w]?, s.jobs[w]? with
  | some (.inTask _), some (.task p) => p.yieldsNext
  | some (.deleting _), some (.delete p) => p.yieldsNext
  | some .idling, _ => s.pool.params.emptyPollDelay = 0
  | _, _ => false

/-! ### What a worker waits for -/

/-- Whether a worker's wait ends when the stop signal fires. -/
def endsOnStop (s : Scripted) (w : Nat) : Bool :=
  match s.pool.workers[w]? with
  | some .receiving | some (.pausing _) => true
  | _ => false

def isReceiving (s : Scripted) (w : Nat) : Bool :=
  s.pool.workers[w]? = some .receiving

/-- The reading of the clock that a worker waits for, if it waits for one. -/
def deadline? (s : Scripted) (w : Nat) : Option Nat :=
  match s.pool.workers[w]?, s.jobs[w]? with
  | some (.inTask _), some (.task p) => p.wakeAt
  | some (.deleting _), some (.delete p) => p.wakeAt
  | some (.pausing deadline), _ => some deadline
  | _, _ => none

/-- The key under which a worker's call can be released, if it is blocked. -/
def blockedKey? (s : Scripted) (w : Nat) : Option String :=
  match s.pool.workers[w]?, s.jobs[w]? with
  | some (.inTask m), some (.task p) =>
    if p.isBlocked then some ("task:" ++ m.shownBody) else none
  | some (.deleting m), some (.delete p) =>
    if p.isBlocked then some ("delete:" ++ m.shownId) else none
  | _, _ => none

def release (s : Scripted) (w : Nat) : Scripted :=
  match s.jobs[w]? with
  | some (.task p) => s.keep w (.task p.released)
  | some (.delete p) => s.keep w (.delete p.released)
  | some .none | none => s

end Scripted

end ConsumerPool.Scenario
