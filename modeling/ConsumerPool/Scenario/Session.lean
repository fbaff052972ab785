import ConsumerPool.Pool.Join
import ConsumerPool.Pool.Start
import ConsumerPool.Scenario.Foreign
import ConsumerPool.Scenario.Schedule
import ConsumerPool.Scenario.Trace
import ConsumerPool.Time

/-! # Sessions

  A scenario starts a pool over a scripted queue and drives it command by
  command. After each command the workers run until nobody can go on; then
  the session shows what can be seen from the outside. -/

namespace ConsumerPool.Scenario

/-! ### Commands and views -/

/-- What the outside does. -/
inductive Command where
  | push (responses : List Response)
  /-- Responses arrive, and the stop signal fires before any worker runs. -/
  | pushAndStop (responses : List Response)
  | fireStop
  /-- The clock moves by this many milliseconds at once. -/
  | advance (ms : Nat)
  /-- The call that has been blocked longest under this key goes on. -/
  | release (key : String)
  /-- The reader reads at most this many errors. -/
  | read (limit : Nat)
  | closeErrors
  | dropErrors
  | join
  | shutdown
  | dropHandle
  | setTransform (rule : TransformRule)
  /-- Nothing. -/
  | look
deriving Inhabited

/-- What a command gives back. -/
inductive Answer where
  | started
  | done
  /-- No call is blocked under the key. -/
  | notBlocked
  | errors (results : List ReadResult)
  /-- There is no reader any more. -/
  | noReader
deriving DecidableEq

/-- What the handle of a pool shows. -/
structure HandleView where
  workerCount : Nat
  droppedErrors : UInt64
  isFinished : Bool
deriving DecidableEq

/-- What can be seen after a command. -/
structure View where
  answer : Answer
  handle : Option HandleView
  /-- What waiting for the pool has come to, if somebody has waited. -/
  join : Option JoinStatus
  backlog : Nat
  /-- How many receives wait for a response. -/
  receiving : Nat
  trace : List Entry

/-! ### Sessions -/

/-- A pool that is driven command by command. -/
structure Session where
  schedule : Schedule
  /-- What waiting for the pool has come to, if somebody has waited. -/
  join : Option JoinStatus

namespace Session

def pool (s : Session) : Pool := s.schedule.scripted.pool

/-- Takes a step of the outside. -/
def step (s : Session) (label : Label) : Session :=
  { s with
    schedule :=
      { s.schedule with
        scripted := { s.schedule.scripted with pool := s.pool.step label } } }

/-- Changes the order of the workers. -/
def reorder (s : Session) (f : Schedule → Schedule) : Session :=
  { s with schedule := f s.schedule }

/-- Responses arrive; every receive that waits looks for one if there are
    any. -/
def push (s : Session) (responses : List Response) : Session :=
  let s' := s.step (.push responses)
  if responses.isEmpty then s' else s'.reorder .wakeReceivers

def fireStop (s : Session) : Session := (s.step .fireStop).reorder .wakeStopped

/-- Reads errors until the limit is reached or there is none. -/
def read (s : Session) : Nat → Session × List ReadResult
  | 0 => (s, [])
  | limit + 1 =>
    match s.pool.readResult with
    | .error e =>
      let (s', results) := (s.step .readError).read limit
      (s', .error e :: results)
    | result => (s, [result])

/-- Lets the call go on that has been blocked longest under a key. -/
def release (s : Session) (key : String) : Session × Answer :=
  match s.schedule.waiting.find? fun w => s.schedule.scripted.blockedKey? w = some key with
  | some w =>
    (s.reorder fun schedule => (schedule.release w).wake [w], .done)
  | none => (s, .notBlocked)

/-- Gives up waiting for the pool, if somebody waits. -/
def abandonJoin (s : Session) : Session :=
  match s.pool.handle with
  | .joining => s.step .dropHandle
  | .held | .released => s

/-- Does what a command says, before any worker runs. -/
def obey (s : Session) : Command → Session × Answer
  | .push responses => (s.push responses, .done)
  | .pushAndStop responses => ((s.push responses).fireStop, .done)
  | .fireStop => (s.fireStop, .done)
  | .advance ms => ((s.step (.advance (Time.ofMillis ms))).reorder .wakeDue, .done)
  | .release key => s.release key
  | .read limit =>
    match s.pool.channel.receiver with
    | .gone => (s, .noReader)
    | .listening | .closed =>
      let (s', results) := s.read limit
      (s', .errors results)
  | .closeErrors => (s.step .closeErrors, .done)
  | .dropErrors => (s.step .dropErrors, .done)
  | .join =>
    match s.pool.handle with
    | .held => (s.step .join, .done)
    | .joining | .released => (s.abandonJoin, .done)
  | .shutdown =>
    match s.pool.handle with
    | .held => ((s.step .shutdown).reorder .wakeStopped, .done)
    | .joining | .released => (s.abandonJoin, .done)
  | .dropHandle =>
    match s.pool.handle with
    | .held => (s.step .dropHandle, .done)
    | .joining | .released => (s, .done)
  | .setTransform rule => (s.step (.setTransform rule.transform), .done)
  | .look => (s, .done)

/-- Lets the workers run until nobody can go on, and looks whether waiting has
    come to an end. -/
def settle (s : Session) : Session :=
  let s' := s.reorder .settle
  match s'.pool.handle with
  | .joining => { s' with join := some s'.pool.joinStatus }
  | .held | .released => s'

/-- What the handle shows. -/
def handleView? (s : Session) : Option HandleView :=
  match s.pool.handle with
  | .held =>
    some
      { workerCount := s.pool.workerCount
        droppedErrors := s.pool.droppedErrors
        isFinished := s.pool.isFinished }
  | .joining | .released => none

/-- What can be seen of a session, with the events from the `start`-th on. -/
def view (s : Session) (answer : Answer) (start : Nat) : View :=
  { answer
    handle := s.handleView?
    join := s.join
    backlog := s.pool.queue.length
    receiving := s.pool.workers.count .receiving
    trace := traceFrom s.pool start }

/-- The session after a command, and what can be seen then. -/
def perform (s : Session) (command : Command) : Session × View :=
  let (s', answer) := s.obey command
  let settled := s'.settle
  (settled, settled.view answer s.pool.record.length)

def performAll (s : Session) : List Command → Session × List View
  | [] => (s, [])
  | command :: rest =>
    let (s', view) := s.perform command
    let (last, views) := s'.performAll rest
    (last, view :: views)

end Session

/-! ### Plans -/

/-- A pool to start and what is done with it. -/
structure Plan where
  params : PoolParams
  around : Surroundings
  workload : Workload
  commands : List Command

/-- What a plan comes to. -/
inductive Outturn where
  | refused (error : PoolError) (backlog : Nat)
  | panicked (payload : Payload)
  /-- The pool runs: what can be seen after the start and after each command,
      and the first and last lines of the workers. -/
  | played (views : List View) (lifeCycle : List String)

def Plan.play (plan : Plan) : Outturn :=
  match Pool.start plan.params plan.around with
  | .refused e => .refused e plan.around.queue.length
  | .panicked payload _ => .panicked payload
  | .started pool =>
    let first : Session :=
      { schedule := .ofScripted (.ofPool pool plan.workload), join := none }
    let session := first.settle
    let (last, views) := session.performAll plan.commands
    .played (session.view .started 0 :: views) (lifeCycle last.pool)

end ConsumerPool.Scenario
