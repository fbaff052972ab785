import ConsumerPool.Pool.Basic

/-! # Steps of a Pool

  A pool is a labelled transition system. A label names who acts, a worker
  or the outside, and what foreign code does in that step: a step calls
  foreign code at most once before it gives way. A label that does not fit
  the state leaves it as it is, so any list of labels is a run, and what holds
  of every run holds of every schedule. -/

namespace ConsumerPool

/-! ### Labels -/

/-- What a task or a delete that runs does next. -/
inductive Move (ε : Type) (π : Type := Payload) where
  | fireStop
  | finish (outcome : Outcome ε π)
deriving DecidableEq, Inhabited

/-- A step of a pool. -/
inductive Label where
  /-- A worker takes the step that is due, outside a task or a delete. -/
  | run (worker : Nat)
  | task (worker : Nat) (move : Move TaskError Thrown)
  | delete (worker : Nat) (move : Move PoolError)
  | push (responses : List Response)
  | fireStop
  | advance (duration : Nat)
  | setTransform (transform : Transform)
  | readError
  | closeErrors
  | dropErrors
  /-- The handle is given up for waiting until every worker has ended. -/
  | join
  /-- The same, after firing the stop signal. -/
  | shutdown
  /-- The handle is dropped, or waiting is given up. -/
  | dropHandle

namespace Pool

/-! ### The worker's own steps -/

/-- Writes a line and goes on with `next`, unless the logger panics. -/
def writing (s : Pool) (w : Nat) (line : LogLine) (next : Pool → Pool) : Pool :=
  match s.write (some w) line with
  | (s', none) => next s'
  | (s', some payload) => s'.crash w payload

/-- Looks for the stop signal and begins a receive if it has not fired. -/
def poll (s : Pool) (w : Nat) : Pool :=
  if s.stop then s.enter w .leaving
  else (s.note (some w) .receiveBegun).enter w .receiving

/-- What a worker does with what a receive came to. -/
def accept (s : Pool) (w : Nat) : Received → Pool
  | .messages (m :: _) => s.enter w (.holding m)
  | .messages [] => s.enter w .idling
  | .failed e => s.enter w (.reporting e .idle)
  | .panicked payload => s.crash w payload

/-- Goes on with a receive: the stop signal wins over a response, and without
    either nothing happens. -/
def receive (s : Pool) (w : Nat) : Pool :=
  if s.stop then (s.note (some w) .receiveAbandoned).enter w .leaving
  else
    match s.queue with
    | [] => s
    | r :: rest =>
      let s' := { s with queue := rest, stop := s.stop || r.firesStop }
      (s'.note (some w) (.received r.received)).accept w r.received

def beginTask (s : Pool) (w : Nat) (m : Message) : Pool :=
  s.writing w (.processing m.shownId) fun s' =>
    (s'.note (some w) (.taskBegun m)).enter w (.inTask m)

/-- Reports an error: one that is not taken is logged. The worker then disposes of it,
    which is taken to do nothing: an error made by foreign code whose disposal panics or
    fires the stop signal is not modelled. -/
def report (s : Pool) (w : Nat) (e : PoolError) (after : AfterReport) : Pool :=
  match s.channel.report e with
  | (channel, none) =>
    ({ s with channel }.note (some w) (.reported e true)).enter w (.afterReport after)
  | (channel, some returned) =>
    ({ s with channel }.note (some w) (.reported e false)).writing w
      (.errorDropped returned) (·.enter w (.afterReport after))

def logDeleteFailure (s : Pool) (w : Nat) (m : Message) (e : PoolError) : Pool :=
  s.writing w (.deleteFailed m.shownId e) (·.enter w (.finishing m))

/-- Pauses after a poll without a message: without a delay the worker only
    lets the others run. -/
def idle (s : Pool) (w : Nat) : Pool :=
  if s.params.emptyPollDelay = 0 then s.enter w .yielding
  else if s.stop then s.enter w .leaving
  else
    let deadline := s.timer.deadline s.clock s.params.emptyPollDelay
    (s.note (some w) (.paused deadline)).enter w (.pausing deadline)

/-- Comes back from letting the others run. -/
def resume (s : Pool) (w : Nat) : Pool :=
  s.enter w (if s.stop then .leaving else .polling)

/-- Goes on with a pause: the stop signal wins over the deadline. -/
def pause (s : Pool) (w : Nat) (deadline : Nat) : Pool :=
  if s.stop then s.enter w .leaving
  else if deadline ≤ s.clock then s.enter w .polling
  else s

/-- Ends a worker that has seen the stop signal, which drops its sender. -/
def leave (s : Pool) (w : Nat) : Pool :=
  s.writing w (.workerStopped w) fun s' =>
    ((s'.note (some w) .exited).enter w .stopped).dropSender

/-- The step that is due for a worker. -/
def runWorker (s : Pool) (w : Nat) : Pool :=
  match s.workers[w]? with
  | some .spawned => s.writing w (.workerStarted w) (·.enter w .polling)
  | some .polling => s.poll w
  | some .receiving => s.receive w
  | some (.holding m) => s.beginTask w m
  | some (.reporting e after) => s.report w e after
  | some (.deleteFailed m e) => s.logDeleteFailure w m e
  | some (.finishing m) => s.writing w (.completed m.shownId) (·.enter w .polling)
  | some .idling => s.idle w
  | some .yielding => s.resume w
  | some (.pausing deadline) => s.pause w deadline
  | some .leaving => s.leave w
  | some (.inTask _) | some (.deleting _) | some .stopped | some (.crashed _)
  | none => s

/-- Whether a step is due for a worker. -/
def canRun (s : Pool) (w : Nat) : Bool :=
  match s.workers[w]? with
  | some .receiving => s.stop || !s.queue.isEmpty
  | some (.pausing deadline) => s.stop || deadline ≤ s.clock
  | some .spawned | some .polling | some (.holding _) | some (.reporting _ _)
  | some (.deleteFailed _ _) | some (.finishing _) | some .idling
  | some .yielding | some .leaving => true
  | some (.inTask _) | some (.deleting _) | some .stopped | some (.crashed _)
  | none => false

/-! ### Steps inside a task or a delete -/

def failTask (s : Pool) (w : Nat) (m : Message) (source : TaskError) : Pool :=
  s.enter w (.reporting (.task m.shownId source) .poll)

/-- Calls the transform in force, if there is one, on an error recovered from a panic. -/
def changeTask (s : Pool) (w : Nat) (m : Message) (error : TaskError) : Pool :=
  match s.transformInForce with
  | none => s.failTask w m error
  | some (origin, change) =>
    let s' := { s.note (some w) (.transformed origin error) with
      changed := s.changed ++ [error] }
    match change error with
    | .ok source => s'.failTask w m source
    | .error inner => s'.crash w inner

/-- Recovers the error of a task that panicked. -/
def recoverTask (s : Pool) (w : Nat) (m : Message) (thrown : Thrown) : Pool :=
  match thrown.recover with
  | .ok error => s.changeTask w m error
  | .error inner => s.crash w inner

/-- Ends a task: only a task that returns without an error has its message
    deleted. -/
def endTask (s : Pool) (w : Nat) (m : Message) (outcome : Outcome TaskError Thrown) : Pool :=
  let s' := s.note (some w) (.taskEnded m outcome)
  match outcome with
  | .ok => (s'.note (some w) (.deleteBegun m)).enter w (.deleting m)
  | .failed source => s'.failTask w m source
  | .panicked thrown => s'.recoverTask w m thrown

/-- Ends a delete: an error only goes to the log. -/
def endDelete (s : Pool) (w : Nat) (m : Message) (outcome : Outcome PoolError) : Pool :=
  let s' := s.note (some w) (.deleteEnded m outcome)
  match outcome with
  | .ok => s'.enter w (.finishing m)
  | .failed e => s'.enter w (.deleteFailed m e)
  | .panicked payload => s'.crash w payload

def moveTask (s : Pool) (w : Nat) (move : Move TaskError Thrown) : Pool :=
  match s.workers[w]?, move with
  | some (.inTask _), .fireStop => s.fireStop
  | some (.inTask m), .finish outcome => s.endTask w m outcome
  | _, _ => s

def moveDelete (s : Pool) (w : Nat) (move : Move PoolError) : Pool :=
  match s.workers[w]?, move with
  | some (.deleting _), .fireStop => s.fireStop
  | some (.deleting m), .finish outcome => s.endDelete w m outcome
  | _, _ => s

/-! ### Steps of the outside -/

def readResult (s : Pool) : ReadResult := (s.channel.read s.senders).2

def readError (s : Pool) : Pool :=
  match s.channel.read s.senders with
  | (channel, .error e) => { s with channel }.note none (.errorRead e)
  | (_, .empty) | (_, .disconnected) | (_, .gone) => s

def closeErrors (s : Pool) : Pool := { s with channel := s.channel.close }

def dropErrors (s : Pool) : Pool :=
  match s.channel.receiver with
  | .gone => s
  | .listening | .closed =>
    { s with channel := s.channel.drop }.note none (.errorsDiscarded s.channel.unread)

/-- Sets the transform of the process: only the first one counts. -/
def setTransform (s : Pool) (t : Transform) : Pool :=
  { s with processTransform := s.processTransform.or (some t) }

/-- Gives up the handle for waiting. -/
def beginJoin (s : Pool) : Pool :=
  match s.handle with
  | .held => { s with handle := .joining }
  | .joining | .released => s

/-- Fires the stop signal and gives up the handle for waiting. -/
def shutdown (s : Pool) : Pool :=
  match s.handle with
  | .held => s.fireStop.beginJoin
  | .joining | .released => s

/-- Drops the handle, or gives up waiting. -/
def dropHandle (s : Pool) : Pool := { s with handle := .released }

/-! ### Runs -/

def step (s : Pool) : Label → Pool
  | .run w => s.runWorker w
  | .task w move => s.moveTask w move
  | .delete w move => s.moveDelete w move
  | .push responses => { s with queue := s.queue ++ responses }
  | .fireStop => s.fireStop
  | .advance duration => { s with clock := s.clock + duration }
  | .setTransform t => s.setTransform t
  | .readError => s.readError
  | .closeErrors => s.closeErrors
  | .dropErrors => s.dropErrors
  | .join => s.beginJoin
  | .shutdown => s.shutdown
  | .dropHandle => s.dropHandle

def run (s : Pool) (labels : List Label) : Pool := labels.foldl step s

end Pool

end ConsumerPool
