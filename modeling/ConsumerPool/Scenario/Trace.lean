import ConsumerPool.Pool.Basic

/-! # Traces

  What a scenario shows of the record: the lines of the log and the calls of
  foreign code. Which of several equal workers wrote a line is hidden there
  and told apart in the life cycle, which lists each worker's first and last
  line. -/

namespace ConsumerPool.Scenario

/-- An entry of a trace. -/
inductive Entry where
  | line (target : Option String) (level : LogLevel) (text : String)
  | receive (limit : Int)
  | task (message : Message)
  | delete (message : Message)
  /-- A call of a transform on an error of this text. -/
  | transform (origin : Origin) (text : String)
deriving DecidableEq

/-- The text of a line without the number of the worker it is about. -/
def maskedText : LogLine → String
  | .workerStarted _ => LogLine.ofWorker "*" "started"
  | .workerStopped _ => LogLine.ofWorker "*" "stopped"
  | line => line.text

/-- What a trace shows of an event. -/
def Entry.ofEvent? (target : Option String) (event : Event) : Option Entry :=
  match event.act with
  | .logged l => some (.line target l.level (maskedText l))
  | .receiveBegun => some (.receive messagesPerPoll)
  | .taskBegun m => some (.task m)
  | .deleteBegun m => some (.delete m)
  | .transformed origin e => some (.transform origin e.message)
  | .received _ | .receiveAbandoned | .taskEnded _ _ | .reported _ _
  | .deleteEnded _ _ | .paused _ | .exited | .crashed _ | .errorRead _
  | .errorsDiscarded _ => none

def traceFrom (s : Pool) (start : Nat) : List Entry :=
  (s.record.drop start).filterMap (Entry.ofEvent? s.params.loggerInUse.target)

/-- The first and the last line of a worker. -/
def lifeLine? (w : Nat) (event : Event) : Option String :=
  match event.act with
  | .logged (.workerStarted v) =>
    if v = w then some (LogLine.workerStarted v).text else none
  | .logged (.workerStopped v) =>
    if v = w then some (LogLine.workerStopped v).text else none
  | _ => none

/-- The first and last lines of all workers, by number. -/
def lifeCycle (s : Pool) : List String :=
  (List.range s.workerCount).flatMap fun w => s.record.filterMap (lifeLine? w)

end ConsumerPool.Scenario
