import ConsumerPool.Panic

/-! # The Log

  The lines that a pool and its workers write, each at one of three levels,
  and the logger that takes them. A logger is foreign code and may panic on
  any line. The default logger forwards every line to the subscribers of a
  named target. -/

namespace ConsumerPool

/-- How important a line is. -/
inductive LogLevel where
  | info
  | debug
  | error
deriving DecidableEq, Inhabited

/-- A line of the log. -/
inductive LogLine where
  | poolStarted (workers : Nat) (url : String)
  | workerStarted (worker : Nat)
  | workerStopped (worker : Nat)
  | processing (id : String)
  | deleteFailed (id : String) (error : PoolError)
  | completed (id : String)
  | errorDropped (error : PoolError)
deriving DecidableEq

namespace LogLine

/-- The level a line is written at. -/
def level : LogLine → LogLevel
  | .poolStarted _ _ => .info
  | .deleteFailed _ _ => .error
  | .workerStarted _ | .workerStopped _ | .processing _ | .completed _
  | .errorDropped _ => .debug

/-- The text of a line that says what the worker of this name has done. -/
def ofWorker (name : String) (verb : String) : String :=
  "sqsworker : worker " ++ name ++ " " ++ verb

/-- The text of a line. -/
def text : LogLine → String
  | .poolStarted workers url =>
      "sqsworker : started " ++ toString workers ++ " workers on " ++ url
  | .workerStarted worker => ofWorker (toString worker) "started"
  | .workerStopped worker => ofWorker (toString worker) "stopped"
  | .processing id => "sqsworker : in process on msg " ++ id
  | .deleteFailed id error =>
      "sqsworker : failed to delete msg " ++ id ++ ": " ++ error.message
  | .completed id => "sqsworker : completed process on msg " ++ id
  | .errorDropped error =>
      "sqsworker : error channel unavailable, dropped error: " ++ error.message

end LogLine

/-! ### Loggers -/

/-- A logger, known by what it does to those who call it. -/
structure Logger where
  /-- The target whose subscribers get the lines, if it forwards them. -/
  target : Option String := none
  /-- What the call that writes the `n`-th line panics with, if it does; lines
      are counted from zero. -/
  panics : Nat → LogLine → Option Payload

namespace Logger

/-- The logger that takes every line without a panic. -/
def steady : Logger := { panics := fun _ _ => none }

/-- The default logger, which forwards every line. -/
def forwarding : Logger := { target := some "sqs_worker", panics := fun _ _ => none }

/-- Whether a logger takes every line without a panic. -/
def Steady (logger : Logger) : Prop := ∀ n line, logger.panics n line = none

end Logger

end ConsumerPool
