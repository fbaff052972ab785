/-! # Errors of a Consumer Pool

  Two kinds of error refer to each other. A `PoolError` is what the pool
  itself reports; a `TaskError` is the cause that a task gives for a failed
  message. A pool error may stand inside a task error and the other way
  round, to any depth. Each has the text that is shown for it and the chain
  of texts of the errors below it. -/

namespace ConsumerPool

/-! ### The two kinds of error -/

mutual

/-- An error that the pool reports or returns. -/
inductive PoolError where
  | invalidConfig (text : String)
  | initialization (text : String)
  | receive (text : String)
  | task (messageId : String) (source : TaskError)
  | delete (messageId : String) (reason : String)
  | send (text : String)
  | join (text : String)
  /-- Any other error; it is also its own source. -/
  | generic (text : String)

/-- The cause that a task gives for its failure. -/
inductive TaskError where
  | generic (text : String)
  | panicked (payload : String)
  /-- An error of a type the library does not know. -/
  | foreign (text : String)
  | pool (error : PoolError)

end

deriving instance DecidableEq for PoolError, TaskError

instance : Inhabited PoolError := ⟨.generic ""⟩

instance : Inhabited TaskError := ⟨.generic ""⟩

/-! ### Texts -/

mutual

/-- The text of a pool error. -/
def PoolError.message : PoolError → String
  | .invalidConfig text => "invalid worker configuration: " ++ text
  | .initialization text => "failed to initialize AWS SQS client: " ++ text
  | .receive text => "failed to receive messages: " ++ text
  | .task messageId source =>
      "failed to execute task on message " ++ messageId ++ ": " ++ source.message
  | .delete messageId reason =>
      "failed to delete message " ++ messageId ++ ": " ++ reason
  | .send text => "failed to send message: " ++ text
  | .join text => "worker task failed: " ++ text
  | .generic text => text

/-- The text of a task error. -/
def TaskError.message : TaskError → String
  | .generic text => text
  | .panicked payload => "task panicked: " ++ payload
  | .foreign text => text
  | .pool error => error.message

end

/-! ### Sources -/

mutual

/-- The texts of the errors below a pool error, the nearest first. -/
def PoolError.sources : PoolError → List String
  | .task _ source => source.message :: source.sources
  | .generic text => [text]
  | .invalidConfig _ | .initialization _ | .receive _ | .delete _ _ | .send _
  | .join _ => []

/-- The texts of the errors below a task error, the nearest first. -/
def TaskError.sources : TaskError → List String
  | .pool error => error.sources
  | .generic _ | .panicked _ | .foreign _ => []

end

/-- The message a pool error is about: that of its outermost layer. -/
def PoolError.messageId? : PoolError → Option String
  | .task messageId _ => some messageId
  | .delete messageId _ => some messageId
  | .invalidConfig _ | .initialization _ | .receive _ | .send _ | .join _
  | .generic _ => none

end ConsumerPool
