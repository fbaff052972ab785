import ConsumerPool.Environment
import ConsumerPool.Error
import ConsumerPool.Text.Blank
import ConsumerPool.Text.Numeral

/-! # Queue Parameters

  Which queue to poll and within which limits. Parameters can hold any
  numbers; `check` compares them with the limits of the queue service. They
  are given directly or read from the environment, where the two numbers may
  be surrounded by blanks. -/

namespace ConsumerPool

/-- The most messages that one request to the service may ask for. -/
def maxBatchSize : Int := 10

/-- The longest time in seconds that one request may wait for messages. -/
def maxWaitSeconds : Int := 20

/-- The queue to poll and how to ask it for messages. -/
structure QueueParams where
  region : String := ""
  url : String := ""
  /-- The most messages that one receive may return. -/
  maxMessages : Int := maxBatchSize
  /-- How many seconds a receive waits for messages. -/
  waitSeconds : Int := maxWaitSeconds
deriving DecidableEq, Inhabited

namespace QueueParams

/-! ### The limits of the service -/

/-- What the service would refuse in queue parameters. -/
inductive Fault where
  | missingUrl
  | maxMessages (given : Int)
  | waitSeconds (given : Int)
deriving DecidableEq

/-- The text about a number of messages that is not from 1 to a limit. -/
def batchRangeText (limit given : Int) : String :=
  "max received messages must be from 1 to " ++ Text.numeral limit ++ ", got "
    ++ Text.numeral given

def Fault.message : Fault → String
  | .missingUrl => "missing queue url"
  | .maxMessages given => batchRangeText maxBatchSize given
  | .waitSeconds given =>
      "wait time seconds must be from 0 to " ++ Text.numeral maxWaitSeconds
        ++ ", got " ++ Text.numeral given

/-- The error a client is refused with for a fault. -/
def Fault.error (fault : Fault) : PoolError := .initialization fault.message

/-- The first fault of the parameters, if they have one. -/
def fault? (params : QueueParams) : Option Fault :=
  if params.url = "" then some .missingUrl
  else if ¬ (1 ≤ params.maxMessages ∧ params.maxMessages ≤ maxBatchSize) then
    some (.maxMessages params.maxMessages)
  else if ¬ (0 ≤ params.waitSeconds ∧ params.waitSeconds ≤ maxWaitSeconds) then
    some (.waitSeconds params.waitSeconds)
  else none

/-- Whether the service accepts the parameters, and the first error if not. -/
def check (params : QueueParams) : Except PoolError Unit :=
  match params.fault? with
  | some fault => .error fault.error
  | none => .ok ()

/-! ### Reading the environment -/

def minSetting : Int := -2147483648

def maxSetting : Int := 2147483647

/-- The number that the text of a variable holds: a numeral between blanks, of
    32 bits. -/
def setting? (text : String) : Option Int :=
  match Text.integer? (Text.trim text.toList) with
  | some n => if minSetting ≤ n ∧ n ≤ maxSetting then some n else none
  | none => none

/-- The number a variable holds, `default` where it has no text. -/
def readSetting (env : Environment) (name : String) (default : Int) :
    Except PoolError Int :=
  match env.text? name with
  | none => .ok default
  | some text =>
    match setting? text with
    | some n => .ok n
    | none => .error (.invalidConfig (name ++ " is not a valid number: " ++ text))

/-- The parameters that an environment describes. The region and the address
    are empty where their variables are absent. -/
def ofEnvironment (env : Environment) : Except PoolError QueueParams := do
  let maxMessages ← readSetting env "SQS_MAX_RECEIVED_MESSAGES" maxBatchSize
  let waitSeconds ← readSetting env "SQS_WAIT_TIME_SECONDS" maxWaitSeconds
  return {
    region := (env.text? "AWS_REGION").getD ""
    url := (env.text? "SQS_QUEUE_URL").getD ""
    maxMessages
    waitSeconds }

end QueueParams

end ConsumerPool
