import ConsumerPool.Log

/-! # Loggers and Transforms of Scenarios

  The foreign code that a scenario can choose: a logger that panics on lines
  with a certain text, and transforms from a short list. -/

namespace ConsumerPool.Scenario

/-! ### Loggers -/

/-- Whether a text occurs in another. -/
def occursIn (part : List Char) : List Char → Bool
  | [] => part.isEmpty
  | c :: cs => part.isPrefixOf (c :: cs) || occursIn part cs

/-- A logger that keeps every line, and panics on those that hold the text
    `trigger` if there is one. -/
def keepingLogger (trigger : Option String) : Logger where
  panics _ line :=
    match trigger with
    | some part =>
      if occursIn part.toList line.text.toList then some (.text "logger panic") else none
    | none => none

/-! ### Transforms -/

/-- A transform of recovered errors. -/
inductive TransformRule where
  | identity
  | labelled (label : String)
  | constant (text : String)
  | asReceiveError
  /-- Shows the payload of a panic; keeps other errors. -/
  | showPayload
  | panics (payload : Payload)
deriving DecidableEq, Inhabited

def TransformRule.change (rule : TransformRule) : Change := fun e =>
  match rule with
  | .identity => .ok e
  | .labelled label => .ok (.generic (label ++ ": " ++ e.message))
  | .constant text => .ok (.generic text)
  | .asReceiveError => .ok (.pool (.receive e.message))
  | .showPayload =>
    match e with
    | .panicked payload => .ok (.generic ("payload=" ++ payload))
    | .generic _ | .foreign _ | .pool _ => .ok e
  | .panics payload => .error payload

/-- A rule keeps no state. -/
def TransformRule.transform (rule : TransformRule) : Transform := .always rule.change

/-- The first of several transforms set for a process. -/
def firstTransform (rules : List TransformRule) : Option Transform :=
  rules.head?.map TransformRule.transform

end ConsumerPool.Scenario
