/-! # Messages

  A message as the queue service hands it out. Each of its parts may be
  absent; an absent part is kept apart from an empty one. -/

namespace ConsumerPool

/-- A message of the queue. -/
structure Message where
  id : Option String
  /-- Names this delivery of the message; a delete asks for it. -/
  handle : Option String
  body : Option String
deriving DecidableEq, Inhabited

namespace Message

/-- The id that logs and errors show: empty where there is none. -/
def shownId (m : Message) : String := m.id.getD ""

/-- The body as a task reads it: empty where there is none. -/
def shownBody (m : Message) : String := m.body.getD ""

end Message

end ConsumerPool
