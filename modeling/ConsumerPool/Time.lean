/-! # Time

  Clock readings and durations are natural numbers of nanoseconds. -/

namespace ConsumerPool.Time

def perSecond : Nat := 1000000000

def perMilli : Nat := 1000000

def ofMillis (ms : Nat) : Nat := ms * perMilli

/-- A duration of seconds and nanoseconds; the latter may exceed a second. -/
def ofParts (seconds nanos : Nat) : Nat := seconds * perSecond + nanos

def seconds (t : Nat) : Nat := t / perSecond

/-- The nanoseconds of a duration beyond its whole seconds. -/
def subsecond (t : Nat) : Nat := t % perSecond

end ConsumerPool.Time
