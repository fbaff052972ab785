import ConsumerPool.Time

/-! # Timers

  A timer tells when a sleep is over. An exact one lets it last as long as it
  was asked to. The standard one has two limits: no sleep lasts longer than
  thirty years, and there is a last reading of the clock after which nothing
  is waited for. -/

namespace ConsumerPool

/-- The limits of a timer. -/
structure Timer where
  /-- How long a sleep can last, if that is limited. -/
  longest : Option Nat
  /-- The last reading of the clock that a sleep can last until, if there is
      one. -/
  last : Option Nat
deriving DecidableEq

namespace Timer

def exact : Timer := { longest := none, last := none }

/-- The timer of thirty years of 365 days, whose last reading is the third
    greatest number of milliseconds in 64 bits. -/
def standard : Timer :=
  { longest := some (Time.ofMillis 946080000000)
    last := some (Time.ofMillis 18446744073709551613) }

/-- The lesser of a number and a limit, if there is one. -/
def capped (limit : Option Nat) (n : Nat) : Nat :=
  match limit with
  | some most => if n ≤ most then n else most
  | none => n

/-- The reading of the clock at which a sleep ends that begins at `now`. -/
def deadline (timer : Timer) (now duration : Nat) : Nat :=
  capped timer.last (now + capped timer.longest duration)

end Timer

end ConsumerPool
