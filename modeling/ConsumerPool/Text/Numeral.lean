/-! # Decimal Numerals

  A numeral is an optional sign and at least one ASCII digit, and nothing
  else. Its value is an integer, read from the most significant digit on. -/

namespace ConsumerPool.Text

/-- The value of an ASCII digit. -/
def digit? (c : Char) : Option Nat :=
  if '0' ≤ c ∧ c ≤ '9' then some (c.toNat - '0'.toNat) else none

/-- The number that the digits of a text give when they follow those of `n`;
    nothing where some character is no digit. -/
def digitsFrom? (n : Nat) : List Char → Option Nat
  | [] => some n
  | c :: cs =>
    match digit? c with
    | some d => digitsFrom? (10 * n + d) cs
    | none => none

/-- The value of an unsigned numeral. -/
def natural? : List Char → Option Nat
  | [] => none
  | c :: cs => digitsFrom? 0 (c :: cs)

/-- The value of a numeral with an optional sign. -/
def integer? : List Char → Option Int
  | [] => none
  | c :: cs =>
    if c = '-' then (natural? cs).map (fun n => -(n : Int))
    else if c = '+' then (natural? cs).map (fun n => (n : Int))
    else (natural? (c :: cs)).map (fun n => (n : Int))

/-- The decimal numeral of an integer: a minus sign only where it is negative. -/
def numeral (n : Int) : String := toString n

end ConsumerPool.Text
