import ConsumerPool.Text.Combining
import ConsumerPool.Text.Unprintable

/-! # Quoted Texts

  A text between double quotes in which nothing is invisible: quotes,
  backslashes and the common controls are written with a backslash, other
  characters that would not show on their own by their code point. -/

namespace ConsumerPool.Text

/-- The lower-case hexadecimal digits of a number. -/
def hexDigits (n : Nat) : String := String.ofList (Nat.toDigits 16 n)

/-- A code point in its escaped form. -/
def codePointEscape (c : Char) : String := "\\u\x7b" ++ hexDigits c.toNat ++ "\x7d"

/-- What stands for a character between the quotes. -/
def escaped (c : Char) : String :=
  if c = '\x00' then "\\0"
  else if c = '\t' then "\\t"
  else if c = '\r' then "\\r"
  else if c = '\n' then "\\n"
  else if c = '\\' then "\\\\"
  else if c = '"' then "\\\""
  else if isCombining c || isUnprintable c then codePointEscape c
  else String.singleton c

def quoted (s : String) : String :=
  "\"" ++ String.join (s.toList.map escaped) ++ "\""

end ConsumerPool.Text
