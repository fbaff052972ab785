/-! # Environment Variables

  An environment gives some names a value. A value is a string of bytes; one
  that is not UTF-8 has no text and counts as absent. -/

namespace ConsumerPool

/-- The values of the variables that are set; the first entry of a name
    counts. -/
abbrev Environment := List (String × ByteArray)

namespace Environment

/-- The text a variable is set to, if it is set to one. -/
def text? (env : Environment) (name : String) : Option String :=
  (env.lookup name).bind String.fromUTF8?

end Environment

end ConsumerPool
