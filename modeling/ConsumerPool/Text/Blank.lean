/-! # Blank Characters

  The characters with the Unicode property `White_Space`, and the text that
  is left when they are taken off both ends. -/

namespace ConsumerPool.Text

/-- The code points with the property `White_Space`, in order. -/
def blankCodes : List Nat :=
  [0x9, 0xA, 0xB, 0xC, 0xD, 0x20, 0x85, 0xA0, 0x1680,
   0x2000, 0x2001, 0x2002, 0x2003, 0x2004, 0x2005, 0x2006, 0x2007, 0x2008,
   0x2009, 0x200A, 0x2028, 0x2029, 0x202F, 0x205F, 0x3000]

/-- The property `White_Space` of a character. -/
def isBlank (c : Char) : Bool := blankCodes.contains c.toNat

/-- The characters left when the blank ones at both ends are taken off. -/
def trim (cs : List Char) : List Char :=
  ((cs.dropWhile isBlank).reverse.dropWhile isBlank).reverse

end ConsumerPool.Text
