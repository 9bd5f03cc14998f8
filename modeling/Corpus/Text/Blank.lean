import Corpus.Text.Ranges

/-!
# Blank characters

The property *White_Space*. A blank separates tokens in code and words in prose; nothing else
does. The table is complete, ASCII included: tab to carriage return, the plain space, and the
blanks of typography.
-/

set_option autoImplicit false

namespace Corpus.Text

def blankRanges : Ranges :=
  [(0x9, 0xD), (0x20, 0x20), (0x85, 0x85), (0xA0, 0xA0), (0x1680, 0x1680), (0x2000, 0x200A),
   (0x2028, 0x2029), (0x202F, 0x202F), (0x205F, 0x205F), (0x3000, 0x3000)]

def isBlank (c : Char) : Bool :=
  blankRanges.covers c.toNat

/-- Whether a text shows nothing: it is empty, or blank throughout. -/
def allBlank (text : String) : Bool :=
  text.toList.all isBlank

end Corpus.Text
