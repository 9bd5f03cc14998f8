import Corpus.Text.Pictographic
import Corpus.Text.WordBreak

/-!
# Words

`words` cuts a text at its word boundaries. A boundary is decided from both sides: by the
characters read so far, of which a few facts are enough (`Context`), and by the character that
comes next together with what follows it.

**Marks do not count.** An extending mark, a format character or a joiner belongs to the
character before it, and the rules look through it to its base (`Context.base`, `ahead`). It
stands for itself only where there is nothing to belong to: at the start of the text and after a
line break.

**A joined pictograph completes a piece.** A pictograph directly behind a joiner is never cut off
from it. A sign that needs a letter or a digit after it is content with such a pictograph, and
what the pictograph ends takes nothing more in but marks and further joined pictographs.

The rules are grouped as they are read: line breaks first, then the two that see the characters
as they stand, then those on bases (`Context.baseJoins`). Where none joins, the text is cut.
-/

set_option autoImplicit false

namespace Corpus.Text

namespace WordBreak

/-- A line break, which is cut off on both sides. -/
def isLineBreak (w : WordBreak) : Bool :=
  w == .carriageReturn || w == .lineFeed || w == .newline

/-- A character that belongs to the one before it. -/
def isMark (w : WordBreak) : Bool :=
  w == .extend || w == .format || w == .zeroWidthJoiner

/-- A letter of any script. -/
def isLetter (w : WordBreak) : Bool :=
  w == .letter || w == .hebrewLetter

/-- A sign that stands inside a word when it has letters on both sides. -/
def joinsLetters (w : WordBreak) : Bool :=
  w == .midLetter || w == .midBoth || w == .singleQuote

/-- A sign that stands inside a number when it has digits on both sides. -/
def joinsDigits (w : WordBreak) : Bool :=
  w == .midNumber || w == .midBoth || w == .singleQuote

/-- A character that a connector holds on to. -/
def isConnectable (w : WordBreak) : Bool :=
  w.isLetter || w == .numeric || w == .katakana

end WordBreak

/-- Whether the character is a pictograph held by a joiner, when the character before it is of
class `last`. -/
def isJoined (last : WordBreak) (c : Char) : Bool :=
  last == .zeroWidthJoiner && isPictographic c

/-- What comes next in a text once marks are passed over. -/
inductive Ahead where
  /-- A base of this class; the end of the text counts as one of no class in particular. -/
  | base (w : WordBreak)
  | joined
  deriving DecidableEq, Repr

/-- Whether a sign that needs a base of some sort after it has enough. -/
def Ahead.completes (a : Ahead) (accepts : WordBreak → Bool) : Bool :=
  match a with
  | .base w => accepts w
  | .joined => true

/-- What comes next in a text that follows a character of class `last`. -/
def ahead (last : WordBreak) : List Char → Ahead
  | [] => .base .other
  | c :: rest =>
    let here := WordBreak.of c
    if here.isMark then ahead here rest
    else if isJoined last c then .joined
    else .base here

/-- What the boundary rules remember of the text already read. -/
structure Context where
  /-- The class of the last character. -/
  last : WordBreak
  /-- The class of the last character that marks are attached to. A joined pictograph counts
  as one of no class in particular, so that only marks are attached to it. -/
  base : WordBreak
  /-- The class of the base before that one. -/
  earlier : WordBreak
  /-- Whether the base is a regional indicator still without its partner. -/
  unpaired : Bool
  deriving DecidableEq, Repr

namespace Context

def start (c : Char) : Context :=
  ⟨.of c, .of c, .other, WordBreak.of c == .regionalIndicator⟩

/-- After one more character. A mark changes the last character only, unless it follows a line
break and so has no base. -/
def read (ctx : Context) (c : Char) : Context :=
  let here := WordBreak.of c
  if here.isMark && !ctx.last.isLineBreak then { ctx with last := here }
  else if isJoined ctx.last c then ⟨here, .other, ctx.base, false⟩
  else
    ⟨here, here, ctx.base, here == .regionalIndicator && !(ctx.base == .regionalIndicator && ctx.unpaired)⟩

/-- The rules on bases: whether a base of class `here` continues the piece, when `next` comes
after it. -/
def baseJoins (ctx : Context) (here : WordBreak) (next : Ahead) : Bool :=
  -- letters, and a sign between letters seen from either side
  (ctx.base.isLetter && here.isLetter)
  || (ctx.base.isLetter && here.joinsLetters && next.completes WordBreak.isLetter)
  || (ctx.earlier.isLetter && ctx.base.joinsLetters && here.isLetter)
  -- Hebrew abbreviations
  || (ctx.base == .hebrewLetter && here == .singleQuote)
  || (ctx.base == .hebrewLetter && here == .doubleQuote && next.completes (· == .hebrewLetter))
  || (ctx.earlier == .hebrewLetter && ctx.base == .doubleQuote && here == .hebrewLetter)
  -- digits, alone and beside letters, and a sign between digits seen from either side
  || (ctx.base == .numeric && here == .numeric)
  || (ctx.base.isLetter && here == .numeric)
  || (ctx.base == .numeric && here.isLetter)
  || (ctx.earlier == .numeric && ctx.base.joinsDigits && here == .numeric)
  || (ctx.base == .numeric && here.joinsDigits && next.completes (· == .numeric))
  -- katakana, and connectors
  || (ctx.base == .katakana && here == .katakana)
  || ((ctx.base.isConnectable || ctx.base == .connector) && here == .connector)
  || (ctx.base == .connector && here.isConnectable)
  -- regional indicators, two by two
  || (ctx.base == .regionalIndicator && here == .regionalIndicator && ctx.unpaired)

/-- Whether the character continues the piece before it, with `rest` after it. -/
def joins (ctx : Context) (c : Char) (rest : List Char) : Bool :=
  let here := WordBreak.of c
  if ctx.last.isLineBreak || here.isLineBreak then
    ctx.last == .carriageReturn && here == .lineFeed
  else
    isJoined ctx.last c
    || (ctx.last == .space && here == .space)
    || here.isMark
    || ctx.baseJoins here (ahead here rest)

end Context

/-- Cuts the rest of a text, whose last piece so far is given backwards. -/
def wordsFrom (ctx : Context) (piece : List Char) : List Char → List (List Char)
  | [] => [piece.reverse]
  | c :: rest =>
    if ctx.joins c rest then wordsFrom (ctx.read c) (c :: piece) rest
    else piece.reverse :: wordsFrom (ctx.read c) [c] rest

/-- The pieces of a text between its word boundaries, in order. -/
def words : List Char → List (List Char)
  | [] => []
  | c :: rest => wordsFrom (.start c) [c] rest

end Corpus.Text
