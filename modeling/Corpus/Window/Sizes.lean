/-!
# Sizes of windows

A window has a random size, and so has the header at its front. Each is drawn from a range.
`WindowSizes` may hold any two ranges; `WindowSizes.check` accepts those with which every sequence
of texts can be cut.
-/

set_option autoImplicit false

namespace Corpus

/-- The numbers from the least on and below the bound. -/
structure SizeRange where
  least : Nat
  bound : Nat
  deriving DecidableEq, Repr

def SizeRange.isEmpty (r : SizeRange) : Bool :=
  r.bound ≤ r.least

/-- The ranges from which sizes are drawn, counted in texts. -/
structure WindowSizes where
  window : SizeRange
  header : SizeRange
  deriving DecidableEq, Repr

inductive SizeError where
  /-- A window may be empty, so that cutting need not get on. -/
  | zeroWindow
  | noWindow (r : SizeRange)
  | noHeader (r : SizeRange)
  deriving DecidableEq, Repr

def SizeError.message : SizeError → String
  | .zeroWindow => "min_window must be at least 1"
  | .noWindow r => s!"window range {r.least}..{r.bound} is empty"
  | .noHeader r => s!"header range {r.least}..{r.bound} is empty"

namespace WindowSizes

/-- The sizes used where nothing else is asked for. -/
def usual : WindowSizes :=
  ⟨⟨32, 128⟩, ⟨4, 16⟩⟩

/-- Looks for something wrong; the first thing found is told. -/
def check (sizes : WindowSizes) : Except SizeError Unit :=
  if sizes.window.least = 0 then .error .zeroWindow
  else if sizes.window.isEmpty then .error (.noWindow sizes.window)
  else if sizes.header.isEmpty then .error (.noHeader sizes.header)
  else .ok ()

end WindowSizes

end Corpus
