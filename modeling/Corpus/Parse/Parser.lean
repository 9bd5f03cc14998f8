import Corpus.Parse.Cursor
import Corpus.Parse.Failure

/-!
# Parsers

A parser reads at a cursor and replies with a value or a failure, and in both cases with the
cursor where it stopped. **A failure does not take the cursor back.** Where it is left tells the
caller how far the parser had got: at the start, and another parser may be tried there; further
on, and the input had begun to match, so that the failure is the answer (`Parse/Choice.lean`).

Parsers run one after another by `do`: the first failure ends the sequence.
-/

set_option autoImplicit false

namespace Corpus.Parse

/-- What a parser replies: a value or a failure, and the cursor where it stopped. -/
inductive Reply (α : Type) where
  | ok (value : α) (cursor : Cursor)
  | fail (failure : Failure) (cursor : Cursor)
  deriving DecidableEq, Repr

namespace Reply

variable {α β : Type}

def cursor : Reply α → Cursor
  | .ok _ c => c
  | .fail _ c => c

/-- The same reply with its value changed. -/
def map (f : α → β) : Reply α → Reply β
  | .ok v c => .ok (f v) c
  | .fail e c => .fail e c

@[simp] theorem map_ok (f : α → β) (v : α) (c : Cursor) : (Reply.ok v c).map f = .ok (f v) c := rfl

@[simp] theorem map_fail (f : α → β) (e : Failure) (c : Cursor) :
    (Reply.fail e c : Reply α).map f = .fail e c := rfl

end Reply

/-- A way of reading a value at a cursor. -/
structure Parser (α : Type) where
  run : Cursor → Reply α

namespace Parser

variable {α β : Type}

/-- Accepts without reading. -/
protected def pure (value : α) : Parser α :=
  ⟨fun c => .ok value c⟩

/-- Runs a parser, then the one that its value gives. -/
protected def bind (p : Parser α) (next : α → Parser β) : Parser β :=
  ⟨fun c =>
    match p.run c with
    | .ok v d => (next v).run d
    | .fail e d => .fail e d⟩

protected def map (f : α → β) (p : Parser α) : Parser β :=
  ⟨fun c => (p.run c).map f⟩

instance : Monad Parser where
  pure := Parser.pure
  bind := Parser.bind
  map := Parser.map

@[simp] theorem run_pure (value : α) (c : Cursor) : (pure value : Parser α).run c = .ok value c :=
  rfl

@[simp] theorem run_map (f : α → β) (p : Parser α) (c : Cursor) :
    (f <$> p).run c = (p.run c).map f :=
  rfl

theorem run_bind (p : Parser α) (next : α → Parser β) (c : Cursor) :
    (p >>= next).run c =
      match p.run c with
      | .ok v d => (next v).run d
      | .fail e d => .fail e d :=
  rfl

/-- Refuses without reading. -/
def refuse (cause : Cause) : Parser α :=
  ⟨fun c => .fail ⟨cause, c.offset⟩ c⟩

/-- Runs both and keeps the second value. -/
def andThen (first : Parser α) (second : Parser β) : Parser β := do
  let _ ← first
  second

/-- Runs both and keeps the first value. -/
def butThen (first : Parser α) (second : Parser β) : Parser α := do
  let value ← first
  let _ ← second
  pure value

/-- Runs a parser between two others and keeps its value. -/
def between {γ : Type} (opening : Parser α) (closing : Parser β) (p : Parser γ) : Parser γ := do
  let _ ← opening
  let value ← p
  let _ ← closing
  pure value

/-- Runs a parser on a text of its own, from the start. -/
def runOn (p : Parser α) (source : String) : Reply α :=
  p.run (.start source.toList)

end Parser

end Corpus.Parse
