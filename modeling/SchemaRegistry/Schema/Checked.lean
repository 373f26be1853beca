import SchemaRegistry.Schema.Refusal

/-!
# Checked values

Checking a value answers what was made of it or why it was refused. Parts are checked side by side, so that
the refusals of all parts are reported, in the order in which the parts are written down.
-/

namespace SchemaRegistry

/-- What checking a value answers. -/
inductive Checked (α : Type) where
  | accepted (value : α)
  | refused (why : List Refusal)
deriving Repr

namespace Checked

variable {α β : Type}

/-- The checked value with `f` applied to it. -/
def map (f : α → β) : Checked α → Checked β
  | accepted value => accepted (f value)
  | refused why => refused why

/-- Applies a checked function to a checked value. The refusals of both are kept. -/
def apply : Checked (α → β) → Checked α → Checked β
  | accepted f, accepted value => accepted (f value)
  | accepted _, refused why => refused why
  | refused why, accepted _ => refused why
  | refused why, refused more => refused (why ++ more)

instance : Functor Checked where
  map := map

instance : Applicative Checked where
  pure := accepted
  seq f x := apply f (x ())

/-- A further check of the value itself, made only if the value was taken so far. -/
def andThen (x : Checked α) (f : α → Checked β) : Checked β :=
  match x with
  | accepted value => f value
  | refused why => refused why

/-- The value seen as a part of another one. -/
def under (step : Step) : Checked α → Checked α
  | accepted value => accepted value
  | refused why => refused (why.map (·.under step))

/-- Refuses the value itself. -/
def refuse (cause : Cause) : Checked α := refused [⟨[], cause⟩]

/-- The refusals. -/
def refusals : Checked α → List Refusal
  | accepted _ => []
  | refused why => why

/-- The value, if it was taken. -/
def toOption : Checked α → Option α
  | accepted value => some value
  | refused _ => none

@[simp]
theorem map_accepted (f : α → β) (a : α) : f <$> accepted a = accepted (f a) := rfl

@[simp]
theorem map_refused (f : α → β) (why : List Refusal) : f <$> refused why = refused why := rfl

@[simp]
theorem seq_accepted (f : α → β) (a : α) : accepted f <*> accepted a = accepted (f a) := rfl

end Checked

end SchemaRegistry
