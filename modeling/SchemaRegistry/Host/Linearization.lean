/-!
# Linearization of ancestors

The ancestors of a class are put in a row that keeps the order of its bases and the row of each base. The
next in the row is the first head of the remaining rows that stands in no tail of them.
-/

namespace SchemaRegistry.Linearization

/-- `c` stands in the tail of one of the rows. -/
def inTail (rows : List (List Nat)) (c : Nat) : Bool := rows.any fun row => row.tail.contains c

/-- The first head that stands in no tail. -/
def nextHead? (rows : List (List Nat)) : Option Nat :=
  (rows.filterMap List.head?).find? fun c => !inTail rows c

/-- The row without `c` at its head. -/
def dropHead (c : Nat) : List Nat → List Nat
  | [] => []
  | head :: rest => if head = c then rest else head :: rest

/-- The heads of some rows, each once. -/
def heads (rows : List (List Nat)) : List Nat := (rows.filterMap List.head?).eraseDups

/-- Merges rows, taking at most `steps` heads. There is no merge if every head stands in a tail; the heads are
what is wrong then. -/
def merge (rows : List (List Nat)) : Nat → Except (List Nat) (List Nat)
  | 0 => if rows.all List.isEmpty then .ok [] else .error (heads rows)
  | steps + 1 =>
    match nextHead? rows with
    | some c => (merge (rows.map (dropHead c)) steps).map (c :: ·)
    | none => if rows.all List.isEmpty then .ok [] else .error (heads rows)

/-- The ancestors of a class with these bases, given the row of each base, itself first. -/
def ancestors (bases : List Nat) (rows : List (List Nat)) : Except (List Nat) (List Nat) :=
  merge (rows ++ [bases]) (rows ++ [bases]).flatten.length

end SchemaRegistry.Linearization
