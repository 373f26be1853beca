import SchemaRegistry.Host.Written.Token

/-!
# Expressions

What a written hint says, as a tree. Parts that have no value of interest, such as the body of a function,
are left out.
-/

namespace SchemaRegistry

/-- An expression. -/
inductive Expression where
  | constant (value : Written.Constant)
  | name (name : String)
  /-- A member of a value. -/
  | member (of : Expression) (name : String)
  | item (of key : Expression)
  | call (head : Expression) (args : List Expression)
  | unary (sign : String) (of : Expression)
  | binary (sign : String) (left right : Expression)
  /-- A row of comparisons: each sign stands before the operand of its place. -/
  | comparison (first : Expression) (signs : List String) (operands : List Expression)
  /-- Both operands have to be true, or one of them. -/
  | junction (both : Bool) (left right : Expression)
  | choice (yes condition no : Expression)
  | tuple (items : List Expression)
  | sequence (items : List Expression)
  | set (items : List Expression)
  /-- A table: its entries are pairs of a key and a value, or other tables spread out. -/
  | dict (entries : List Expression)
  /-- The items of a value in place of the value. -/
  | spread (of : Expression)
  /-- An argument with a name. -/
  | named (name : String) (value : Expression)
  | function
  /-- Values made from those of a source. -/
  | comprehension (typeName : String) (source : Expression)
  /-- A value that gets a name. -/
  | bound (name : String) (value : Expression)
  /-- Some parts in a row. A bound that is not written is `None`. -/
  | slice (start stop step : Expression)
  /-- Something that has its place in a function only. -/
  | misplaced (word : String) (line : Nat)
deriving Repr

namespace Expression

instance : Inhabited Expression := ⟨constant .nothing⟩

/-- What failures call an expression that cannot be assigned to. -/
def description : Expression → String
  | constant .nothing => "None"
  | constant (.flag value) => if value then "True" else "False"
  | constant .ellipsis => "ellipsis"
  | constant _ => "literal"
  | name _ => "name"
  | member .. => "attribute"
  | item .. => "subscript"
  | call .. => "function call"
  | unary .. | binary .. | junction .. => "expression"
  | comparison .. => "comparison"
  | choice .. => "conditional expression"
  | tuple _ => "tuple"
  | sequence _ => "list"
  | set _ => "set display"
  | dict _ => "dict literal"
  | spread _ => "starred"
  | named .. => "expression"
  | function => "lambda"
  | comprehension "list" _ => "list comprehension"
  | comprehension "set" _ => "set comprehension"
  | comprehension "dict" _ => "dict comprehension"
  | comprehension .. => "generator expression"
  | bound .. => "named expression"
  | slice .. => "slice"
  | misplaced "await" _ => "await expression"
  | misplaced .. => "yield expression"

mutual

/-- The first part that has its place in a function only: its word and its line. -/
def misplaced? : Expression → Option (String × Nat)
  | constant _ | name _ | function => none
  | member of _ | unary _ of | spread of | named _ of | comprehension _ of | bound _ of => misplaced? of
  | item of key => (misplaced? of).or (misplaced? key)
  | call head args => (misplaced? head).or (misplacedIn? args)
  | binary _ left right | junction _ left right => (misplaced? left).or (misplaced? right)
  | comparison first _ operands => (misplaced? first).or (misplacedIn? operands)
  | choice yes condition no => ((misplaced? condition).or (misplaced? yes)).or (misplaced? no)
  | slice start stop step => ((misplaced? start).or (misplaced? stop)).or (misplaced? step)
  | tuple items => misplacedIn? items
  | sequence items => misplacedIn? items
  | set items => misplacedIn? items
  | dict entries => misplacedIn? entries
  | misplaced word line => some (word, line)

/-- The first such part of several expressions. -/
def misplacedIn? : List Expression → Option (String × Nat)
  | [] => none
  | e :: rest => (misplaced? e).or (misplacedIn? rest)

end

end Expression

end SchemaRegistry
