import FluentSql.Fault
import FluentSql.Query.Basic

/-!
# Queries from arguments

The parts of a query, each read from the loose shapes of argument that stand for it.
-/

namespace FluentSql

/-! ### Nested groups

Arguments come as leaves and as groups of arguments, to any depth. `Nested.leaves` forgets the
groups and keeps the leaves in order.
-/

/-- A leaf, or a group of such trees. -/
inductive Nested (α : Type) where
  | leaf (a : α)
  | group (items : List (Nested α))
  deriving Repr

namespace Nested

variable {α : Type}

mutual

/-- The leaves of a tree, from left to right. -/
def leaves : Nested α → List α
  | leaf a => [a]
  | group items => leavesOf items

def leavesOf : List (Nested α) → List α
  | [] => []
  | item :: rest => leaves item ++ leavesOf rest

end

@[simp] theorem leaves_leaf (a : α) : (leaf a).leaves = [a] := by
  rw [leaves]

@[simp] theorem leaves_group (items : List (Nested α)) : (group items).leaves = leavesOf items := by
  rw [leaves]

@[simp] theorem leavesOf_nil : leavesOf ([] : List (Nested α)) = [] := by
  rw [leavesOf]

@[simp] theorem leavesOf_cons (item : Nested α) (rest : List (Nested α)) :
    leavesOf (item :: rest) = item.leaves ++ leavesOf rest := by
  rw [leavesOf]

end Nested

/-! ### Operators and directions

The comparison operators that a predicate may name, and the reading of sort directions in any letter
case.
-/

inductive Operator where
  | equal
  | equalEqual
  | notEqual
  | lessGreater
  | greater
  | less
  | greaterEqual
  | lessEqual
  | notLess
  | notGreater
  deriving DecidableEq, Repr

namespace Operator

def symbol : Operator → String
  | equal => "="
  | equalEqual => "=="
  | notEqual => "!="
  | lessGreater => "<>"
  | greater => ">"
  | less => "<"
  | greaterEqual => ">="
  | lessEqual => "<="
  | notLess => "!<"
  | notGreater => "!>"

def all : List Operator :=
  [equal, equalEqual, notEqual, lessGreater, greater, less, greaterEqual, lessEqual, notLess,
    notGreater]

def ofSymbol? (symbol : String) : Option Operator :=
  all.find? fun operator => operator.symbol == symbol

def ofValue (value : Value) : Except Fault Operator :=
  match value.text?.bind ofSymbol? with
  | some operator => .ok operator
  | none => .error (Fault.invalidOperator value).worded

end Operator

/-- The direction that a value names, in any letter case. -/
def SortDirection.ofValue (value : Value) : Except Fault SortDirection :=
  match value.text?.bind fun name => SortDirection.ofKeyword? (Text.toUpper name) with
  | some direction => .ok direction
  | none => .error (Fault.invalidDirection value).worded

/-! ### Columns from arguments

A text is a column. In a mapping each entry is one: under the label that its value gives, or under
its own name if the value is true. Lists and tuples group such arguments to any depth.
-/

/-- The name that a value must be. -/
def requireName (role : String) (value : Value) : Except Fault Name :=
  match value.name? with
  | some name => .ok name
  | none => .error (Fault.notAName role value).worded

def requireTable (value : Value) : Except Fault Name :=
  requireName "Table" value

def requireField (value : Value) : Except Fault Name :=
  requireName "Field" value

/-- A column as it was asked for: by name, and under a label if one is given. -/
structure ColumnChoice where
  name : Name
  label : Option Name := none
  deriving DecidableEq, Repr

namespace ColumnChoice

def column (c : ColumnChoice) : Column :=
  { name := c.name.plain, label := c.label.map Name.plain }

/-- The column of one entry of a mapping from names to labels. -/
def ofEntry (entry : Value × Value) : Except Fault ColumnChoice :=
  match entry.2, entry.2.name? with
  | .bool true, _ => (requireField entry.1).map fun name => { name }
  | _, some label => (requireField entry.1).map fun name => { name, label := some label }
  | label, none => .error (Fault.invalidLabel entry.1 label).worded

def ofEntries (entries : List (Value × Value)) : Except Fault (List (Nested ColumnChoice)) :=
  entries.mapM fun entry => (ofEntry entry).map .leaf

mutual

/-- The columns that one argument stands for, grouped as the argument is. -/
def ofArgument : Value → Except Fault (Nested ColumnChoice)
  | .list items | .tuple items => (ofArguments items).map .group
  | .map entries => (ofEntries entries).map .group
  | value =>
    match value.name? with
    | some name => .ok (.leaf { name })
    | none => .error (Fault.invalidColumn value).worded

def ofArguments : List Value → Except Fault (List (Nested ColumnChoice))
  | [] => .ok []
  | value :: rest => do
    let tree ← ofArgument value
    let trees ← ofArguments rest
    return tree :: trees

end

end ColumnChoice

/-- The list of columns that the arguments stand for. -/
def Column.listOf (arguments : List Value) : Except Fault (List Column) :=
  (ColumnChoice.ofArguments arguments).map fun trees =>
    (Nested.leavesOf trees).map ColumnChoice.column

/-! ### Join conditions

A text or a list of texts names the columns that both tables share; a mapping pairs a column of one
table with a column of the other.
-/

inductive JoinCondition where
  /-- Columns that both tables have. -/
  | shared (columns : List Name)
  /-- Columns that are equal in pairs. -/
  | paired (pairs : List (Name × Name))
  deriving DecidableEq, Repr

namespace JoinCondition

/-- The pair of names in an entry of a mapping. -/
def pair? (entry : Value × Value) : Option (Name × Name) :=
  match entry.1.name?, entry.2.name? with
  | some left, some right => some (left, right)
  | _, _ => none

/-- The condition that an argument stands for. No part of it may be empty or anything but names. -/
def ofArgument? : Value → Option JoinCondition
  | .list items | .tuple items =>
    if items.isEmpty then none else (items.mapM Value.name?).map .shared
  | .map entries => if entries.isEmpty then none else (entries.mapM pair?).map .paired
  | value => value.name?.bind fun name => if name.plain = "" then none else some (.shared [name])

/-- The condition that an argument stands for, or the fault of one that stands for none. -/
def ofArgument (value : Value) : Except Fault JoinCondition :=
  match ofArgument? value with
  | some condition => .ok condition
  | none => .error (.invalidJoin value)

def sql : JoinCondition → String
  | shared columns => "USING (" ++ ", ".intercalate (columns.map Name.plain) ++ ")"
  | paired pairs => "ON " ++ " AND ".intercalate (pairs.map fun p => p.1.shown ++ "=" ++ p.2.shown)

end JoinCondition

/-! ### Predicates from arguments

A predicate is a field and a value, or a field, an operator and a value, given as separate arguments
or as the items of one list or tuple. A mapping stands for one predicate per entry. A list or tuple
whose first item is a group stands for the predicates of its items, each read as a single argument.
-/

/-- A comparison that may leave its operator to the caller. -/
structure Predicate where
  field : Name
  operator : Option Operator
  value : Value
  deriving Repr

namespace Predicate

/-- The predicate whose parts are given one by one. -/
def ofParts : List Value → Except Fault Predicate
  | [field, value] => do
    let field ← requireField field
    return { field, operator := none, value }
  | [field, operator, value] => do
    let field ← requireField field
    let operator ← Operator.ofValue operator
    return { field, operator := some operator, value }
  | parts => .error (Fault.invalidPredicate parts).worded

def ofEntries (entries : List (Value × Value)) : Except Fault (List (Nested Predicate)) :=
  entries.mapM fun entry => do
    let field ← requireField entry.1
    return .leaf { field, operator := none, value := entry.2 }

/-- Whether the items of a list or tuple are to be read one by one. -/
def areGrouped : List Value → Bool
  | [] => false
  | first :: _ => first.isGroup

mutual

/-- The predicates that a single argument stands for. -/
def ofArgument : Value → Except Fault (Nested Predicate)
  | .map entries => (ofEntries entries).map .group
  | .list items | .tuple items =>
    if areGrouped items then (ofEach items).map .group else (ofParts items).map .leaf
  | value => .error (Fault.invalidPredicate [value]).worded

/-- The predicates of several arguments, each read as a single one. -/
def ofEach : List Value → Except Fault (List (Nested Predicate))
  | [] => .ok []
  | value :: rest => do
    let tree ← ofArgument value
    let trees ← ofEach rest
    return tree :: trees

end

/-- The predicates that the arguments of one call stand for. -/
def ofArguments : List Value → Except Fault (Nested Predicate)
  | [value] => ofArgument value
  | parts => (ofParts parts).map .leaf

/-- The comparison that a predicate declares, with `default` if it names no operator. -/
def comparison (default : String) (p : Predicate) : Comparison :=
  { field := p.field.plain
    operator := (p.operator.map Operator.symbol).getD default
    value := p.value }

/-- The comparisons that the arguments of one call declare. -/
def comparisons (default : Operator) (arguments : List Value) : Except Fault (List Comparison) := do
  let tree ← ofArguments arguments
  return tree.leaves.map (comparison default.symbol)

end Predicate

/-! ### Fields of null predicates

A text is a field. In a mapping each entry whose value counts as true is one. Lists and tuples group
such arguments to any depth.
-/

namespace NullField

def ofEntries (entries : List (Value × Value)) : Except Fault (List (Nested Name)) :=
  (entries.filter (·.2.truthy)).mapM fun entry => (requireField entry.1).map .leaf

mutual

/-- The fields that one argument stands for, grouped as the argument is. -/
def ofArgument : Value → Except Fault (Nested Name)
  | .list items | .tuple items => (ofArguments items).map .group
  | .map entries => (ofEntries entries).map .group
  | value =>
    match value.name? with
    | some name => .ok (.leaf name)
    | none => .error (Fault.invalidNullField value).worded

def ofArguments : List Value → Except Fault (List (Nested Name))
  | [] => .ok []
  | value :: rest => do
    let tree ← ofArgument value
    let trees ← ofArguments rest
    return tree :: trees

end

def listOf (arguments : List Value) : Except Fault (List Name) :=
  (ofArguments arguments).map Nested.leavesOf

end NullField

/-! ### Numbers of rows

The number in a limit or an offset: an integer that is not negative, also given as a truth value, as
a float whose fraction is dropped, or as a numeral in a text or in bytes.
-/

/-- The integer that a value is read as, for use in the given clause. -/
def integerOf (clause : CountClause) (value : Value) : Except Fault Int :=
  let read : Option Int → Except Fault Int
    | some n => .ok n
    | none => .error (Fault.invalidCount clause value).worded
  match value with
  | .int n => .ok n
  | .bool b => .ok b.toNat
  | .float (.finite negative mantissa exponent) =>
    .ok (Binary64.signed negative (Binary64.wholePart mantissa exponent))
  | .float (.infinity _) => .error .infiniteCount
  | .text s => read (Numeral.read? s.toList)
  | .bytes data | .buffer data => read (Numeral.readBytes? data)
  | _ => .error (Fault.invalidCount clause value).worded

/-- The number of rows that a value stands for in the given clause. -/
def rowCount (clause : CountClause) (value : Value) : Except Fault Int := do
  let number ← integerOf clause value
  if number < 0 then
    .error (Fault.negativeCount clause number value).worded
  else
    return number

end FluentSql
