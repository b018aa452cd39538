import FluentSql.Fault
import FluentSql.Query.Basic

/-!
# Statements

Fragments of SQL with slots for values, the clauses that statements share, and the statements that
a query compiles to.
-/

namespace FluentSql

/-! ### Fragments of SQL

A fragment is text with slots, and each slot holds the value that is bound there. What goes to the
engine are two views of it: the SQL text with a question mark for each slot, and the values in the
order of their slots.
-/

/-- A piece of SQL: text, or a slot with the value bound to it. -/
inductive Piece where
  | text (s : String)
  | slot (value : Value)
  deriving Repr

/-- A run of pieces. -/
structure Fragment where
  pieces : List Piece
  deriving Repr

/-- The mark of a slot in SQL text. -/
def placeholder : String := "?"

/-- The mark at the end of a statement. -/
def terminator : String := ";"

namespace Fragment

def text (s : String) : Fragment := ⟨[.text s]⟩

def slot (value : Value) : Fragment := ⟨[.slot value]⟩

def append (a b : Fragment) : Fragment := ⟨a.pieces ++ b.pieces⟩

instance : Append Fragment := ⟨append⟩

/-- Fragments with a separator between each two. -/
def joined (separator : String) : List Fragment → Fragment
  | [] => ⟨[]⟩
  | [single] => single
  | first :: rest => first ++ text separator ++ joined separator rest

/-- A slot for each value, with commas between them. -/
def slots (values : List Value) : Fragment :=
  joined "," (values.map slot)

def pieceSql : Piece → String
  | .text s => s
  | .slot _ => placeholder

def pieceParam? : Piece → Option Value
  | .text _ => none
  | .slot value => some value

/-- The SQL text, with a question mark for each slot. -/
def sql (f : Fragment) : String :=
  String.join (f.pieces.map pieceSql)

/-- The values of the slots, in order. -/
def params (f : Fragment) : List Value :=
  f.pieces.filterMap pieceParam?

end Fragment

/-- A complete statement: a fragment that the terminator follows. -/
structure Statement where
  body : Fragment
  deriving Repr

namespace Statement

/-- The statement whose parts are separated by spaces. -/
def ofParts (parts : List Fragment) : Statement :=
  ⟨.joined " " parts⟩

def sql (s : Statement) : String :=
  s.body.sql ++ terminator

/-- The values bound to a statement, in the order of their slots. -/
def params (s : Statement) : List Value :=
  s.body.params

end Statement

/-! ### Clauses

The parts that statements share: the chain of conditions, the joins, and the tail of conditions,
order and numbers of rows.
-/

/-- A comparison with its value's slot. -/
def Comparison.condition (c : Comparison) : Fragment :=
  .text (c.field ++ c.operator) ++ .slot c.value

/-- A membership test by the given keywords, with a slot for each member. -/
def Membership.condition (keywords : String) (m : Membership) : Fragment :=
  .text (m.field ++ " " ++ keywords ++ " (") ++ .slots m.members ++ .text ")"

def Join.clause (j : Join) : Fragment :=
  .text (j.kind.keyword ++ " " ++ j.table ++ " " ++ j.condition)

def Column.sql (c : Column) : String :=
  match c.label with
  | some label => c.name ++ " AS " ++ label
  | none => c.name

namespace Query

/-- One condition per predicate: comparisons, memberships, exclusions, nulls and what is not null,
each kind in the order of declaration. -/
def conditions (q : Query) : List Fragment :=
  q.comparisons.map Comparison.condition ++
  q.memberships.map (Membership.condition "IN") ++
  q.exclusions.map (Membership.condition "NOT IN") ++
  q.nulls.map (fun field => .text (field.shown ++ " IS NULL")) ++
  q.notNulls.map (fun field => .text (field.shown ++ " IS NOT NULL"))

def whereClause (q : Query) : List Fragment :=
  if q.hasPredicates then [.text "WHERE " ++ .joined " AND " q.conditions] else []

def orderClause (q : Query) : List Fragment :=
  match q.order with
  | some order => [.text ("ORDER BY " ++ order.field ++ " " ++ order.direction.keyword)]
  | none => []

/-- A clause that holds a number of rows, if there is a number. -/
def countClause (keyword : String) : Option Int → List Fragment
  | some number => [.text (keyword ++ " " ++ Value.decimal number)]
  | none => []

/-- The numbers that are written in the tail of a statement. -/
def rowNumbers (q : Query) : List Value :=
  (q.limit.toList ++ q.offset.toList).map .int

/-- The clauses after the table and the joins. -/
def tail (q : Query) : List Fragment :=
  q.whereClause ++ q.orderClause ++ countClause "LIMIT" q.limit ++ countClause "OFFSET" q.offset

end Query

/-! ### Statements from queries

The statements that a query compiles to, alone or together with row data. Row data are a mapping
from fields to values; each value becomes a slot.
-/

/-- Reads the names that are to be joined; the first value that is no name is at fault. -/
def namesToJoin (values : List Value) : Except Fault (List Name) :=
  go 0 values
where
  /-- Reads the values from the given index on. -/
  go (index : Nat) : List Value → Except Fault (List Name)
    | [] => .ok []
    | value :: rest =>
      match value.name? with
      | some name => (go (index + 1) rest).map (name :: ·)
      | none => .error (.notJoinable index value)

/-- Names with a comma and a space between them. -/
def nameList (names : List Name) : String :=
  ", ".intercalate (names.map Name.plain)

/-- A question mark for each element of a value, with commas between them. -/
def placeholdersFor (value : Value) : Except Fault String :=
  match value.size? with
  | some n => .ok (Fragment.slots (List.replicate n .null)).sql
  | none => .error (.notSized value)

/-- The entries of row data. -/
def rowData (statement : RowStatement) : Value → Except Fault (List (Value × Value))
  | .map entries => .ok entries
  | data => .error (.notRowData statement data)

/-- The entries of row data for a statement that needs at least one field. -/
def filledRowData (statement : RowStatement) (data : Value) :
    Except Fault (List (Value × Value)) := do
  let entries ← rowData statement data
  if entries.isEmpty then .error (.emptyRowData statement data) else return entries

/-- The names of a conflict target: none, one, or all elements of a collection. -/
def conflictTargets : Value → Except Fault (List Value)
  | .null => .ok []
  | .text s => .ok [.text s]
  | .direction d => .ok [.direction d]
  | value =>
    match value.elements? with
    | some elements => .ok elements
    | none => .error (.notIterable value)

/-- The head of an insertion: the table, its fields, and a slot for each value. -/
def insertHead (table : String) (fields : List Name) (values : List Value) : Fragment :=
  .text ("INSERT INTO " ++ table ++ " (" ++ nameList fields ++ ") VALUES (") ++ .slots values ++
    .text ")"

/-- What an insertion does about a conflict: it sets the fields that are no target, if there are
any. -/
def conflictClause (targets fields : List Name) : Fragment :=
  let target := if targets.isEmpty then "" else "(" ++ nameList targets ++ ") "
  let updated := fields.filter fun field => !(targets.map Name.plain).contains field.plain
  let settings := updated.map fun field => field.shown ++ "=excluded." ++ field.shown
  let action :=
    if updated.isEmpty then "DO NOTHING" else "DO UPDATE SET " ++ ", ".intercalate settings
  .text ("ON CONFLICT " ++ target ++ action)

def assignment (entry : Value × Value) : Fragment :=
  .text (entry.1.display ++ "=") ++ .slot entry.2

namespace Query

/-- The statement that selects the rows, as far as its numbers of rows can be written. -/
def select (q : Query) : Statement :=
  let columns := if q.columns.isEmpty then "*" else ", ".intercalate (q.columns.map Column.sql)
  .ofParts ([.text ("SELECT " ++ columns ++ " FROM " ++ q.table)] ++ q.joins.map Join.clause ++
    q.tail)

/-- Compiles the statement that selects the rows. -/
def selection (q : Query) : Except Fault Statement :=
  (requireWritable q.rowNumbers).map fun _ => q.select

/-- What a count counts: the field of the first comparison, which is not null in a row that passes,
or whole rows if there is no comparison. -/
def counted (q : Query) : String :=
  match q.comparisons with
  | [] => "*"
  | first :: _ => first.field

/-- The statement that counts the rows of a query without joins. -/
def count (q : Query) : Except Fault Statement :=
  if q.joins.isEmpty then
    let head := Fragment.text ("SELECT count(" ++ q.counted ++ ") AS count FROM " ++ q.table)
    .ok (.ofParts (head :: q.whereClause))
  else
    .error .countOverJoins

/-- The statement that inserts a row, of defaults if the data have no field. -/
def insert (q : Query) (data : Value) : Except Fault Statement := do
  let entries ← rowData .insert data
  if entries.isEmpty then
    return .ofParts [.text ("INSERT INTO " ++ q.table ++ " DEFAULT VALUES")]
  let fields ← namesToJoin (entries.map (·.1))
  return .ofParts [insertHead q.table fields (entries.map (·.2))]

/-- The statement that inserts a row or, on a conflict over the target, updates the row that is
there. -/
def upsert (q : Query) (data conflict : Value) : Except Fault Statement := do
  let entries ← filledRowData .upsert data
  let targets ← conflictTargets conflict
  let targets ← namesToJoin targets
  requireWritable (entries.map (·.1))
  let fields ← namesToJoin (entries.map (·.1))
  return .ofParts [insertHead q.table fields (entries.map (·.2)), conflictClause targets fields]

def update (q : Query) (data : Value) : Except Fault Statement := do
  let entries ← filledRowData .update data
  requireWritable (entries.map (·.1) ++ q.rowNumbers)
  let assignments := Fragment.joined ", " (entries.map assignment)
  return .ofParts ((.text ("UPDATE " ++ q.table ++ " SET ") ++ assignments) :: q.tail)

/-- The statement that deletes the rows, as far as its numbers of rows can be written. -/
def delete (q : Query) : Statement :=
  .ofParts (.text ("DELETE FROM " ++ q.table) :: q.tail)

/-- Compiles the statement that deletes the rows. -/
def deletion (q : Query) : Except Fault Statement :=
  (requireWritable q.rowNumbers).map fun _ => q.delete

end Query

/-- What a query can be compiled to. -/
inductive Build where
  | select
  | count
  /-- The conditions alone. -/
  | conditions
  | delete
  | insert (data : Value)
  | update (data : Value)
  | upsert (data conflict : Value)
  deriving Repr

inductive Compiled where
  | statement (s : Statement)
  /-- The conditions of a query that has some. -/
  | conditions (fragments : List Fragment)
  | noConditions
  deriving Repr

namespace Query

def build (q : Query) : Build → Except Fault Compiled
  | .select => q.selection.map .statement
  | .count => q.count.map .statement
  | .conditions => .ok (if q.hasPredicates then .conditions q.conditions else .noConditions)
  | .delete => q.deletion.map .statement
  | .insert data => (q.insert data).map .statement
  | .update data => (q.update data).map .statement
  | .upsert data conflict => (q.upsert data conflict).map .statement

end Query

end FluentSql
