import FluentSql.Query.Arguments

/-!
# Calls that declare

The calls by which a query is declared, as data, and what each does to the query. A call that fails
declares nothing.
-/

namespace FluentSql

/-- A call that declares a part of a query. -/
inductive Call where
  /-- Replaces the columns. -/
  | select (arguments : List Value)
  | join (kind : JoinKind) (table condition : Value)
  /-- Adds comparisons, with `default` for an operator that the arguments do not name. -/
  | compare (default : Operator) (arguments : List Value)
  | isIn (field values : Value)
  | isNotIn (field values : Value)
  | isNull (arguments : List Value)
  | isNotNull (arguments : List Value)
  | order (field direction : Value)
  | limit (value : Value)
  | offset (value : Value)
  /-- Compares the field `id` with a value. -/
  | byId (value : Value)
  /-- Takes everything back. -/
  | reset
  deriving Repr

/-- The members of a membership test on the given field. -/
def membersOf (field : String) (values : Value) : Except Fault (List Value) :=
  match values with
  | .list items | .tuple items | .bag items | .stream items => .ok items
  | _ => .error (Fault.invalidMembers field values).worded

namespace Membership

def ofArguments (field values : Value) : Except Fault Membership := do
  let field ← requireField field
  let members ← membersOf field.shown values
  return { field := field.plain, members }

end Membership

namespace Join

def ofArguments (kind : JoinKind) (table condition : Value) : Except Fault Join := do
  let table ← requireTable table
  let condition ← JoinCondition.ofArgument condition
  return { kind, table := table.plain, condition := condition.sql }

end Join

namespace Order

def ofArguments (field direction : Value) : Except Fault Order := do
  let field ← requireField field
  let direction ← SortDirection.ofValue direction
  return { field := field.plain, direction }

end Order

namespace Query

def compare (q : Query) (default : Operator) (arguments : List Value) : Except Fault Query := do
  let more ← Predicate.comparisons default arguments
  return { q with comparisons := q.comparisons ++ more }

/-- The query after a call. -/
def apply (q : Query) : Call → Except Fault Query
  | .select arguments => do
    let columns ← Column.listOf arguments
    return { q with columns }
  | .join kind table condition => do
    let join ← Join.ofArguments kind table condition
    return { q with joins := q.joins ++ [join] }
  | .compare default arguments => q.compare default arguments
  | .isIn field values => do
    let test ← Membership.ofArguments field values
    return { q with memberships := q.memberships ++ [test] }
  | .isNotIn field values => do
    let test ← Membership.ofArguments field values
    return { q with exclusions := q.exclusions ++ [test] }
  | .isNull arguments => do
    let fields ← NullField.listOf arguments
    return { q with nulls := q.nulls ++ fields }
  | .isNotNull arguments => do
    let fields ← NullField.listOf arguments
    return { q with notNulls := q.notNulls ++ fields }
  | .order field direction => do
    let order ← Order.ofArguments field direction
    return { q with order := some order }
  | .limit value => do
    let number ← rowCount .limit value
    return { q with limit := some number }
  | .offset value => do
    let number ← rowCount .offset value
    return { q with offset := some number }
  | .byId value => q.compare .equal [.map [(.text "id", value)]]
  | .reset => .ok { table := q.table }

end Query

end FluentSql
