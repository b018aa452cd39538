import FluentSql.Query.Arguments

/-!
# Queries from records

Reads a query, and the parts of one, from mappings with named fields. The issues come field by field
in the order in which the record declares its fields, and then for the fields that it does not have.
-/

namespace FluentSql

open Record

/-- The column that a record describes. -/
def Column.ofRecord (entries : List (Value × Value)) : Check Column :=
  closed entries ["name", "alias"] <|
    both ((required entries "name" checkText).map Column.mk)
      (optional entries "alias" none (checkOptional checkText))

def Join.ofRecord (entries : List (Value × Value)) : Check Join :=
  closed entries ["kind", "table", "condition"] <|
    both (both ((required entries "kind" (checkKeyword JoinKind.ofKeyword?)).map Join.mk)
      (required entries "table" checkText))
      (required entries "condition" checkText)

def Comparison.ofRecord (entries : List (Value × Value)) : Check Comparison :=
  closed entries ["field", "operator", "value"] <|
    both (both ((required entries "field" checkText).map Comparison.mk)
      (required entries "operator" checkText))
      (optional entries "value" .null checkAny)

def Membership.ofRecord (entries : List (Value × Value)) : Check Membership :=
  closed entries ["field", "values"] <|
    both ((required entries "field" checkText).map Membership.mk)
      (optional entries "values" [] (checkList checkAny))

def Order.ofRecord (entries : List (Value × Value)) : Check Order :=
  closed entries ["field", "direction"] <|
    both ((required entries "field" checkText).map Order.mk)
      (optional entries "direction" .ascending (checkKeyword SortDirection.ofKeyword?))

/-- The comparisons that the arguments of one call declare when the default operator is itself a
value to be checked. It is, once a predicate needs it. -/
def Predicate.comparisonsFrom (default : Value) (arguments : List Value) :
    Except Fault (List Comparison) := do
  let tree ← ofArguments arguments
  tree.leaves.mapM fun predicate =>
    match predicate.operator, within (.field "operator") (checkText default) with
    | some operator, _ => .ok (predicate.comparison operator.symbol)
    | none, .ok operator => .ok (predicate.comparison operator)
    | none, .error issues => .error (.invalidRecord issues)

namespace Query

def fieldNames : List String :=
  ["table", "select", "joins", "where", "where_in", "where_not_in", "where_null", "where_not_null",
    "order", "limit", "offset"]

def ofRecord (entries : List (Value × Value)) : Check Query :=
  let part (α : Type) (name : String) (check : List (Value × Value) → Check α) : Check (List α) :=
    optional entries name [] (checkList (checkRecord check))
  let names (name : String) : Check (List Name) :=
    optional entries name [] (checkList fun value => (checkText value).map Name.text)
  let number (name : String) : Check (Option Int) :=
    optional entries name none (checkOptional checkInteger)
  let table := (required entries "table" checkText).map Query.mk
  let columns := both table (part Column "select" Column.ofRecord)
  let joins := both columns (part Join "joins" Join.ofRecord)
  let comparisons := both joins (part Comparison "where" Comparison.ofRecord)
  let memberships := both comparisons (part Membership "where_in" Membership.ofRecord)
  let exclusions := both memberships (part Membership "where_not_in" Membership.ofRecord)
  let nulls := both exclusions (names "where_null")
  let notNulls := both nulls (names "where_not_null")
  let order := both notNulls <|
    optional entries "order" none (checkOptional (checkRecord Order.ofRecord))
  let limit := both order (number "limit")
  closed entries fieldNames (both limit (number "offset"))

/-- Reads a query from a record, whose keys must be texts. -/
def read (entries : List (Value × Value)) : Except Fault Query :=
  if entries.all (·.1.text?.isSome) then
    (ofRecord entries).mapError Fault.invalidRecord
  else
    .error .notFieldNames

end Query

end FluentSql
