import FluentSql.Value

/-!
# Queries

What has been declared on one table: columns, joins, predicates by kind, order, and numbers of rows.
Nothing of it is compiled yet.
-/

namespace FluentSql

/-- A column of a selection, shown under a label if it has one. -/
structure Column where
  name : String
  label : Option String := none
  deriving DecidableEq, Repr

inductive JoinKind where
  | inner
  | leftOuter
  deriving DecidableEq, Repr

def JoinKind.keyword : JoinKind → String
  | .inner => "INNER JOIN"
  | .leftOuter => "LEFT OUTER JOIN"

def JoinKind.ofKeyword? (keyword : String) : Option JoinKind :=
  if keyword == "INNER JOIN" then some .inner
  else if keyword == "LEFT OUTER JOIN" then some .leftOuter
  else none

/-- A joined table with its rendered condition. -/
structure Join where
  kind : JoinKind
  table : String
  condition : String
  deriving DecidableEq, Repr

structure Comparison where
  field : String
  operator : String
  value : Value := .null
  deriving Repr

/-- A test whether a field is among some values. -/
structure Membership where
  field : String
  members : List Value := []
  deriving Repr

/-- The field by which rows are ordered, and the direction. -/
structure Order where
  field : String
  direction : SortDirection := .ascending
  deriving DecidableEq, Repr

/-- Everything declared on one table. -/
structure Query where
  table : String
  /-- The selected columns; all columns if there are none. -/
  columns : List Column := []
  joins : List Join := []
  comparisons : List Comparison := []
  /-- Fields that must be among some values. -/
  memberships : List Membership := []
  /-- Fields that must not be among some values. -/
  exclusions : List Membership := []
  /-- Fields that must be null. -/
  nulls : List Name := []
  /-- Fields that must not be null. -/
  notNulls : List Name := []
  order : Option Order := none
  limit : Option Int := none
  offset : Option Int := none
  deriving Repr

def Query.hasPredicates (q : Query) : Bool :=
  !q.comparisons.isEmpty || !q.memberships.isEmpty || !q.exclusions.isEmpty || !q.nulls.isEmpty ||
    !q.notNulls.isEmpty

end FluentSql
