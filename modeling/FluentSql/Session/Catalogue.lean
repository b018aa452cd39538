import FluentSql.Session.Basic

/-!
# The catalogue of a database

What a database says about itself: its tables, their columns and definitions, its indexes, and the
number of rows in each table. From this a script is made that rebuilds a table.
-/

namespace FluentSql

/-- What the catalogue says of a column. -/
structure ColumnInfo where
  type : String
  default : Value
  notNull : Bool
  /-- The place of the column in the primary key, zero if it has none. -/
  primary : Int
  deriving Repr

/-- An index and its table. -/
structure IndexInfo where
  table : String
  index : String
  deriving DecidableEq, Repr

def ColumnInfo.ofValues (type default notNull primary : Value) : Record.Check ColumnInfo :=
  Record.both
    ((Record.within (.field "type") (Record.checkText type)).map fun type primary =>
      { type, default, notNull := notNull.truthy, primary })
    (Record.within (.field "primary") (Record.checkInteger primary))

def IndexInfo.ofValues (table index : Value) : Record.Check IndexInfo :=
  Record.both ((Record.within (.field "table") (Record.checkText table)).map IndexInfo.mk)
    (Record.within (.field "index") (Record.checkText index))

/-- What is done in a session when a record was checked. -/
def Act.ofCheck {σ α : Type} (check : Record.Check α) : Act σ α :=
  match check with
  | .ok a => return a
  | .error issues => throw (.invalidRecord issues)

namespace Connection

variable {σ : Type}

/-- The values of one column of several rows. -/
def columnOf (name : String) (rows : List Row) : Act σ (List Value) :=
  Act.ofExcept (rows.mapM fun row => row.column name)

def tablesSql : String :=
  "SELECT name FROM sqlite_master WHERE type='table' ORDER BY name ASC;"

def hasTableSql : String :=
  "SELECT name FROM sqlite_master WHERE type='table' AND name=?;"

def columnsSql : String :=
  "SELECT * FROM pragma_table_info(?);"

def definitionSql : String :=
  "SELECT sql FROM sqlite_master WHERE name=?;"

def tableIndexesSql : String :=
  "SELECT tbl_name AS \"table\", name AS \"index\" FROM sqlite_master " ++
    "WHERE type='index' AND tbl_name=?;"

def indexesSql : String :=
  "SELECT tbl_name AS \"table\", name AS \"index\" FROM sqlite_master " ++
    "WHERE type='index' ORDER BY tbl_name ASC;"

/-- The query for the first column of a primary key. -/
def primaryKeySql : String :=
  "SELECT name FROM pragma_table_info(?) WHERE pk=1;"

def tables (c : Connection σ) : Act σ (List Value) := do
  let rows ← c.rows tablesSql []
  columnOf "name" rows

def hasTable (c : Connection σ) (table : Value) : Act σ Bool := do
  let row? ← c.firstRow? hasTableSql [table]
  return row?.isSome

/-- The names of a table's columns, in the order of declaration. -/
def columns (c : Connection σ) (table : Value) : Act σ (List Value) := do
  let rows ← c.rows columnsSql [table]
  columnOf "name" rows

def columnInfo (row : Row) : Act σ ColumnInfo := do
  let type ← Act.ofExcept (row.column "type")
  let default ← Act.ofExcept (row.column "dflt_value")
  let notNull ← Act.ofExcept (row.column "notnull")
  let primary ← Act.ofExcept (row.column "pk")
  Act.ofCheck (ColumnInfo.ofValues type default notNull primary)

/-- The columns of the rows of the catalogue, by name, added to those already found. -/
def collectColumns (found : List (Value × ColumnInfo)) :
    List Row → Act σ (List (Value × ColumnInfo))
  | [] => return found
  | row :: rest => do
    let name ← Act.ofExcept (row.column "name")
    let info ← columnInfo row
    let key ← Act.ofExcept (requireKey name)
    collectColumns (Value.insertEntry found key info) rest

def columnDetails (c : Connection σ) (table : Value) : Act σ (List (Value × ColumnInfo)) := do
  let rows ← c.rows columnsSql [table]
  collectColumns [] rows

/-- The tables that an argument names: all for null, one for a text, else those of a collection. -/
def tableList (c : Connection σ) (argument : Value) : Act σ (List Value) :=
  match argument with
  | .null => c.tables
  | .text s => return [.text s]
  | .direction d => return [.direction d]
  | value =>
    match value.elements? with
    | some elements => return elements
    | none => throw (.notIterable value)

/-- The definition under a name, ended by the terminator, if the catalogue has the name. -/
def definition? (c : Connection σ) (table : Value) : Act σ (Option String) := do
  match ← c.firstRow? definitionSql [table] with
  | none => return none
  | some row =>
    let sql ← Act.ofExcept (row.column "sql")
    match sql.text? with
    | some text => return some (text ++ terminator)
    | none => throw (.notAppendable sql)

/-- The section of a table in a schema: a heading, and the definition. -/
def section? (c : Connection σ) (table : Value) : Act σ String := do
  let definition? ← c.definition? table
  return "--- " ++ table.display ++ " ---\n" ++ definition?.getD Value.null.literal

/-- The definitions of tables, each under its heading. -/
def schema (c : Connection σ) (tables : Value) : Act σ String := do
  let names ← c.tableList tables
  let sections ← names.mapM c.section?
  return "\n\n".intercalate sections

/-- The indexes of a table, or all indexes if no table is named. -/
def indexes (c : Connection σ) (table : Value) : Act σ (List IndexInfo) := do
  let rows ← if table.truthy then c.rows tableIndexesSql [table] else c.rows indexesSql []
  rows.mapM fun row => do
    let table ← Act.ofExcept (row.column "table")
    let index ← Act.ofExcept (row.column "index")
    Act.ofCheck (IndexInfo.ofValues table index)

/-- What is counted in a table: its primary key column, or whole rows if it has none. -/
def countedColumn (c : Connection σ) (table : Value) : Act σ String := do
  match ← c.firstRow? primaryKeySql [table] with
  | none => return "*"
  | some row =>
    let name ← Act.ofExcept (row.column "name")
    return name.display

def rowCountSql (counted : String) (table : Value) : String :=
  "SELECT count(" ++ counted ++ ") AS count FROM \"" ++ table.display ++ "\";"

def rowCountOf (c : Connection σ) (table : Value) : Act σ Value := do
  let counted ← c.countedColumn table
  match ← c.firstRow? (rowCountSql counted table) [] with
  | none => throw (.notARow Value.null.kind)
  | some row => Act.ofExcept (row.column "count")

/-- The numbers of rows in tables, added to those already found. -/
def collectCounts (c : Connection σ) (found : List (Value × Value)) :
    List Value → Act σ (List (Value × Value))
  | [] => return found
  | table :: rest => do
    let count ← c.rowCountOf table
    let key ← Act.ofExcept (requireKey table)
    c.collectCounts (Value.insertEntry found key count) rest

/-- The number of rows in each table that the argument names. -/
def rowCounts (c : Connection σ) (tables : Value) : Act σ (List (Value × Value)) := do
  let names ← c.tableList tables
  c.collectCounts [] names

/-- The query by which a database is tried out. -/
def probeSql : String :=
  "SELECT count(*) FROM sqlite_master"

/-- Whether some tail of a text begins with the given part. -/
def containsText (part : List Char) : List Char → Bool
  | [] => part.isEmpty
  | c :: rest => part.isPrefixOf (c :: rest) || containsText part rest

/-- Whether a fault says that a file is no database, or an encrypted one. -/
def isLockedFault (fault : Engine.Fault) : Bool :=
  fault.cls.isDatabase &&
    (fault.codeName == some "SQLITE_NOTADB" ||
      containsText "not a database".toList fault.message.toList)

/-- Whether the file can be read as a database. -/
def isUnlocked (c : Connection σ) : Act σ Bool := do
  match ← c.engine.ask (.execute (.text probeSql) none) with
  | .ok _ => return true
  | .error fault => if isLockedFault fault then return false else throw (.engine fault)

end Connection

/-! ### Rebuild scripts

A script that rebuilds a table: it creates a copy under another name with the same columns, fills
it, drops the table and gives the copy the table's name.
-/

/-- What a temporary table's name begins with. -/
def temporaryMark : String := "__tmp__"

/-- The part of a text from its first opening to its last closing parenthesis. -/
def parenthesized? (cs : List Char) : Option (List Char) :=
  if cs.contains '(' && cs.contains ')' then
    let before := (cs.takeWhile (· != '(')).length
    let after := (cs.reverse.takeWhile (· != ')')).length
    some ((cs.take (cs.length - after)).drop before)
  else
    none

/-- The script that rebuilds a table with the given definition and columns. -/
def rebuildScript (table : Name) (definition : String) (columns : List Name) : String :=
  let temporary := temporaryMark ++ table.plain
  "-- alter: " ++ Text.toUpper table.plain ++ "\n\n" ++
  "BEGIN TRANSACTION;\n\n" ++
  "CREATE TABLE \"" ++ temporary ++ "\" " ++ definition ++ ";\n\n" ++
  "INSERT INTO \"" ++ temporary ++ "\" SELECT \n" ++
  ",\n".intercalate (columns.map Name.plain) ++ "\n" ++
  "FROM \"" ++ table.shown ++ "\";\n\n" ++
  "DROP TABLE \"" ++ table.shown ++ "\";\n" ++
  "ALTER TABLE \"" ++ temporary ++ "\" RENAME TO \"" ++ table.shown ++ "\";\n" ++
  "COMMIT;\n" ++
  "VACUUM;"

/-- The script that rebuilds a table, if the catalogue has the name. -/
def Connection.rebuild? {σ : Type} (c : Connection σ) (table : Value) : Act σ (Option String) := do
  match ← c.definition? table with
  | none => return none
  | some schema =>
    match parenthesized? schema.toList with
    | none => throw .noParenthesis
    | some definition =>
      let columns ← c.columns table
      match table.name? with
      | none => throw (.notPrependable table)
      | some name =>
        let columns ← Act.ofExcept (namesToJoin columns)
        return some (rebuildScript name (String.ofList definition) columns)

end FluentSql
