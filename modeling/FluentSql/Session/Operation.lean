import FluentSql.Session.Backup
import FluentSql.Session.Catalogue
import FluentSql.Session.Pragma

/-!
# Operations of a session

Everything that can be done with a connection, as data: single requests, work with builders,
questions to the catalogue, and blocks of operations that run while rows are inserted in bulk.
-/

namespace FluentSql

/-- How a prepared statement is run. -/
inductive PreparedRun where
  | fetch (fetch : Fetch) (params : Value)
  /-- For tuples instead of rows. -/
  | bare (params : Value)
  deriving Repr

/-- A single thing to do with a connection. -/
inductive Task where
  /-- Asks for a builder on a table, or for the engine's own connection if no table is named. -/
  | call (table : Value)
  | raw
  | table (name : Value)
  | describe
  /-- Enters a block that closes the connection when it is left. -/
  | enter
  | leave
  | close
  | fetch (fetch : Fetch) (sql : Value) (params : Value)
  /-- Notes the statement and its parameters in the log. -/
  | fetchNoted (fetch : Fetch) (sql : Value) (params : Value)
  | bareRows (sql : Value) (params : Value)
  | prepared (sql : Value) (runs : List PreparedRun)
  | script (sql : Value)
  | scriptFile (content : List UInt8)
  | pragma (pragma : Value)
  | pragmaValue (pragma : Value)
  | tables
  | hasTable (table : Value)
  | columns (table : Value)
  | columnDetails (table : Value)
  | schema (tables : Value)
  | indexes (table : Value)
  | rowCounts (tables : Value)
  | rebuild (table : Value)
  | isUnlocked
  /-- A file or directory that is null is not given. -/
  | backup (file directory : Value) (withTime : Bool) (now : Moment)
  | chain (table : Value) (steps : List ChainStep)
  /-- Fails on the caller's behalf. -/
  | raise (message : String)

inductive Operation where
  | task (task : Task)
  /-- Does what is in the block while rows are inserted in bulk. -/
  | bulkInsert (block : List Operation)

inductive Outcome where
  | reply (reply : Reply)
  | compiled (result : Compiled)
  | builder (query : Query)
  /-- The engine's own connection. -/
  | raw
  /-- The connection itself. -/
  | connection (path : String)
  | prepared (sql : Value) (replies : List Reply)
  | columnDetails (columns : List (Value × ColumnInfo))
  | indexes (indexes : List IndexInfo)
  | path (path : FilePath)
  | bulk (outcomes : List Outcome)

/-- How an operation ended. A bulk insertion that failed in its block or later tells how far the
block came. -/
structure OperationEnd where
  outcome : Except Fault Outcome
  block? : Option (List Outcome) := none

namespace Connection

variable {σ : Type}

def nothing : Outcome :=
  .reply (.value .null)

def tupleRows (rows : List (List Value)) : Reply :=
  .value (.list (rows.map .tuple))

def runPrepared (c : Connection σ) (sql : Value) : PreparedRun → Act σ Reply
  | .fetch fetch params => c.fetch fetch sql params
  | .bare params => tupleRows <$> c.bareRows sql params

/-- The outcome of a chain, whose last result may be the builder. -/
def chainOutcome : ActionResult × Builder → Outcome
  | (.builder, builder) => .builder builder.query
  | (.compiled result, _) => .compiled result
  | (.reply reply, _) => .reply reply

def freshBuilder (table : Value) : Act σ Outcome :=
  Act.ofExcept ((Builder.ofTable table).map fun builder => .builder builder.query)

def perform (c : Connection σ) : Task → Act σ Outcome
  | .call table =>
    if table.truthy then freshBuilder table else return .raw
  | .raw => return .raw
  | .table name => freshBuilder name
  | .describe => return .reply (.value (.text c.describe))
  | .enter => return .connection c.path
  | .leave | .close => do
    c.close
    return nothing
  | .fetch fetch sql params => .reply <$> c.fetch fetch sql params
  | .fetchNoted fetch sql params => .reply <$> c.fetchNoted fetch sql params
  | .bareRows sql params => (.reply <| tupleRows ·) <$> c.bareRows sql params
  | .prepared sql runs => .prepared sql <$> runs.mapM (c.runPrepared sql)
  | .script sql => do
    c.runScript sql
    return nothing
  | .scriptFile content => do
    c.runFile content
    return nothing
  | .pragma pragma => (.reply <| .rows ·) <$> c.pragmaRows pragma
  | .pragmaValue pragma => (.reply <| .value ·) <$> c.pragmaValue pragma
  | .tables => (.reply <| .value <| .list ·) <$> c.tables
  | .hasTable table => (.reply <| .value <| .bool ·) <$> c.hasTable table
  | .columns table => (.reply <| .value <| .list ·) <$> c.columns table
  | .columnDetails table => .columnDetails <$> c.columnDetails table
  | .schema tables => (.reply <| .value <| .text ·) <$> c.schema tables
  | .indexes table => .indexes <$> c.indexes table
  | .rowCounts tables => (.reply <| .value <| .map ·) <$> c.rowCounts tables
  | .rebuild table => do
    match ← c.rebuild? table with
    | some script => return .reply (.value (.text script))
    | none => return nothing
  | .isUnlocked => (.reply <| .value <| .bool ·) <$> c.isUnlocked
  | .backup file directory withTime now => .path <$> c.backup file directory withTime now
  | .chain table steps =>
    if table.truthy then chainOutcome <$> c.chain table steps else return .raw
  | .raise message => throw (.raised message)

/-- How a bulk insertion ended, given how its block did. -/
def bulkEnd (ended : GuardedEnd (List Outcome)) : OperationEnd :=
  match ended.fault? with
  | none => { outcome := .ok (.bulk (ended.product?.getD [])) }
  | some fault => { outcome := .error fault, block? := ended.product? }

mutual

def operate (c : Connection σ) : Operation → Effect σ OperationEnd
  | .task task => do
    let outcome ← (c.perform task).run
    return { outcome }
  | .bulkInsert block => bulkEnd <$> c.bulkInsert (c.operateAll block)

/-- Does one operation after the other, until one fails. -/
def operateAll (c : Connection σ) : List Operation → Effect σ (BlockEnd (List Outcome))
  | [] => return { product := [], fault? := none }
  | operation :: rest => do
    let ended ← c.operate operation
    match ended.outcome with
    | .error fault => return { product := [], fault? := some fault }
    | .ok outcome =>
      let later ← c.operateAll rest
      return { later with product := outcome :: later.product }

end

end Connection

end FluentSql
