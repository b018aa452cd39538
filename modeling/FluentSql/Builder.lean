import FluentSql.Executor
import FluentSql.Query.Call

/-!
# Builders and runners

A builder holds a query that calls declare step by step. A runner compiles the query, hands the
statement to the executor that the builder is bound to, and takes its result from the reply. What
cannot be compiled never reaches an executor.
-/

namespace FluentSql

/-- A query under construction, on the table of the given name. -/
structure Builder where
  table : Name
  query : Query
  deriving Repr

/-- A call that compiles a query and runs the statement. -/
inductive Runner where
  | first
  | all
  | count
  /-- Whether there is a row. -/
  | present
  | insert (data : Value)
  | upsert (data conflict : Value)
  | update (data : Value)
  | delete
  /-- The first row whose field `id` has the given value. -/
  | byId (value : Value)
  deriving Repr

namespace Runner

/-- The name of a runner, as messages give it. A runner that is made of another goes by its name. -/
def name : Runner → String
  | first | byId _ => "get"
  | all => "all"
  | count | present => "count"
  | insert _ => "insert"
  | upsert .. => "upsert"
  | update _ => "update"
  | delete => "delete"

/-- The call that a runner makes before it compiles. -/
def call? : Runner → Option Call
  | byId value => some (.byId value)
  | _ => none

def demand (q : Query) : Runner → Except Fault Demand
  | first | byId _ => q.selection.map (Demand.mk .first)
  | all => q.selection.map (Demand.mk .all)
  | count | present => q.count.map (Demand.mk .first)
  | insert data => (q.insert data).map (Demand.mk .run)
  | upsert data conflict => (q.upsert data conflict).map (Demand.mk .run)
  | update data => (q.update data).map (Demand.mk .run)
  | delete => q.deletion.map (Demand.mk .run)

def result (reply : Reply) : Runner → Except Fault Reply
  | first | all | byId _ => .ok reply
  | count => (reply.column "count").map .value
  | present => do
    let number ← reply.column "count"
    let positive ← isPositive number
    return .value (.bool positive)
  | insert _ | upsert .. => (reply.outcome "last_insert_rowid" RunResult.lastRowId).map .value
  | update _ | delete => (reply.outcome "changes" RunResult.changes).map .value

end Runner

namespace Builder

def ofTable (table : Value) : Except Fault Builder := do
  let table ← requireTable table
  return { table, query := { table := table.plain } }

def describe (b : Builder) : String :=
  "StatementBuilder(table=" ++ b.table.toValue.literal ++ ")"

def apply (b : Builder) (call : Call) : Except Fault Builder :=
  (b.query.apply call).map fun query => { b with query }

/-- The builder that a runner leaves and compiles. -/
def prepared (b : Builder) (runner : Runner) : Except Fault Builder :=
  match runner.call? with
  | some call => b.apply call
  | none => .ok b

variable {σ : Type}

/-- Executes what a runner demands, if an executor is bound. -/
def execute (b : Builder) (executor? : Option (Executor σ)) (runner : Runner) (demand : Demand)
    (s : σ) : Except Fault Reply × σ :=
  match executor? with
  | none => (.error (.detached runner.name), s)
  | some executor =>
    let message := "Running " ++ runner.name ++ "() on " ++ b.table.shown
    let s := executor.note ⟨.debug, .builder, message⟩ s
    let (reply, s) := executor.execute demand s
    (reply.bind fun reply => runner.result reply, s)

/-- Runs a runner: the result, the builder it leaves, and the state it leaves of the executor. -/
def run (b : Builder) (executor? : Option (Executor σ)) (runner : Runner) (s : σ) :
    Except Fault Reply × Builder × σ :=
  match b.prepared runner with
  | .error fault => (.error fault, b, s)
  | .ok b =>
    match runner.demand b.query with
    | .error fault => (.error fault, b, s)
    | .ok demand =>
      let (result, s) := b.execute executor? runner demand s
      (result, b, s)

end Builder

/-- Something to do with a builder. -/
inductive Action where
  | call (call : Call)
  | build (build : Build)
  | run (runner : Runner)
  | describe
  | table
  deriving Repr

inductive ActionResult where
  /-- The builder itself, for the next call. -/
  | builder
  | compiled (result : Compiled)
  | reply (reply : Reply)
  deriving Repr

/-- One step of a chain: what is to be done, and the word by which it is asked for. -/
structure ChainStep where
  word : String
  action : Action
  deriving Repr

namespace ActionResult

def kind : ActionResult → String
  | builder => "StatementBuilder"
  | compiled (.statement _) => "CompiledSQL"
  | compiled (.conditions _) => "WhereFragment"
  | compiled .noConditions => Value.null.kind
  | reply r => r.kind

def literal (b : Builder) : ActionResult → String
  | builder => b.describe
  | compiled (.statement s) =>
    "CompiledSQL(sql=" ++ Text.quoted s.sql ++ ", params=" ++ (Value.list s.params).literal ++ ")"
  | compiled (.conditions fragments) =>
    "WhereFragment(conditions=" ++
      (Value.list (fragments.map fun fragment => .text fragment.sql)).literal ++ ", params=" ++
      (Value.list (fragments.flatMap Fragment.params)).literal ++ ")"
  | compiled .noConditions => Value.null.literal
  | reply r => r.literal

def shown : ActionResult → List Value
  | builder | compiled .noConditions => []
  | compiled (.statement s) => s.params
  | compiled (.conditions fragments) => fragments.flatMap Fragment.params
  | reply r => r.shown

end ActionResult

namespace Builder

variable {σ : Type}

/-- Does something with a builder: the result, and what it leaves of the builder and the executor. A
failure leaves the builder as it was, except that a runner keeps the call it made. -/
def act (b : Builder) (executor? : Option (Executor σ)) (action : Action) (s : σ) :
    Except Fault ActionResult × Builder × σ :=
  match action with
  | .call call =>
    match b.apply call with
    | .ok b => (.ok .builder, b, s)
    | .error fault => (.error fault, b, s)
  | .build build => ((b.query.build build).map .compiled, b, s)
  | .run runner =>
    let (reply, b, s) := b.run executor? runner s
    (reply.map .reply, b, s)
  | .describe => (.ok (.reply (.value (.text b.describe))), b, s)
  | .table => (.ok (.reply (.value b.table.toValue)), b, s)

/-- Does one step of a chain after the result of the last one. A builder can be asked for
everything, any other result for its literal alone. -/
def follow (b : Builder) (executor? : Option (Executor σ)) (last : ActionResult) (step : ChainStep)
    (s : σ) : Except Fault ActionResult × Builder × σ :=
  match last, step.action with
  | .builder, action => b.act executor? action s
  | last, .describe =>
    ((requireWritable last.shown).map fun _ => .reply (.value (.text (last.literal b))), b, s)
  | last, _ => (.error (.noAttribute last.kind step.word), b, s)

/-- Does one step after the other, until one fails: the last result, and what is left of the builder
and the executor. -/
def chain (b : Builder) (executor? : Option (Executor σ)) (last : ActionResult) :
    List ChainStep → σ → Except Fault ActionResult × Builder × σ
  | [], s => (.ok last, b, s)
  | step :: rest, s =>
    match b.follow executor? last step s with
    | (.ok result, b, s) => chain b executor? result rest s
    | (.error fault, b, s) => (.error fault, b, s)

end Builder

end FluentSql
