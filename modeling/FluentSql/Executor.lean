import FluentSql.Statement

/-!
# Executors

What a builder hands its statements to: the demands, the replies, the log, and an executor that
records what it is asked.
-/

namespace FluentSql

/-! ### Log entries -/

inductive LogLevel where
  | debug
  | info
  | warning
  deriving DecidableEq, Repr

/-- The part of the library that an entry comes from. -/
inductive LogSource where
  | builder
  | session
  deriving DecidableEq, Repr

structure LogEntry where
  level : LogLevel
  source : LogSource
  message : String
  deriving DecidableEq, Repr

/-! ### Replies

What comes back from an executor: a plain value, rows of an engine, or the outcome of a statement
that changes rows.
-/

/-- A row of an engine: its columns in order, each with its value. -/
abbrev Row := List (String × Value)

/-- The outcome of a statement that changes rows. -/
structure RunResult where
  changes : Int
  lastRowId : Int
  deriving DecidableEq, Repr

inductive Reply where
  | value (v : Value)
  | row (row : Row)
  | rows (rows : List Row)
  | run (result : RunResult)
  deriving Repr

def Row.column (row : Row) (name : String) : Except Fault Value :=
  match row.lookup name with
  | some value => .ok value
  | none => .error (.noColumn name)

def Row.literal (row : Row) : String :=
  let cells := row.map fun cell => Text.quoted cell.1 ++ ": " ++ cell.2.literal
  "\x7b" ++ Value.commaSeparated cells ++ "\x7d"

namespace Reply

def kind : Reply → String
  | value v => v.kind
  | row _ => "Row"
  | rows _ => "list"
  | run _ => "RunResult"

def literal : Reply → String
  | value v => v.literal
  | row r => Row.literal r
  | rows rs => "[" ++ Value.commaSeparated (rs.map Row.literal) ++ "]"
  | run result =>
    "RunResult(changes=" ++ Value.decimal result.changes ++ ", last_insert_rowid=" ++
      Value.decimal result.lastRowId ++ ")"

/-- The values whose texts are in the literal of a reply. -/
def shown : Reply → List Value
  | value v => [v]
  | row r => r.map (·.2)
  | rows rs => rs.flatMap (List.map (·.2))
  | run result => [.int result.changes, .int result.lastRowId]

def column (name : String) : Reply → Except Fault Value
  | row r => Row.column r name
  | value (.map entries) =>
    match entries.find? fun entry => entry.1.text? == some name with
    | some entry => .ok entry.2
    | none => .error (.noEntry name)
  | reply => .error (.notARow reply.kind)

/-- A number of the outcome in a reply that holds one. -/
def outcome (field : String) (part : RunResult → Int) : Reply → Except Fault Value
  | run result => .ok (.int (part result))
  | reply => .error (.noAttribute reply.kind field)

end Reply

def isPositive : Value → Except Fault Bool
  | .int n => .ok (0 < n)
  | .bool b => .ok b
  | .float .nan => .ok false
  | .float (.infinity negative) => .ok !negative
  | .float (.finite negative mantissa _) => .ok (!negative && mantissa != 0)
  | value => .error (.notComparable value)

/-! ### Demands -/

/-- How a statement is to be executed: for its first row, for all rows, or for its effect. -/
inductive Fetch where
  | first
  | all
  | run
  deriving DecidableEq, Repr

/-- What is asked of an executor. -/
structure Demand where
  fetch : Fetch
  statement : Statement
  deriving Repr

/-- An executor with its state: it takes log entries and answers demands. -/
structure Executor (σ : Type) where
  note : LogEntry → σ → σ
  execute : Demand → σ → Except Fault Reply × σ

/-! ### Recording executors

An executor that answers from a list of replies and keeps the demands it was given.
-/

/-- Replies still to be given, and the demands so far. -/
structure Recording where
  replies : List Reply := []
  demands : List Demand := []
  deriving Repr

namespace Recording

/-- Answers a demand by the next reply, or by null when none is left. -/
def answer (demand : Demand) (r : Recording) : Except Fault Reply × Recording :=
  match r.replies with
  | [] => (.ok (.value .null), { r with demands := r.demands ++ [demand] })
  | reply :: rest => (.ok reply, { replies := rest, demands := r.demands ++ [demand] })

/-- The executor that records. It keeps no log. -/
def executor : Executor Recording where
  note _ r := r
  execute := answer

end Recording

end FluentSql
