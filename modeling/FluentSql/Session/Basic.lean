import FluentSql.Builder
import FluentSql.Engine

/-!
# Sessions

A connection to one database: where it is, how it was opened, and the engine that holds it. What
happens in a session is a function on the engine's state and the log, and may end in a fault; the
state is kept when it does.
-/

namespace FluentSql

/-- What becomes of the text of each executed statement. -/
inductive TraceOption where
  /-- It goes to the log if the value counts as true. -/
  | setting (value : Value)
  /-- It goes to a function of the caller. -/
  | callback
  deriving Repr

def TraceOption.target? : TraceOption → Option Engine.TraceTarget
  | .setting value => if value.truthy then some .log else none
  | .callback => some .callback

/-- What is set while rows are inserted in bulk. -/
inductive Tuning where
  /-- Pragmas by name, each with the value it gets. -/
  | pragmas (entries : List (Value × Value))
  /-- Anything else; no insertion in bulk succeeds with it. -/
  | unusable (value : Value)
  deriving Repr

namespace Tuning

def ofValue : Value → Tuning
  | .map entries => pragmas entries
  | value => unusable value

def toValue : Tuning → Value
  | pragmas entries => .map entries
  | unusable value => value

end Tuning

structure Options where
  /-- Seconds to wait for a locked database. -/
  timeout : Value := .float (.ofDecimal false 5 0)
  readOnly : Value := .bool false
  trace : TraceOption := .setting (.bool false)
  checkSameThread : Value := .bool true
  tuning : Tuning := .pragmas
    [(.text "journal_mode", .text "MEMORY"), (.text "locking_mode", .text "EXCLUSIVE"),
      (.text "synchronous", .text "OFF"), (.text "cache_size", .int (-1000000)),
      (.text "temp_store", .text "MEMORY")]
  deriving Repr

structure Connection (σ : Type) where
  path : String
  options : Options
  engine : Engine σ

/-- The state of a session: the engine's own, and the log so far. -/
structure Session (σ : Type) where
  engine : σ
  log : List LogEntry := []

/-- Something done in a session, which cannot fail. -/
abbrev Effect (σ α : Type) := StateM (Session σ) α

/-- Something done in a session, which may end in a fault. -/
abbrev Act (σ α : Type) := ExceptT Fault (StateM (Session σ)) α

/-- The path of a database that lives in memory. -/
def memoryPath : String := ":memory:"

/-- Adds an entry to the log. -/
def Session.note {σ : Type} (entry : LogEntry) (s : Session σ) : Session σ :=
  { s with log := s.log ++ [entry] }

def Effect.note {σ : Type} (level : LogLevel) (message : String) : Effect σ Unit :=
  modify (Session.note ⟨level, .session, message⟩)

def Act.note {σ : Type} (level : LogLevel) (message : String) : Act σ Unit :=
  ExceptT.lift (Effect.note level message)

/-- What is done in a session when something may have failed. -/
def Act.ofExcept {σ α : Type} (outcome : Except Fault α) : Act σ α :=
  match outcome with
  | .ok a => return a
  | .error fault => throw fault

/-- A value that must be fit for the key of an entry. -/
def requireKey (value : Value) : Except Fault Value :=
  match value.unfitForKey? with
  | some unfit => .error (.notAKey unfit)
  | none => .ok value

namespace Engine

variable {σ : Type}

/-- Makes a request and returns the engine's answer. A text that the engine traces goes to the log.
-/
def ask (engine : Engine σ) (request : Request) : Effect σ (Except Fault Result) := fun s =>
  let (response, state) := engine.answer request s.engine
  let s := { s with engine := state }
  match response.traced with
  | some sql => (response.outcome, s.note ⟨.debug, .session, "SQL: " ++ sql.display⟩)
  | none => (response.outcome, s)

/-- Makes a request whose fault ends what is being done. -/
def request (engine : Engine σ) (request : Request) : Act σ Result :=
  ExceptT.mk do
    let outcome ← engine.ask request
    return outcome.mapError FluentSql.Fault.engine

end Engine

namespace Connection

variable {σ : Type}

def execute (c : Connection σ) (sql : Value) (params : Option (List Value)) :
    Act σ Engine.Result :=
  c.engine.request (.execute sql params)

/-- The target that is opened: the path, or a URI that asks for reading only. -/
def openTarget (path : String) (options : Options) : String × Bool :=
  if options.readOnly.truthy && path != memoryPath then ("file:" ++ path ++ "?mode=ro", true)
  else (path, false)

def connect (engine : Engine σ) (path : String) (options : Options) : Act σ (Connection σ) := do
  let (target, uri) := openTarget path options
  let _ ← engine.request <| .connect target
    { timeout := options.timeout, checkSameThread := options.checkSameThread, uri }
  match options.trace.target? with
  | some target => let _ ← engine.request (.trace target)
  | none => pure ()
  Act.note .debug ("Opened SQLite database " ++ path)
  return { path, options, engine }

def describe (c : Connection σ) : String :=
  "Connection(path=" ++ Text.quoted c.path ++ ")"

def close (c : Connection σ) : Act σ Unit := do
  let _ ← c.engine.request .close
  Act.note .debug ("Closed SQLite database " ++ c.path)

/-! ### Statements -/

/-- The part of a result that is asked for. -/
def reply (result : Engine.Result) : Fetch → Reply
  | .first =>
    match result.rows with
    | [] => .value .null
    | row :: _ => .row row
  | .all => .rows result.rows
  | .run => .run { changes := max result.rowCount 0, lastRowId := result.lastRowId.getD 0 }

/-- The parameters that a value hands over: none if it is null, else its elements. -/
def parametersOf : Value → Except Fault (Option (List Value))
  | .null => .ok none
  | value =>
    match value.elements? with
    | some elements => .ok (some elements)
    | none => .error (.notIterable value)

/-- Reads the parameters that a value hands over. An engine that turns every statement away does so
first. -/
def readParameters (c : Connection σ) (params : Value) : Act σ (Option (List Value)) :=
  match parametersOf params with
  | .ok params => return params
  | .error fault => do
    let s ← get
    match c.engine.refusal? s.engine with
    | some refusal => throw (.engine refusal)
    | none => throw fault

/-- Executes a statement with parameters and returns the part of its result that is asked for. -/
def fetch (c : Connection σ) (fetch : Fetch) (sql : Value) (params : Value) : Act σ Reply := do
  let params ← c.readParameters params
  let result ← c.execute sql params
  return reply result fetch

def rows (c : Connection σ) (sql : String) (params : List Value) : Act σ (List Row) := do
  let result ← c.execute (.text sql) (some params)
  return result.rows

def firstRow? (c : Connection σ) (sql : String) (params : List Value) : Act σ (Option Row) := do
  let rows ← c.rows sql params
  return rows.head?

/-- All rows of a statement, as tuples of their values. -/
def bareRows (c : Connection σ) (sql : Value) (params : Value) :
    Act σ (List (List Value)) := do
  let params ← c.readParameters params
  let result ← c.engine.request (.executeBare sql params)
  return result.rows.map fun row => row.map (·.2)

/-- The word by which the log tells how a statement is executed. -/
def fetchWord : Fetch → String
  | .first => "get"
  | .all => "all"
  | .run => "run"

/-- Notes a statement and its parameters in the log and executes it. -/
def fetchNoted (c : Connection σ) (fetch : Fetch) (sql : Value) (params : Value) :
    Act σ Reply := do
  Act.note .debug (fetchWord fetch ++ ": " ++ sql.display ++ " " ++ params.literal)
  c.fetch fetch sql params

def runScript (c : Connection σ) (sql : Value) : Act σ Unit := do
  let _ ← c.engine.request (.script sql)

/-- Executes the script in a file with the given content: UTF-8, with line ends of any kind. -/
def runFile (c : Connection σ) (content : List UInt8) : Act σ Unit :=
  match Text.decodeUtf8 content with
  | .ok cs => c.runScript (.text (String.ofList (Text.unifyLineEnds cs)))
  | .error fault => throw (.undecodable fault)

/-! ### Builders -/

/-- The executor that runs a builder's statements in the session. -/
def executor (c : Connection σ) : Executor (Session σ) where
  note := Session.note
  execute demand :=
    (c.fetchNoted demand.fetch (.text demand.statement.sql) (.list demand.statement.params)).run

/-- Does one thing after the other with a fresh builder that is bound to the session. -/
def chain (c : Connection σ) (table : Value) (steps : List ChainStep) :
    Act σ (ActionResult × Builder) :=
  match Builder.ofTable table with
  | .error fault => throw fault
  | .ok builder => ExceptT.mk fun s =>
    let (result, builder, s) := builder.chain (some c.executor) .builder steps s
    (result.map fun result => (result, builder), s)

end Connection

end FluentSql
