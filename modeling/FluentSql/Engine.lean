import FluentSql.Executor

/-!
# Engines

The boundary to the database engine. A session makes requests and an engine answers each of them, by
a result or by a fault, and may hand the text of a statement to the session's log. What an engine
does is its own affair: it is any function on a state of its own. The text of a statement reaches it
as it was handed over, so that the engine decides whether it is one.
-/

namespace FluentSql.Engine

/-- Who receives the text of each executed statement. -/
inductive TraceTarget where
  /-- The session's log. -/
  | log
  /-- A function of the caller. -/
  | callback
  deriving DecidableEq, Repr

/-- The options that a database is opened with. -/
structure OpenOptions where
  timeout : Value
  checkSameThread : Value
  /-- Whether the target is to be read as a URI. -/
  uri : Bool
  deriving Repr

/-- What a session asks of an engine. -/
inductive Request where
  /-- Opens the session's database. -/
  | connect (target : String) (options : OpenOptions)
  | trace (target : TraceTarget)
  /-- Executes a statement, with parameters if any are given. -/
  | execute (sql : Value) (params : Option (List Value))
  /-- Executes a statement for rows without column names, with parameters if any are given. -/
  | executeBare (sql : Value) (params : Option (List Value))
  | script (sql : Value)
  /-- Opens the target of a backup. -/
  | connectCopy (target : String)
  /-- Copies the session's database to the open target. -/
  | copy
  | closeCopy
  | close
  deriving Repr

structure Result where
  rows : List Row := []
  /-- The number of rows changed, negative if it is not known. -/
  rowCount : Int := -1
  /-- The number of the row inserted last, if one ever was. -/
  lastRowId : Option Int := none
  deriving Repr

structure Response where
  /-- The text handed to the session's log. -/
  traced : Option Value := none
  outcome : Except Fault Result

end FluentSql.Engine

namespace FluentSql

/-- An engine: how it answers a request in a state, and the state it is in afterwards. -/
structure Engine (σ : Type) where
  answer : Engine.Request → σ → Engine.Response × σ
  /-- The fault by which it turns every statement away in a state, before reading its parameters. -/
  refusal? : σ → Option Engine.Fault := fun _ => none

namespace Engine

/-! ### Scripted engines

An engine that answers from a script and keeps a record. The script is a list of answers under keys;
a request takes the first answer under its own key, and gets an empty result if there is none. A
closed database refuses every request but closing, and the refusal is not recorded.
-/

/-- An entry of the record. -/
inductive Event where
  | request (request : Request)
  /-- A text handed to the caller's trace function. -/
  | traced (sql : Value)
  deriving Repr

structure Script where
  answers : List (String × Except Fault Result) := []
  events : List Event := []
  traceTo : Option TraceTarget := none
  isClosed : Bool := false

namespace Script

/-- The key under which a request looks for its answer. -/
def keyOf? : Request → Option String
  | .connect .. | .connectCopy _ => some "connect"
  | .execute sql _ | .executeBare sql _ | .script sql => sql.text?
  | .copy => some "backup"
  | .trace _ | .closeCopy | .close => none

def traced? : Request → Option Value
  | .execute sql _ | .executeBare sql _ | .script sql => some sql
  | _ => none

def needsOpen : Request → Bool
  | .execute .. | .executeBare .. | .script _ | .copy => true
  | _ => false

/-- The first answer under a key, and the other ones. -/
def takeFirst (key : String) :
    List (String × Except Fault Result) →
      Option (Except Fault Result) × List (String × Except Fault Result)
  | [] => (none, [])
  | (k, answer) :: rest =>
    if k == key then
      (some answer, rest)
    else
      let (found, others) := takeFirst key rest
      (found, (k, answer) :: others)

def closedFault : Fault :=
  { cls := .programming, message := "Cannot operate on a closed database." }

/-- The fault by which a closed database turns every statement away. -/
def refusal? (s : Script) : Option Fault :=
  if s.isClosed then some closedFault else none

def recorded (s : Script) (request : Request) : Script :=
  let heard := match s.traceTo, traced? request with
    | some .callback, some sql => [Event.traced sql]
    | _, _ => []
  { s with
    events := s.events ++ Event.request request :: heard
    traceTo := match request with
      | .trace target => some target
      | _ => s.traceTo
    isClosed := s.isClosed || match request with
      | .close => true
      | _ => false }

def answer (request : Request) (s : Script) : Response × Script :=
  if s.isClosed && needsOpen request then
    ({ outcome := .error closedFault }, s)
  else
    let traced := if s.traceTo = some .log then traced? request else none
    let (found, answers) := match keyOf? request with
      | some key => takeFirst key s.answers
      | none => (none, s.answers)
    ({ traced, outcome := found.getD (.ok {}) }, { s.recorded request with answers })

def engine : Engine Script where
  answer := answer
  refusal? := refusal?

end Script

end Engine

end FluentSql
