import FluentSql.Session.Basic

/-!
# Pragmas and bulk insertion

While rows are inserted in bulk, the tuned pragmas have their fast values and one transaction is
open. Before, the values in force are read; afterwards, whatever happened, those that were read as
something else than null are written back. A value that cannot be written back is reported in the
log and changes nothing about the outcome.
-/

namespace FluentSql.Connection

variable {σ : Type}

def pragmaRows (c : Connection σ) (pragma : Value) : Act σ (List Row) := do
  let result ← c.execute (.text ("PRAGMA " ++ pragma.display)) none
  return result.rows

/-- The first value of a pragma, or null if it has no row. -/
def pragmaValue (c : Connection σ) (pragma : Value) : Act σ Value := do
  match ← c.pragmaRows pragma with
  | [] => return .null
  | [] :: _ => throw .emptyRow
  | ((_, value) :: _) :: _ => return value

def writePragma (c : Connection σ) (name value : Value) : Act σ Unit := do
  let _ ← c.execute (.text ("PRAGMA " ++ name.display ++ "=" ++ value.display)) none

/-- Reads the values in force of the tuned pragmas. -/
def readTuned (c : Connection σ) : List (Value × Value) → Act σ (List (Value × Value))
  | [] => return []
  | (name, _) :: rest => do
    let value ← c.pragmaValue name
    let values ← c.readTuned rest
    return (name, value) :: values

/-- Writes pragmas one after the other, until one cannot be written. -/
def writeAll (c : Connection σ) : List (Value × Value) → Act σ Unit
  | [] => return
  | (name, value) :: rest => do
    c.writePragma name value
    c.writeAll rest

/-- Writes a pragma back, or reports that it could not be written. -/
def restoreOne (c : Connection σ) (name value : Value) : Effect σ Unit := do
  match ← (c.writePragma name value).run with
  | .ok _ => return
  | .error fault =>
    Effect.note .warning
      ("Could not restore pragma " ++ name.display ++ "=" ++ value.literal ++ ": " ++ fault.message)

/-- Writes the pragmas back that were read as something else than null. -/
def restore (c : Connection σ) : List (Value × Value) → Effect σ Unit
  | [] => return
  | (_, .null) :: rest => c.restore rest
  | (name, value) :: rest => do
    c.restoreOne name value
    c.restore rest

/-- What a block left: its product, and the fault that ended it, if one did. -/
structure BlockEnd (α : Type) where
  product : α
  fault? : Option Fault

/-- What a guarded block left: its product if it was entered, and the fault that ended the whole. -/
structure GuardedEnd (α : Type) where
  product? : Option α
  fault? : Option Fault

def begin (c : Connection σ) (tuned : List (Value × Value)) : Act σ Unit := do
  c.writeAll tuned
  let _ ← c.execute (.text "BEGIN TRANSACTION") none
  Act.note .info ("Bulk insert started on " ++ c.path)

def commit (c : Connection σ) : Act σ Unit := do
  let _ ← c.execute (.text "COMMIT") none
  Act.note .info ("Bulk insert committed on " ++ c.path)

/-- Rolls the transaction back and fails as the block did. -/
def rollback (c : Connection σ) (fault : Fault) : Act σ Unit := do
  let _ ← c.execute (.text "ROLLBACK") none
  Act.note .info ("Bulk insert rolled back on " ++ c.path)
  throw fault

/-- Ends the transaction as the block ended. -/
def finish (c : Connection σ) : Option Fault → Act σ Unit
  | none => c.commit
  | some fault => c.rollback fault

def faultOf? {α : Type} : Except Fault α → Option Fault
  | .ok _ => none
  | .error fault => some fault

/-- Runs a block in a transaction with the tuned pragmas. -/
def transact {α : Type} (c : Connection σ) (tuned : List (Value × Value))
    (block : Effect σ (BlockEnd α)) : Effect σ (GuardedEnd α) := do
  match ← (c.begin tuned).run with
  | .error fault => return { product? := none, fault? := some fault }
  | .ok _ =>
    let blockEnd ← block
    let ended ← (c.finish blockEnd.fault?).run
    return { product? := some blockEnd.product, fault? := faultOf? ended }

/-- Runs a block in a transaction with the tuned pragmas and restores them. -/
def bulkInsertWith {α : Type} (c : Connection σ) (tuned : List (Value × Value))
    (block : Effect σ (BlockEnd α)) : Effect σ (GuardedEnd α) := do
  match ← (c.readTuned tuned).run with
  | .error fault => return { product? := none, fault? := some fault }
  | .ok saved =>
    let guarded ← c.transact tuned block
    c.restore saved
    return guarded

/-- Reads the values in force of the named pragmas, added to those already found. -/
def collectPragmas (c : Connection σ) (found : List (Value × Value)) :
    List Value → Act σ (List (Value × Value))
  | [] => return found
  | name :: rest => do
    let value ← c.pragmaValue name
    let key ← Act.ofExcept (requireKey name)
    c.collectPragmas (Value.insertEntry found key value) rest

/-- The fault of an insertion in bulk whose tuning is no mapping. What it names is still read
before, and restored. -/
def refuseTuning (c : Connection σ) (tuning : Value) : Effect σ Fault := do
  match tuning.elements? with
  | none => return .notIterable tuning
  | some names =>
    match ← (c.collectPragmas [] names).run with
    | .error fault => return fault
    | .ok saved =>
      c.restore saved
      return .noAttribute tuning.kind "items"

/-- Inserts in bulk: runs a block in a transaction with the tuning of the connection. -/
def bulkInsert {α : Type} (c : Connection σ) (block : Effect σ (BlockEnd α)) :
    Effect σ (GuardedEnd α) := do
  match c.options.tuning with
  | .pragmas tuned => c.bulkInsertWith tuned block
  | .unusable tuning =>
    let fault ← c.refuseTuning tuning
    return { product? := none, fault? := some fault }

end FluentSql.Connection
