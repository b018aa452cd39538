import FluentSql.Session.Basic

/-!
# Backups

A copy of the live database in another file. Without a given file its name is the database's own,
with a stamp of the date, and of the time of day if wanted, between stem and suffix.
-/

namespace FluentSql

/-! ### File paths

Paths as slashes divide them. One leading slash, or exactly two, make the root; empty parts and
parts that are a single dot are dropped, double dots are kept. The name of a path is its last part,
which divides at its last dot into a stem and a suffix unless that dot is its first or last
character.
-/

/-- A file path: its root, which is no slash, one slash or two, and its parts. -/
structure FilePath where
  root : String
  parts : List String
  deriving DecidableEq, Repr

namespace FilePath

/-- The text up to the first slash, and the texts after each slash. -/
def splitSlashes : List Char → List Char × List (List Char)
  | [] => ([], [])
  | c :: rest =>
    let (first, others) := splitSlashes rest
    if c = '/' then ([], first :: others) else (c :: first, others)

def rootOf : List Char → String
  | '/' :: '/' :: '/' :: _ => "/"
  | '/' :: '/' :: _ => "//"
  | '/' :: _ => "/"
  | _ => ""

def ofText (text : String) : FilePath :=
  let (first, others) := splitSlashes text.toList
  { root := rootOf text.toList
    parts := ((first :: others).filter fun part => part != [] && part != ['.']).map String.ofList }

def toText (p : FilePath) : String :=
  if p.root = "" ∧ p.parts = [] then "." else p.root ++ "/".intercalate p.parts

/-- The last part, or nothing for a path without parts. -/
def name (p : FilePath) : String :=
  p.parts.getLastD ""

/-- The path without its last part. -/
def parent (p : FilePath) : FilePath :=
  { p with parts := p.parts.dropLast }

/-- A stem and a suffix, the suffix with its dot. -/
def splitName (name : List Char) : List Char × List Char :=
  let extension := (name.reverse.takeWhile (· != '.')).reverse
  let stem := name.take (name.length - extension.length - 1)
  if stem.isEmpty || extension.isEmpty then (name, []) else (stem, '.' :: extension)

/-- The name up to its suffix. -/
def stem (p : FilePath) : String :=
  String.ofList (splitName p.name.toList).1

/-- The last dot of the name and what follows it. -/
def suffix (p : FilePath) : String :=
  String.ofList (splitName p.name.toList).2

/-- The path of a name inside a directory. -/
def child (p : FilePath) (name : String) : FilePath :=
  { p with parts := p.parts ++ (ofText name).parts }

end FilePath

/-! ### The target and the copy -/

/-- A reading of the local clock. -/
structure Moment where
  year : Nat
  month : Nat
  day : Nat
  hour : Nat
  minute : Nat
  second : Nat
  deriving DecidableEq, Repr

/-- A number in at least the given count of decimal digits. -/
def paddedDecimal (width n : Nat) : String :=
  let digits := Nat.toDigits 10 n
  String.ofList (List.replicate (width - digits.length) '0' ++ digits)

/-- The date of a moment, and the time of day if wanted. -/
def Moment.stamp (m : Moment) (withTime : Bool) : String :=
  let date := [toString m.year, paddedDecimal 2 m.month, paddedDecimal 2 m.day]
  let time := [paddedDecimal 2 m.hour, paddedDecimal 2 m.minute, paddedDecimal 2 m.second]
  "-".intercalate (if withTime then date ++ time else date)

namespace Backup

/-- What separates the stem of a name from the stamp. -/
def stampMark : String := "--"

/-- The name of a backup: the database's own name with the stamp between stem and suffix. -/
def fileName (source : FilePath) (stamp : String) : String :=
  source.stem ++ stampMark ++ stamp ++ source.suffix

def pathOf (value : Value) : Except Fault FilePath :=
  match value.name? with
  | some name => .ok (FilePath.ofText name.shown)
  | none => .error (.notAPath value)

/-- The derived target of a backup, in the given directory or, if that is null, beside the database.
-/
def derivedTarget (path : String) (directory : Value) (stamp : String) :
    Except Fault FilePath :=
  if path = memoryPath ∨ path = "" then
    .error (.noBackupTarget path)
  else
    let source := FilePath.ofText path
    match directory with
    | .null => .ok (source.parent.child (fileName source stamp))
    | value => (pathOf value).map fun parent => parent.child (fileName source stamp)

/-- The target of a backup: the given file or, if that is null, the derived one. -/
def target (path : String) (file directory : Value) (stamp : String) : Except Fault FilePath :=
  match file with
  | .null => derivedTarget path directory stamp
  | value => pathOf value

end Backup

namespace Connection

variable {σ : Type}

/-- Copies the database to a file, which is open for the time of the copy. -/
def copyTo (c : Connection σ) (target : String) : Effect σ (Except Engine.Fault Unit) := do
  match ← c.engine.ask (.connectCopy target) with
  | .error fault => return .error fault
  | .ok _ =>
    let copied ← c.engine.ask .copy
    let closed ← c.engine.ask .closeCopy
    match closed, copied with
    | .error fault, _ => return .error fault
    | .ok _, .error fault => return .error fault
    | .ok _, .ok _ => return .ok ()

/-- Backs the database up and returns the target. -/
def backup (c : Connection σ) (file directory : Value) (withTime : Bool) (now : Moment) :
    Act σ FilePath :=
  match Backup.target c.path file directory (now.stamp withTime) with
  | .error fault => throw fault
  | .ok target => do
    Act.note .info ("Backing up " ++ c.path ++ " to " ++ target.toText)
    match ← c.copyTo target.toText with
    | .ok _ => return target
    | .error cause => throw (.backupFailed c.path target.toText cause)

end Connection

end FluentSql
