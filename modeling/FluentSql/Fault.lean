import FluentSql.Record.Check

/-!
# Faults

Everything that can go wrong, in the engine and in the library, each constructor one cause with the
data that belongs to it. The wording is in `Fault.message` alone. A fault that is raised has been put
into words, and where its wording would hold an integer of too many digits, that is the fault instead.
-/

namespace FluentSql

/-! ### Faults of the engine

What an engine may answer instead of a result: a class out of a small hierarchy, a message, and
sometimes the symbolic name of the engine's error code.
-/

namespace Engine

inductive FaultClass where
  | error
  | interface
  | database
  | operational
  | integrity
  | programming
  | notSupported
  deriving DecidableEq, Repr

/-- Whether the class is the database class or one below it. -/
def FaultClass.isDatabase : FaultClass → Bool
  | .error | .interface => false
  | .database | .operational | .integrity | .programming | .notSupported => true

structure Fault where
  cls : FaultClass
  message : String
  /-- The symbolic name of the engine's error code. -/
  codeName : Option String := none
  deriving DecidableEq, Repr

end Engine

/-! ### Faults of the library -/

/-- The two clauses that hold a number of rows. -/
inductive CountClause where
  | limit
  | offset
  deriving DecidableEq, Repr

def CountClause.keyword : CountClause → String
  | .limit => "LIMIT"
  | .offset => "OFFSET"

/-- The statements that take row data. -/
inductive RowStatement where
  | insert
  | upsert
  | update
  deriving DecidableEq, Repr

def RowStatement.keyword : RowStatement → String
  | .insert => "INSERT"
  | .upsert => "UPSERT"
  | .update => "UPDATE"

/-- Why a call failed. -/
inductive Fault where
  /-- A name of the given role that is not a text. -/
  | notAName (role : String) (value : Value)
  /-- A column that is neither a text nor a group. -/
  | invalidColumn (value : Value)
  /-- A label that is neither a text nor true. -/
  | invalidLabel (column label : Value)
  /-- A join condition of no accepted shape. -/
  | invalidJoin (value : Value)
  | invalidPredicate (arguments : List Value)
  | invalidOperator (operator : Value)
  /-- A null predicate's field that is neither a text nor a group. -/
  | invalidNullField (value : Value)
  | invalidDirection (direction : Value)
  /-- A number of rows that cannot be read as an integer. -/
  | invalidCount (clause : CountClause) (value : Value)
  | negativeCount (clause : CountClause) (number : Int) (value : Value)
  | infiniteCount
  /-- An integer of too many digits, where a text of it was to be made. -/
  | tooManyDigits
  /-- Members of a membership test that are no collection of elements. -/
  | invalidMembers (field : String) (values : Value)
  | notRowData (statement : RowStatement) (data : Value)
  /-- Row data without a field, for a statement that needs one. -/
  | emptyRowData (statement : RowStatement) (data : Value)
  /-- A count asked of a query with joins. -/
  | countOverJoins
  /-- A runner called on a builder that no executor is bound to. -/
  | detached (runner : String)
  /-- A record whose keys are not all texts. -/
  | notFieldNames
  | invalidRecord (issues : List Record.Issue)
  | notIterable (value : Value)
  | notSized (value : Value)
  /-- A value that should be the key of an entry and is, or holds, one that can change. -/
  | notAKey (value : Value)
  /-- Something else than a text among texts that are joined. -/
  | notJoinable (index : Nat) (value : Value)
  /-- A value that a text should be appended to. -/
  | notAppendable (value : Value)
  /-- A value that should be appended to a text. -/
  | notPrependable (value : Value)
  /-- A value that should be compared with a number. -/
  | notComparable (value : Value)
  | notARow (kind : String)
  | noColumn (column : String)
  | emptyRow
  | noEntry (key : String)
  /-- Something of the given kind that has nothing under the given word. -/
  | noAttribute (kind word : String)
  /-- A value in the place of a path that is no text. -/
  | notAPath (value : Value)
  | noParenthesis
  /-- A script that is not UTF-8. -/
  | undecodable (fault : Text.Utf8Fault)
  /-- A failure that a caller reports inside a block. -/
  | raised (message : String)
  /-- A fault of the engine, as it came. -/
  | engine (fault : Engine.Fault)
  /-- A backup of a database without a file name, and no target given. -/
  | noBackupTarget (source : String)
  | backupFailed (source target : String) (cause : Engine.Fault)
  deriving Repr

namespace Fault

/-- A byte as two hexadecimal digits. -/
def byteText (b : UInt8) : String :=
  "0x" ++ String.ofList (Text.hex 2 b.toNat)

/-- What cannot be decoded: one byte, or the bytes from `start` up to and without `stop`. -/
def spanText (start stop : Nat) (byte : UInt8) : String :=
  if stop = start + 1 then
    "byte " ++ byteText byte ++ " in position " ++ toString start
  else
    "bytes in position " ++ toString start ++ "-" ++ toString (stop - 1)

def utf8Message : Text.Utf8Fault → String
  | .invalidStart start byte =>
    "'utf-8' codec can't decode " ++ spanText start (start + 1) byte ++ ": invalid start byte"
  | .invalidContinuation start stop byte =>
    "'utf-8' codec can't decode " ++ spanText start stop byte ++ ": invalid continuation byte"
  | .unexpectedEnd start stop byte =>
    "'utf-8' codec can't decode " ++ spanText start stop byte ++ ": unexpected end of data"

def rowMessage (kind : String) : String :=
  if kind ∈ ["str", Value.directionKind] then "string indices must be integers, not 'str'"
  else if kind = "bytes" then "byte indices must be integers or slices, not str"
  else if kind ∈ ["list", "tuple", "bytearray"] then
    kind ++ " indices must be integers or slices, not str"
  else "'" ++ kind ++ "' object is not subscriptable"

def appendMessage : Value → String
  | .bytes _ => "can't concat str to bytes"
  | .buffer _ => "can't concat str to bytearray"
  | .list _ => "can only concatenate list (not \"str\") to list"
  | .tuple _ => "can only concatenate tuple (not \"str\") to tuple"
  | value => "unsupported operand type(s) for +: '" ++ value.kind ++ "' and 'str'"

def pathMessage : Value → String
  | .bytes _ =>
    "argument should be a str object or an os.PathLike object returning str, not <class 'bytes'>"
  | value => "expected str, bytes or os.PathLike object, not " ++ value.kind

/-- The wording of a fault. -/
def message : Fault → String
  | notAName role value => role ++ " name must be a string, got " ++ value.literal ++ "."
  | invalidColumn value =>
    "Invalid select column " ++ value.literal ++ ": expected string, sequence or mapping."
  | invalidLabel column label =>
    "Column alias for '" ++ column.display ++ "' must be a string or True, got " ++ label.literal ++
      "."
  | invalidJoin _ => "Invalid join param, must be string, array or object"
  | invalidPredicate arguments =>
    "Invalid WHERE clause arguments: " ++ (Value.tuple arguments).literal ++ "."
  | invalidOperator operator => "Invalid WHERE clause operator: " ++ operator.display
  | invalidNullField value =>
    "Invalid NULL predicate field " ++ value.literal ++ ": expected string, sequence or mapping."
  | invalidDirection direction => "Invalid sort param: " ++ direction.display
  | invalidCount clause value => "Invalid " ++ clause.keyword ++ " value: " ++ value.literal
  | negativeCount clause number _ =>
    clause.keyword ++ " must not be negative, got " ++ Value.decimal number ++ "."
  | infiniteCount => "cannot convert float infinity to integer"
  | tooManyDigits =>
    "Exceeds the limit (" ++ toString Numeral.maxDigits ++ " digits) for integer string conversion; " ++
      "use sys.set_int_max_str_digits() to increase the limit"
  | invalidMembers field values =>
    "IN values for '" ++ field ++ "' must be a sequence, got " ++ values.literal ++ "."
  | notRowData statement data =>
    statement.keyword ++ " data must be a mapping of field to value, got " ++ data.kind ++ "."
  | emptyRowData statement _ => statement.keyword ++ " data must not be empty."
  | countOverJoins => "SQLBuilderError: count on table joins is not supported"
  | detached runner => "Cannot run '" ++ runner ++ "()': builder is not bound to a connection."
  | notFieldNames => "keywords must be strings"
  | invalidRecord _ => "The record has issues."
  | notIterable value => "'" ++ value.kind ++ "' object is not iterable"
  | notSized value => "object of type '" ++ value.kind ++ "' has no len()"
  | notAKey value => "unhashable type: '" ++ value.kind ++ "'"
  | notJoinable index value =>
    "sequence item " ++ toString index ++ ": expected str instance, " ++ value.kind ++ " found"
  | notAppendable value => appendMessage value
  | notPrependable value => "can only concatenate str (not \"" ++ value.kind ++ "\") to str"
  | notComparable value => "'>' not supported between instances of '" ++ value.kind ++ "' and 'int'"
  | notARow kind => rowMessage kind
  | noColumn _ => "No item with that key"
  | emptyRow => "Index out of range"
  | noEntry key => Text.quoted key
  | noAttribute kind word => "'" ++ kind ++ "' object has no attribute '" ++ word ++ "'"
  | notAPath value => pathMessage value
  | noParenthesis => "substring not found"
  | undecodable fault => utf8Message fault
  | raised message => message
  | engine fault => fault.message
  | noBackupTarget _ => "In-memory databases need an explicit backup file."
  | backupFailed _ target cause => "Backup to '" ++ target ++ "' failed: " ++ cause.message

/-- The values whose texts are in the wording of a fault. -/
def shown : Fault → List Value
  | notAName _ value | invalidColumn value | invalidOperator value | invalidNullField value
  | invalidDirection value | invalidCount _ value | invalidMembers _ value => [value]
  | invalidLabel column label => [column, label]
  | invalidPredicate arguments => arguments
  | negativeCount _ number _ => [.int number]
  | _ => []

def isWritable (fault : Fault) : Bool :=
  fault.shown.all Value.isWritable

/-- The fault that is raised: this one, or that its wording has too many digits. -/
def worded (fault : Fault) : Fault :=
  if fault.isWritable then fault else tooManyDigits

end Fault

/-- Fails unless a text can be made of each of the values. -/
def requireWritable (values : List Value) : Except Fault Unit :=
  if values.all Value.isWritable then .ok () else .error .tooManyDigits

end FluentSql
