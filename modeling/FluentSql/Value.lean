import FluentSql.Number
import FluentSql.Text.Encoding

/-!
# Values

The values that a caller may hand over: as names, as data to bind, or as groups of either. Their
views, their texts, and what makes them the same key of a mapping.
-/

namespace FluentSql

inductive SortDirection where
  | ascending
  | descending
  deriving DecidableEq, Repr

def SortDirection.keyword : SortDirection → String
  | .ascending => "ASC"
  | .descending => "DESC"

def SortDirection.ofKeyword? (keyword : String) : Option SortDirection :=
  if keyword == "ASC" then some .ascending
  else if keyword == "DESC" then some .descending
  else none

/-- A value of any kind. -/
inductive Value where
  | null
  | bool (b : Bool)
  | int (n : Int)
  | float (x : Binary64)
  | text (s : String)
  /-- Immutable bytes. -/
  | bytes (data : List UInt8)
  /-- Mutable bytes. -/
  | buffer (data : List UInt8)
  | list (items : List Value)
  | tuple (items : List Value)
  /-- A mapping, its entries in order. -/
  | map (entries : List (Value × Value))
  /-- Distinct members without an order. -/
  | bag (members : List Value)
  /-- Elements that can be read once, in order. -/
  | stream (elements : List Value)
  /-- A sort direction, which also counts as the text of its keyword. -/
  | direction (d : SortDirection)
  deriving Repr, Inhabited

namespace Value

/-- The text of a value that is one, or of a direction. -/
def text? : Value → Option String
  | .text s => some s
  | .direction d => some d.keyword
  | _ => none

/-- Whether the value is a list, a tuple or a mapping. -/
def isGroup : Value → Bool
  | .list _ | .tuple _ | .map _ => true
  | _ => false

/-- The elements that come out when the value is read from front to back. -/
def elements? : Value → Option (List Value)
  | .list items | .tuple items | .bag items | .stream items => some items
  | .map entries => some (entries.map (·.1))
  | .bytes data | .buffer data => some (data.map fun b => .int b.toNat)
  | .text s => some (s.toList.map fun c => .text (String.singleton c))
  | .direction d => some (d.keyword.toList.map fun c => .text (String.singleton c))
  | .null | .bool _ | .int _ | .float _ => none

/-- The number of elements of a value that knows it. -/
def size? : Value → Option Nat
  | .stream _ => none
  | value => value.elements?.map List.length

/-- Whether the value counts as true: neither null nor false, not zero, not empty. -/
def truthy : Value → Bool
  | .null => false
  | .bool b => b
  | .int n => n != 0
  | .float x => !x.isZero
  | .text s => s != ""
  | .bytes data | .buffer data => !data.isEmpty
  | .list items | .tuple items | .bag items => !items.isEmpty
  | .map entries => !entries.isEmpty
  | .stream _ | .direction _ => true

/-- The name of the kind of sort directions. -/
def directionKind : String := "SortDirection"

/-- The name of the value's kind, as messages give it. -/
def kind : Value → String
  | .null => "NoneType"
  | .bool _ => "bool"
  | .int _ => "int"
  | .float _ => "float"
  | .text _ => "str"
  | .bytes _ => "bytes"
  | .buffer _ => "bytearray"
  | .list _ => "list"
  | .tuple _ => "tuple"
  | .map _ => "dict"
  | .bag _ => "set"
  | .stream _ => "list_iterator"
  | .direction _ => directionKind

end Value

/-! ### The text of values

`Value.literal` writes a value so that its kind can be told from the text; `Value.display` writes
names as they are and everything else as a literal. Both are for values that are writable. Where an
integer has too many digits, what would put it into words or into a statement fails.
-/

namespace Value

/-- The literal of an integer: its decimal digits, after a minus sign if it is negative. A builder
refuses an integer of too many digits before it is written. -/
def decimal : Int → String
  | .ofNat n => toString n
  | .negSucc n => "-" ++ toString (n + 1)

/-- The name that a sort direction is shown by. -/
def directionName (d : SortDirection) : String :=
  directionKind ++ "." ++ d.keyword

def commaSeparated (texts : List String) : String :=
  ", ".intercalate texts

mutual

def literal : Value → String
  | .null => "None"
  | .bool true => "True"
  | .bool false => "False"
  | .int n => decimal n
  | .float x => x.text
  | .text s => Text.quoted s
  | .bytes data => Text.quotedBytes data
  | .buffer data => "bytearray(" ++ Text.quotedBuffer data ++ ")"
  | .list items => "[" ++ commaSeparated (literals items) ++ "]"
  | .tuple [item] => "(" ++ literal item ++ ",)"
  | .tuple items => "(" ++ commaSeparated (literals items) ++ ")"
  | .map entries => "\x7b" ++ commaSeparated (entryLiterals entries) ++ "\x7d"
  | .bag [] => "set()"
  | .bag members => "\x7b" ++ commaSeparated (literals members) ++ "\x7d"
  | .stream _ => "<list_iterator object>"
  | .direction d => "<" ++ directionName d ++ ": " ++ Text.quoted d.keyword ++ ">"

def literals : List Value → List String
  | [] => []
  | item :: rest => literal item :: literals rest

/-- The literals of the entries of a mapping, each a key, a colon and a value. -/
def entryLiterals : List (Value × Value) → List String
  | [] => []
  | (key, value) :: rest => (literal key ++ ": " ++ literal value) :: entryLiterals rest

end

/-- The text of a value where it is not quoted. -/
def display : Value → String
  | .text s => s
  | .direction d => directionName d
  | value => literal value

mutual

/-- Whether the text of a value can be made: no integer in it has too many digits. -/
def isWritable : Value → Bool
  | .int n => (Nat.toDigits 10 n.natAbs).length ≤ Numeral.maxDigits
  | .list items | .tuple items | .bag items => areWritable items
  | .map entries => areWritableEntries entries
  | .null | .bool _ | .float _ | .text _ | .bytes _ | .buffer _ | .stream _ | .direction _ => true

def areWritable : List Value → Bool
  | [] => true
  | item :: rest => isWritable item && areWritable rest

def areWritableEntries : List (Value × Value) → Bool
  | [] => true
  | (key, value) :: rest => isWritable key && isWritable value && areWritableEntries rest

end

end Value

/-! ### Names

What a caller may hand over as the name of a table, a column or a field. A name is a text; a sort
direction is one too. It counts as the text of its keyword, but where text is put together from
parts it is written in full, after the name of its kind.
-/

/-- A name, as it was handed over. -/
inductive Name where
  | text (s : String)
  | direction (d : SortDirection)
  deriving DecidableEq, Repr

namespace Name

/-- The text that a name counts as. -/
def plain : Name → String
  | text s => s
  | direction d => d.keyword

/-- The text that a name is written as among other text. -/
def shown : Name → String
  | text s => s
  | direction d => Value.directionName d

/-- The value that was handed over. -/
def toValue : Name → Value
  | text s => .text s
  | direction d => .direction d

end Name

/-- The name that a value is, if it is one. -/
def Value.name? : Value → Option Name
  | .text s => some (.text s)
  | .direction d => some (.direction d)
  | _ => none

/-! ### Entries of mappings

A mapping keeps its entries in the order in which their keys first came, one entry per key. Keys are
the same when they are equal as values; a truth value is the same key as the number it stands for,
and a whole float the same as the integer. A value that can change cannot be a key.
-/

namespace Value

/-- The integer that a number or truth value is equal to, if there is one. -/
def asInteger? : Value → Option Int
  | .bool b => some b.toNat
  | .int n => some n
  | .float (.finite negative mantissa exponent) =>
    if Binary64.isWhole mantissa exponent then
      some (Binary64.signed negative (Binary64.wholePart mantissa exponent))
    else
      none
  | _ => none

mutual

/-- Whether two values are the same key. -/
def sameKey : Value → Value → Bool
  | .null, .null => true
  | .bytes a, .bytes b => a == b
  | .tuple a, .tuple b => sameKeys a b
  | .float a, .float b => a != .nan && (a == b || a.isZero && b.isZero)
  | a, b =>
    match a.text?, b.text? with
    | some s, some t => s == t
    | _, _ =>
      match a.asInteger?, b.asInteger? with
      | some m, some n => m == n
      | _, _ => false

/-- Whether two lists hold the same keys, item by item. -/
def sameKeys : List Value → List Value → Bool
  | [], [] => true
  | a :: as, b :: bs => sameKey a b && sameKeys as bs
  | _, _ => false

end

mutual

/-- What keeps a value from being a key: the value itself if it can change, or such an item of a
tuple. -/
def unfitForKey? : Value → Option Value
  | .list items => some (.list items)
  | .map entries => some (.map entries)
  | .bag members => some (.bag members)
  | .buffer data => some (.buffer data)
  | .tuple items => firstUnfit? items
  | _ => none

/-- The first of several values that cannot be a key, or what keeps it from being one. -/
def firstUnfit? : List Value → Option Value
  | [] => none
  | item :: rest => (unfitForKey? item).or (firstUnfit? rest)

end

/-- Entries with one more: a key that is there keeps its place and gets the new value, a new one
goes to the end. -/
def insertEntry {α : Type} (entries : List (Value × α)) (key : Value) (value : α) :
    List (Value × α) :=
  match entries with
  | [] => [(key, value)]
  | (k, v) :: rest =>
    if sameKey k key then (k, value) :: rest else (k, v) :: insertEntry rest key value

/-- The entries that remain when the given ones are inserted one after the other. -/
def entriesOf {α : Type} (entries : List (Value × α)) : List (Value × α) :=
  entries.foldl (fun kept entry => insertEntry kept entry.1 entry.2) []

end Value

end FluentSql
