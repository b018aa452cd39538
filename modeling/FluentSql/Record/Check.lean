import FluentSql.Value

/-!
# Checking records

A record is a mapping with named fields. A check reads a part of it or lists its issues; checks side
by side list the issues of each in turn, so one pass finds all of them. A text may also be given as
UTF-8 bytes, and an integer as a truth value, a float without a fraction, or a numeral.
-/

namespace FluentSql.Record

/-! ### Issues -/

/-- One step from a record towards a part of it. -/
inductive Step where
  | field (name : String)
  | index (n : Int)
  deriving DecidableEq, Repr

/-- What may be wrong with a part of a record. -/
inductive Defect where
  | missing
  | unknownField
  /-- A key that is not a text. -/
  | invalidKey
  | notText
  /-- Bytes in the place of a text that are not UTF-8. -/
  | undecodableText
  /-- A text that is none of the allowed ones. -/
  | notAllowed
  | notList
  /-- Something else than a mapping in the place of a record. -/
  | notRecord
  | notInteger
  /-- A text in the place of an integer that is no numeral. -/
  | unreadableInteger
  /-- A number too large to be read as an integer. -/
  | oversizeInteger
  /-- A number with a fraction in the place of an integer. -/
  | fraction
  /-- An infinity or no number in the place of an integer. -/
  | notFinite
  deriving DecidableEq, Repr

/-- A defect and the way to it. -/
structure Issue where
  path : List Step
  defect : Defect
  deriving DecidableEq, Repr

/-- The issue as seen from one step further out. -/
def Issue.under (step : Step) (issue : Issue) : Issue :=
  { issue with path := step :: issue.path }

/-! ### Checks -/

/-- A part of a record, or the issues with it. -/
abbrev Check (α : Type) := Except (List Issue) α

/-- A check that finds one defect, right here. -/
def defect {α : Type} (d : Defect) : Check α :=
  .error [{ path := [], defect := d }]

/-- A check of a part that one step leads to. -/
def within {α : Type} (step : Step) (check : Check α) : Check α :=
  check.mapError (·.map (Issue.under step))

/-- Two checks side by side: the issues of both, or the one result applied to the other. -/
def both {α β : Type} (f : Check (α → β)) (x : Check α) : Check β :=
  match f, x with
  | .ok f, .ok x => .ok (f x)
  | .ok _, .error issues => .error issues
  | .error issues, .ok _ => .error issues
  | .error issues, .error more => .error (issues ++ more)

/-- The text that a value stands for. -/
def checkText : Value → Check String
  | .bytes data | .buffer data =>
    match Text.decodeUtf8 data with
    | .ok cs => .ok (String.ofList cs)
    | .error _ => defect .undecodableText
  | value =>
    match value.text? with
    | some name => .ok name
    | none => defect .notText

/-- The member of a closed set of keywords that a value names exactly. -/
def checkKeyword {α : Type} (ofKeyword? : String → Option α) (value : Value) : Check α :=
  match value.text?.bind ofKeyword? with
  | some member => .ok member
  | none => defect .notAllowed

def checkAny (value : Value) : Check Value :=
  .ok value

/-- Null, or what the check makes of another value. -/
def checkOptional {α : Type} (check : Value → Check α) : Value → Check (Option α)
  | .null => .ok none
  | value => (check value).map some

/-- Checks every item, with its index as a step. -/
def checkEach {α : Type} (check : Value → Check α) (items : List Value) : Check (List α) :=
  go 0 items
where
  /-- Checks the items from the given index on. -/
  go (index : Nat) : List Value → Check (List α)
    | [] => .ok []
    | item :: rest =>
      both ((within (.index index) (check item)).map List.cons) (go (index + 1) rest)

def checkList {α : Type} (check : Value → Check α) : Value → Check (List α)
  | .list items | .tuple items | .bag items | .stream items => checkEach check items
  | _ => defect .notList

/-- A field of a record: its value, or its default if the record lacks it. -/
def checkField {α : Type} (entries : List (Value × Value)) (name : String) (absent : Check α)
    (check : Value → Check α) : Check α :=
  within (.field name) <|
    match entries.find? fun entry => entry.1.text? == some name with
    | some entry => check entry.2
    | none => absent

/-- A field that a record must have. -/
def required {α : Type} (entries : List (Value × Value)) (name : String)
    (check : Value → Check α) : Check α :=
  checkField entries name (defect .missing) check

/-- A field that a record may lack. -/
def optional {α : Type} (entries : List (Value × Value)) (name : String) (default : α)
    (check : Value → Check α) : Check α :=
  checkField entries name (.ok default) check

/-- Whether an integer fits in 64 bits. -/
def isIndex (n : Int) : Bool :=
  -Int.pow 2 63 ≤ n && n < Int.pow 2 63

def keyStep : Value → Step
  | .int n => if isIndex n then .index n else .field (Value.decimal n)
  | .bool b => .index b.toNat
  | key => .field key.literal

/-- The issue with a key, unless it is one of the given field names. -/
def keyIssue? (fields : List String) (key : Value) : Option Issue :=
  match key.text? with
  | some name =>
    if fields.contains name then none else some { path := [.field name], defect := .unknownField }
  | none => some { path := [keyStep key], defect := .invalidKey }

/-- A record without other fields than the given ones. -/
def closed {α : Type} (entries : List (Value × Value)) (fields : List String)
    (check : Check α) : Check α :=
  match entries.filterMap fun entry => keyIssue? fields entry.1 with
  | [] => check
  | issues => both (check.map fun a (_ : Unit) => a) (.error issues)

def checkRecord {α : Type} (check : List (Value × Value) → Check α) : Value → Check α
  | .map entries => check entries
  | _ => defect .notRecord

/-! ### Integers -/

/-- Whether a character may stand between zeros at the front of a numeral. -/
def isPadding (c : Char) : Bool :=
  c == '0' || c == '_'

/-- A numeral that begins with a digit, without the zeros at its front that do not count. Low lines
may stand among these zeros, but the last of them only before a digit that counts or before a minus
sign, which may follow the zeros. -/
def dropZeros : List Char → Option (List Char)
  | '0' :: rest =>
    let endsInZero := (rest.takeWhile isPadding).getLast? != some '_'
    match rest.dropWhile isPadding with
    | [] => if endsInZero then some ['0'] else none
    | '.' :: fraction => if endsInZero then some ('0' :: '.' :: fraction) else none
    | c :: others => if c.isDigit || c == '-' then some (c :: others) else none
  | c :: rest => if c.isDigit then some (c :: rest) else none
  | [] => none

/-- A numeral without a point and one zero or more at its end. -/
def dropFraction (cs : List Char) : List Char :=
  match cs.reverse with
  | '0' :: rest =>
    match rest.dropWhile (· == '0') with
    | '.' :: whole => whole.reverse
    | _ => cs
  | _ => cs

/-- A numeral without its low lines, if each of them stands alone between two other characters. -/
def dropLowLines (cs : List Char) : List Char :=
  let parts := cs.splitOn '_'
  if parts.any List.isEmpty then cs else parts.flatten

/-- A numeral that begins with a digit, without anything that does not count. -/
def tidyMagnitude (cs : List Char) : Option (List Char) :=
  (dropZeros cs).map fun numeral => dropLowLines (dropFraction numeral)

/-- A text without anything that does not count for the integer in it: white space around it, a plus
sign, zeros at its front, a point and zeros at its end, and single low lines. -/
def tidy (cs : List Char) : Option (List Char) :=
  match Text.trimBlanks cs with
  | '-' :: rest => (tidyMagnitude rest).map ('-' :: ·)
  | '+' :: rest => tidyMagnitude rest
  | numeral => tidyMagnitude numeral

/-- The number of a run of digits without a needless zero at its front, if it is not too long. -/
def plainMagnitude? (cs : List Char) : Option Nat :=
  if !cs.isEmpty && cs.all Char.isDigit && (cs.head? != some '0' || cs == ['0'])
      && cs.length ≤ Numeral.maxDigits then
    some (Numeral.ofDigits (cs.map fun c => c.toNat - '0'.toNat))
  else
    none

/-- The integer of a plain numeral: digits, and perhaps a minus sign before them. -/
def plain? : List Char → Option Int
  | '-' :: digits => (plainMagnitude? digits).map fun n => -(n : Int)
  | digits => (plainMagnitude? digits).map fun n => (n : Int)

/-- Whether a text begins with more digits than a numeral may have, the first of them not a zero. -/
def beginsOversize (cs : List Char) : Bool :=
  cs.head? != some '0' && Numeral.maxDigits < (cs.takeWhile Char.isDigit).length

/-- Whether a text begins, just as it stands, with a plain numeral of too many digits. -/
def isOversize : List Char → Bool
  | '-' :: rest => beginsOversize rest
  | cs => beginsOversize cs

/-- The integer that a text stands for. Too many digits are told apart, whatever follows them, only
where the text begins with them or with a minus sign and them; otherwise the text is unreadable. -/
def checkNumeral (cs : List Char) : Check Int :=
  if isOversize cs then defect .oversizeInteger
  else
    match (tidy cs).bind plain? with
    | some n => .ok n
    | none => defect .unreadableInteger

def checkInteger : Value → Check Int
  | .int n => .ok n
  | .bool b => .ok b.toNat
  | .float (.finite negative mantissa exponent) =>
    if !Binary64.isWhole mantissa exponent then defect .fraction
    else if Binary64.wholePart mantissa exponent < Nat.pow 2 63 then
      .ok (Binary64.signed negative (Binary64.wholePart mantissa exponent))
    else defect .oversizeInteger
  | .float _ => defect .notFinite
  | .text s => checkNumeral s.toList
  | .direction _ => defect .unreadableInteger
  | .bytes data =>
    match Text.decodeUtf8 data with
    | .ok cs => checkNumeral cs
    | .error _ => defect .unreadableInteger
  | _ => defect .notInteger

end FluentSql.Record
