import FluentSql.Text.Character

/-!
# Quoted texts and encoded texts

How texts and bytes are written between quotes, and how bytes are read as UTF-8.
-/

namespace FluentSql.Text

/-! ### Quoted text

A text is quoted with single quotes, or with double quotes if it holds a single quote and no double
one. The backslash, the quote in use, tab, line feed and carriage return are escaped by a backslash;
a character that is not printable is written as its code in two, four or eight hexadecimal digits.
Bytes are quoted by the same rule, where only printable ASCII stands for itself. In a buffer of
bytes it is the single quote that is escaped, whichever quote is in use.
-/

def singleQuote : Char := '\x27'

def doubleQuote : Char := '\x22'

/-- The lower-case hexadecimal digits of `n`, at least `width` of them. -/
def hex (width n : Nat) : List Char :=
  let digits := Nat.toDigits 16 n
  List.replicate (width - digits.length) '0' ++ digits

/-- The quote that surrounds a text. -/
def quoteFor (cs : List Char) : Char :=
  if cs.contains singleQuote && !cs.contains doubleQuote then doubleQuote else singleQuote

/-- The escape of a character by a backslash and one letter, where `quote` is the quote to escape.
-/
def shortEscape? (quote c : Char) : Option Char :=
  if c == quote || c == '\\' then some c
  else if c == '\n' then some 'n'
  else if c == '\r' then some 'r'
  else if c == '\t' then some 't'
  else none

/-- A character by its code, with the fewest of two, four and eight hexadecimal digits. -/
def codeEscape (c : Char) : List Char :=
  if c.toNat < 0x100 then '\\' :: 'x' :: hex 2 c.toNat
  else if c.toNat < 0x10000 then '\\' :: 'u' :: hex 4 c.toNat
  else '\\' :: 'U' :: hex 8 c.toNat

/-- How a character is written between quotes. -/
def escape (quote c : Char) : List Char :=
  match shortEscape? quote c with
  | some letter => ['\\', letter]
  | none => if isPrintable c then [c] else codeEscape c

def quoted (s : String) : String :=
  let quote := quoteFor s.toList
  String.ofList (quote :: s.toList.flatMap (escape quote) ++ [quote])

/-- How a byte is written between quotes. -/
def escapeByte (quote : Char) (b : UInt8) : List Char :=
  let c := Char.ofNat b.toNat
  match shortEscape? quote c with
  | some letter => ['\\', letter]
  | none => if b < 0x7F && isPrintable c then [c] else codeEscape c

/-- Bytes between quotes, after the letter that marks them as bytes; `escaped` gives the quote to
escape. -/
def quotedBytesWith (escaped : Char → Char) (bytes : List UInt8) : String :=
  let quote := quoteFor (bytes.map fun b => Char.ofNat b.toNat)
  String.ofList ('b' :: quote :: bytes.flatMap (escapeByte (escaped quote)) ++ [quote])

/-- Bytes between quotes, where the quote in use is escaped. -/
def quotedBytes : List UInt8 → String :=
  quotedBytesWith id

/-- The bytes of a buffer between quotes, where the single quote is escaped. -/
def quotedBuffer : List UInt8 → String :=
  quotedBytesWith fun _ => singleQuote

/-! ### Reading UTF-8

Bytes are read as UTF-8 without overlong forms and surrogates. The first byte that cannot be read is
reported with its reason and the span of bytes it spoils: a byte that starts no character spoils
itself, a character broken off by a wrong byte spoils the bytes read of it so far, and a character
cut off by the end of the data spoils all that is left.
-/

/-- Why bytes are not UTF-8. -/
inductive Utf8Fault where
  /-- The byte at `start` starts no character. -/
  | invalidStart (start : Nat) (byte : UInt8)
  /-- The character from `start` breaks off before `stop`. -/
  | invalidContinuation (start stop : Nat) (byte : UInt8)
  /-- The data ends at `stop` inside the character from `start`. -/
  | unexpectedEnd (start stop : Nat) (byte : UInt8)
  deriving DecidableEq, Repr

/-- How many continuation bytes follow a first byte, the least and greatest first one, and the bits
the first byte contributes; `none` if no character starts with it. -/
def continuation? (b : UInt8) : Option (Nat × UInt8 × UInt8 × Nat) :=
  if b < 0x80 then some (0, 0, 0, b.toNat)
  else if b < 0xC2 then none
  else if b < 0xE0 then some (1, 0x80, 0xBF, b.toNat - 0xC0)
  else if b == 0xE0 then some (2, 0xA0, 0xBF, 0)
  else if b == 0xED then some (2, 0x80, 0x9F, 0xD)
  else if b < 0xF0 then some (2, 0x80, 0xBF, b.toNat - 0xE0)
  else if b == 0xF0 then some (3, 0x90, 0xBF, 0)
  else if b < 0xF4 then some (3, 0x80, 0xBF, b.toNat - 0xF0)
  else if b == 0xF4 then some (3, 0x80, 0x8F, 4)
  else none

/-- What is left of a character: nothing, or continuation bytes still to read. -/
inductive Utf8State where
  /-- Between two characters. -/
  | between
  /-- Inside the character that starts at `start` with `byte`: `more + 1` bytes are to come, the
  next one from `least` to `greatest`; `code` holds the bits so far. -/
  | within (start : Nat) (byte : UInt8) (more : Nat) (least greatest : UInt8) (code : Nat)

/-- Reads the bytes from position `pos` on. -/
def decodeFrom (pos : Nat) : Utf8State → List UInt8 → Except Utf8Fault (List Char)
  | .between, [] => .ok []
  | .within start byte .., [] => .error (.unexpectedEnd start pos byte)
  | .between, b :: rest =>
    match continuation? b with
    | none => .error (.invalidStart pos b)
    | some (0, _, _, code) => (decodeFrom (pos + 1) .between rest).map (Char.ofNat code :: ·)
    | some (more + 1, least, greatest, code) =>
      decodeFrom (pos + 1) (.within pos b more least greatest code) rest
  | .within start byte more least greatest code, b :: rest =>
    if least ≤ b && b ≤ greatest then
      let code := code * 64 + (b.toNat - 0x80)
      match more with
      | 0 => (decodeFrom (pos + 1) .between rest).map (Char.ofNat code :: ·)
      | more + 1 => decodeFrom (pos + 1) (.within start byte more 0x80 0xBF code) rest
    else
      .error (.invalidContinuation start pos byte)

def decodeUtf8 (bytes : List UInt8) : Except Utf8Fault (List Char) :=
  decodeFrom 0 .between bytes

/-- A text with every line end, be it CR LF, CR or LF, written as LF. -/
def unifyLineEnds : List Char → List Char
  | [] => []
  | '\r' :: '\n' :: rest => '\n' :: unifyLineEnds rest
  | '\r' :: rest => '\n' :: unifyLineEnds rest
  | c :: rest => c :: unifyLineEnds rest

end FluentSql.Text
