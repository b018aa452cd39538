import FluentSql.Text.Character

/-!
# Numbers

Integers as they are read from numerals, binary floating-point numbers, and the shortest decimals
that these are written as.
-/

namespace FluentSql

/-! ### Reading integers

A numeral is a run of decimal digits of any script, with an optional sign before it, white space
around it, and single low lines between its digits. There is a limit to its digits.
-/

namespace Numeral

/-- The greatest number of digits that an integer is read from or written in. -/
def maxDigits : Nat := 4300

/-- The values of the digits of a run, where a single low line may stand between two digits. -/
def digits? : List Char → Option (List Nat)
  | [] => none
  | [c] => (Text.digit? c).map ([·])
  | c :: '_' :: rest => do
    let digit ← Text.digit? c
    let digits ← digits? rest
    return digit :: digits
  | c :: rest => do
    let digit ← Text.digit? c
    let digits ← digits? rest
    return digit :: digits

/-- The number with the given decimal digits, the first the most significant. -/
def ofDigits (digits : List Nat) : Nat :=
  digits.foldl (fun value digit => 10 * value + digit) 0

/-- The number of a run of digits that is not too long. -/
def magnitude? (cs : List Char) : Option Nat := do
  let digits ← digits? cs
  if digits.length ≤ maxDigits then some (ofDigits digits) else none

/-- The integer of a run of digits with an optional sign before it. -/
def signed? : List Char → Option Int
  | '-' :: rest => (magnitude? rest).map fun n => -(n : Int)
  | '+' :: rest => (magnitude? rest).map fun n => (n : Int)
  | cs => (magnitude? cs).map fun n => (n : Int)

/-- The integer that a text stands for. -/
def read? (cs : List Char) : Option Int :=
  signed? (Text.trimBlanks cs)

/-- The integer that bytes stand for, which must be ASCII. -/
def readBytes? (bytes : List UInt8) : Option Int :=
  if bytes.all (· < 0x80) then read? (bytes.map fun b => Char.ofNat b.toNat) else none

end Numeral

/-! ### Binary floating-point numbers

A 64-bit binary number as what it stands for: a mantissa times a power of two with a sign, an
infinity, or no number at all.
-/

/-- A 64-bit binary floating-point number. -/
inductive Binary64 where
  | nan
  | infinity (negative : Bool)
  /-- The number `mantissa * 2 ^ exponent`, negated if `negative`. -/
  | finite (negative : Bool) (mantissa : Nat) (exponent : Int)
  deriving DecidableEq, Repr

namespace Binary64

def ofBits (bits : UInt64) : Binary64 :=
  let negative := bits >>> 63 == 1
  let exponent := ((bits >>> 52) &&& 0x7FF).toNat
  let fraction := (bits &&& 0xFFFFFFFFFFFFF).toNat
  if exponent == 0x7FF then
    if fraction == 0 then .infinity negative else .nan
  else if exponent == 0 then
    .finite negative fraction (-1074)
  else
    .finite negative (Nat.pow 2 52 + fraction) ((exponent : Int) - 1075)

/-- The number nearest to `digits * 10 ^ exponent`, of two equally near ones the even. -/
def ofDecimal (negative : Bool) (digits : Nat) (exponent : Int) : Binary64 :=
  let magnitude := Float.ofScientific digits (exponent < 0) exponent.natAbs
  match ofBits magnitude.toBits with
  | .finite _ mantissa exponent => .finite negative mantissa exponent
  | .infinity _ => .infinity negative
  | .nan => .nan

def isZero : Binary64 → Bool
  | .finite _ mantissa _ => mantissa == 0
  | _ => false

/-- The whole part of the magnitude `mantissa * 2 ^ exponent`. -/
def wholePart (mantissa : Nat) (exponent : Int) : Nat :=
  mantissa * Nat.pow 2 exponent.toNat / Nat.pow 2 (-exponent).toNat

def isWhole (mantissa : Nat) (exponent : Int) : Bool :=
  mantissa % Nat.pow 2 (-exponent).toNat == 0

/-- A magnitude with its sign. -/
def signed (negative : Bool) (magnitude : Nat) : Int :=
  if negative then -(magnitude : Int) else magnitude

end Binary64

/-! ### Shortest decimals

A finite binary number is written with the fewest digits that read back to it; of two such decimals
the one nearer to the number is taken, of two equally near ones the even. A number whose leading
digit stands for `10 ^ e` with `-4 ≤ e < 16` is written positionally and always shows a point, any
other in scientific form with a signed exponent of at least two digits.
-/

namespace Binary64

/-- Compares `a * 10 ^ i` with `b * 2 ^ j`, exactly. -/
def compareScaled (a : Nat) (i : Int) (b : Nat) (j : Int) : Ordering :=
  compare (a * Nat.pow 10 i.toNat * Nat.pow 2 (-j).toNat)
    (b * Nat.pow 2 j.toNat * Nat.pow 10 (-i).toNat)

/-- Whether `digits * 10 ^ place` lies among the reals that round to `mantissa * 2 ^ exponent`. They
reach halfway to the two neighbours, where the lower one is nearer if the mantissa is the least of
its binade; the ends belong to the interval when the mantissa is even. -/
def readsBack (mantissa : Nat) (exponent : Int) (digits : Nat) (place : Int) : Bool :=
  let lower :=
    if mantissa == Nat.pow 2 52 && exponent > -1074 then 4 * mantissa - 1 else 4 * mantissa - 2
  let toLower := compareScaled digits place lower (exponent - 2)
  let toUpper := compareScaled digits place (4 * mantissa + 2) (exponent - 2)
  let closed := mantissa % 2 == 0
  (toLower == .gt || closed && toLower == .eq) && (toUpper == .lt || closed && toUpper == .eq)

/-- The least `k` with `mantissa * 2 ^ exponent < 10 ^ k`, for a mantissa that is not zero. -/
def decimalPoint (mantissa : Nat) (exponent : Int) : Int :=
  let guess := (((mantissa.log2 : Int) + exponent) * 30103).fdiv 100000 - 1
  let places := (List.range 5).map fun (n : Nat) => guess + n
  (places.find? fun place => compareScaled 1 place mantissa exponent == .gt).getD guess

/-- The one of two neighbours on a decimal grid that reads back and is nearer to the number. -/
def nearest? (mantissa : Nat) (exponent : Int) (place : Int) : Option Nat :=
  let below :=
    mantissa * Nat.pow 2 exponent.toNat * Nat.pow 10 (-place).toNat /
      (Nat.pow 2 (-exponent).toNat * Nat.pow 10 place.toNat)
  match readsBack mantissa exponent below place, readsBack mantissa exponent (below + 1) place with
  | true, true =>
    match compareScaled (2 * below + 1) place (2 * mantissa) exponent with
    | .gt => some below
    | .lt => some (below + 1)
    | .eq => some (if below % 2 == 0 then below else below + 1)
  | true, false => some below
  | false, true => some (below + 1)
  | false, false => none

/-- The digits of the shortest decimal and the power of ten of its last digit. Seventeen digits
always suffice; the exact value stands in for the case that does not arise. -/
def shortest (mantissa : Nat) (exponent : Int) : Nat × Int :=
  let point := decimalPoint mantissa exponent
  let found := (List.range 17).findSome? fun n =>
    let place := point - (n + 1 : Nat)
    (nearest? mantissa exponent place).map fun digits => (digits, place)
  found.getD
    (mantissa * Nat.pow 2 exponent.toNat * Nat.pow 5 (-exponent).toNat, -(-exponent).toNat)

/-- A decimal as digits without trailing zeros, and the power of ten of the first of them. -/
def leading (digits : Nat) (place : Int) : List Char × Int :=
  let all := Nat.toDigits 10 digits
  ((all.reverse.dropWhile (· == '0')).reverse, place + all.length - 1)

/-- Digits with the point after the first `n` of them, zeros filling what is missing. -/
def withPoint (n : Nat) (digits : List Char) : List Char :=
  let whole := digits.take n ++ List.replicate (n - digits.length) '0'
  let rest := digits.drop n
  (if whole.isEmpty then ['0'] else whole) ++ '.' :: (if rest.isEmpty then ['0'] else rest)

/-- Digits in scientific form, the first of them standing for `10 ^ power`. -/
def scientific (digits : List Char) (power : Int) : List Char :=
  let fraction := digits.drop 1
  let size := Nat.toDigits 10 power.natAbs
  digits.take 1 ++ (if fraction.isEmpty then [] else '.' :: fraction)
    ++ ['e', if power < 0 then '-' else '+'] ++ List.replicate (2 - size.length) '0' ++ size

/-- A decimal, positionally or in scientific form. -/
def layout (digits : List Char) (power : Int) : List Char :=
  if power < -4 || 16 ≤ power then scientific digits power
  else if power < 0 then withPoint 0 (List.replicate (-power - 1).toNat '0' ++ digits)
  else withPoint (power.toNat + 1) digits

def text : Binary64 → String
  | .nan => "nan"
  | .infinity negative => if negative then "-inf" else "inf"
  | .finite negative mantissa exponent =>
    let sign := if negative then ['-'] else []
    if mantissa == 0 then
      String.ofList (sign ++ ['0', '.', '0'])
    else
      let (digits, place) := shortest mantissa exponent
      let (digits, power) := leading digits place
      String.ofList (sign ++ layout digits power)

end Binary64

end FluentSql
