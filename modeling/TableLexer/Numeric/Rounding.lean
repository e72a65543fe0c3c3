import TableLexer.Text.Digits

/-!
# Rounding

Quotients rounded to the nearest whole number, a tie going to the even neighbour; the
nearest number with 53 significant bits; and numbers shown with two decimals.  A quantity
is kept as an exact quotient until it is shown, so every rounding is written down.
-/

namespace TableLexer

/-- A number of hundredths, written with two decimals. -/
def showHundredths (n : Nat) : String :=
  String.ofList (Text.decimal (n / 100) ++ '.' :: Text.paddedDecimal 2 (n % 100))

/-- A quotient of natural numbers. -/
structure Quotient where
  num : Nat
  den : Nat
deriving DecidableEq, Repr

namespace Quotient

/-- The whole number. -/
def ofNat (n : Nat) : Quotient :=
  ⟨n, 1⟩

/-- The sum of two quotients. -/
def add (a b : Quotient) : Quotient :=
  ⟨a.num * b.den + b.num * a.den, a.den * b.den⟩

/-- The nearest whole number; a tie goes to the even neighbour. -/
def round (q : Quotient) : Nat :=
  let below := q.num / q.den
  let twice := 2 * (q.num % q.den)
  if twice < q.den then below
  else if q.den < twice then below + 1
  else if below % 2 = 0 then below
  else below + 1

/-- The quotient times a power of two. -/
def scale (q : Quotient) (exponent : Int) : Quotient :=
  if 0 ≤ exponent then ⟨q.num * Nat.pow 2 exponent.toNat, q.den⟩
  else ⟨q.num, q.den * Nat.pow 2 (-exponent).toNat⟩

/-- The exponent of the highest power of two that is not above the quotient, which is not
zero. -/
def magnitude (q : Quotient) : Int :=
  let guess : Int := (q.num.log2 : Int) - q.den.log2
  let scaled := q.scale (-guess)
  if scaled.num < scaled.den then guess - 1 else guess

/--
The nearest number with 53 significant bits; a tie goes to the number whose last bit is 0.
This is the value of the quotient in double precision, as long as it is neither tiny nor
huge.
-/
def toDouble (q : Quotient) : Quotient :=
  if q.num = 0 then ⟨0, 1⟩
  else
    let exponent := q.magnitude - 52
    (ofNat (q.scale (-exponent)).round).scale exponent

/-- The quotient with two decimals. -/
def twoDecimals (q : Quotient) : String :=
  showHundredths (⟨q.num * 100, q.den⟩ : Quotient).round

end Quotient

/-- The units in which a number of bytes is shown, each 1024 times the one before. -/
def sizeUnits : List String :=
  ["B", "KB", "MB", "GB"]

/--
A number of bytes that is at least 1024, divided by 1024 until it is smaller or the largest
unit is reached.
-/
def showInUnit (q : Quotient) : List String → String
  | [] => q.twoDecimals
  | [u] => q.twoDecimals ++ " " ++ u
  | u :: v :: rest =>
    if q.den * 1024 ≤ q.num then showInUnit ⟨q.num, q.den * 1024⟩ (v :: rest)
    else q.twoDecimals ++ " " ++ u

/-- A number of bytes for the reader: exact below 1024, with two decimals in larger
units. -/
def humanSize (bytes : Nat) : String :=
  if bytes < 1024 then toString bytes ++ " B"
  else showInUnit (Quotient.ofNat bytes).toDouble sizeUnits

/-- A duration in seconds with two decimals, computed in double precision. -/
def showSeconds (nanos : Nat) : String :=
  let seconds := (Quotient.ofNat (nanos / 1000000000)).toDouble
  let fraction := (⟨nanos % 1000000000, 1000000000⟩ : Quotient).toDouble
  (seconds.add fraction).toDouble.twoDecimals

/-- A duration in milliseconds with two decimals, computed in double precision. -/
def showMillis (nanos : Nat) : String :=
  let seconds := (Quotient.ofNat (nanos / 1000000000)).toDouble
  let fraction := (⟨nanos % 1000000000, 1000000000⟩ : Quotient).toDouble
  let total := (seconds.add fraction).toDouble
  (⟨total.num * 1000, total.den⟩ : Quotient).toDouble.twoDecimals

end TableLexer
