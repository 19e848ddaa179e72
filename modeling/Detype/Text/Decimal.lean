/-
**Decimal text of binary numbers.**

The shortest decimal that reads back as a given double, and the exact remainder of two doubles. Both
work on the integers that a double is made of, so no rounding happens on the way.

* `Binary` — a finite number as sign, significand and power of two.
* `shortest` — the fewest digits that read back, nearest to the number among those.
* `numberText` — the text of a number in a program.
-/

namespace Detype.Text

-- Powers are those of the natural numbers themselves, whatever else is in scope.
attribute [local instance (high)] instPowNat

/-- A finite number `± significand · 2 ^ exponent`. -/
structure Binary where
  negative : Bool
  significand : Nat
  exponent : Int
  /-- Whether the gap below the number is half the gap above. -/
  atPower : Bool
deriving Inhabited, Repr

/-- The parts of a finite double. -/
def Binary.ofFloat? (x : Float) : Option Binary :=
  let bits := x.toBits.toNat
  let negative := bits >>> 63 == 1
  let biased : Nat := bits >>> 52 % 2048
  let fraction : Nat := bits % (1 <<< 52)
  if biased == 2047 then none
  else if biased == 0 then some ⟨negative, fraction, -1074, false⟩
  else some ⟨negative, 1 <<< 52 + fraction, (biased : Int) - 1075, fraction == 0 && biased > 1⟩

/-- A quotient of natural numbers `num / den` scaled by a power of ten. -/
def scaled (num den : Nat) (tens : Int) : Nat × Nat :=
  if tens ≥ 0 then (num * 10 ^ tens.toNat, den) else (num, den * 10 ^ (-tens).toNat)

/-- The largest `e` with `10 ^ e ≤ num / den`, searched from a guess downwards. -/
def magnitude (num den : Nat) : (fuel : Nat) → (guess : Int) → Int
  | 0, guess => guess
  | fuel + 1, guess =>
    let (n, d) := scaled num den (-guess)
    if n ≥ d then guess else magnitude num den fuel (guess - 1)

/-- A decimal `digits · 10 ^ exponent`. -/
structure Decimal where
  digits : Nat
  exponent : Int
deriving Inhabited, Repr

/-- The two neighbours of a number on a decimal grid, if they lie in the interval of numbers that
round to it; the nearer first. All quantities are in units of a quarter of the last place. -/
def onGrid (value below above unit : Nat) (closed : Bool) : Option Nat :=
  let low := value / unit
  let inside (k : Nat) : Bool :=
    let p := k * unit
    if closed then below ≤ p && p ≤ above else below < p && p < above
  let lowIn := low > 0 && inside low
  let highIn := inside (low + 1)
  if lowIn && highIn then
    let down := value - low * unit
    let up := (low + 1) * unit - value
    if down < up || (down == up && low % 2 == 0) then some low else some (low + 1)
  else if lowIn then some low
  else if highIn then some (low + 1)
  else none

/-- Digits of a positive number with a growing count until they read back. -/
def search (value below above den : Nat) (closed : Bool) (mag : Int) : (fuel count : Nat) → Decimal
  | 0, _ => ⟨0, 0⟩
  | fuel + 1, count =>
    let exponent := mag - (count : Int) + 1
    let tens := 10 ^ exponent.natAbs
    let found := if exponent ≥ 0 then onGrid value below above (den * tens) closed
      else onGrid (value * tens) (below * tens) (above * tens) den closed
    match found with
    | some digits => ⟨digits, exponent⟩
    | none => search value below above den closed mag fuel (count + 1)

/-- The fewest digits that read back as a positive number. -/
def shortest (b : Binary) : Decimal :=
  let two (k : Nat) : Nat := 2 ^ k
  let num := b.significand * (if b.exponent ≥ 0 then two b.exponent.toNat else 1)
  let den := if b.exponent ≥ 0 then 1 else two (-b.exponent).toNat
  let step := if b.exponent ≥ 0 then two b.exponent.toNat else 1
  let value := 4 * num
  let above := value + 2 * step
  let below := value - (if b.atPower then step else 2 * step)
  let mag := magnitude num den 700 310
  search value below above (4 * den) (b.significand % 2 == 0) mag 20 1

/-- The text of decimal digits with trailing zeros moved into the exponent. -/
def trimZeros : (fuel : Nat) → Decimal → Decimal
  | 0, d => d
  | fuel + 1, d => if d.digits != 0 && d.digits % 10 == 0 then trimZeros fuel ⟨d.digits / 10, d.exponent + 1⟩ else d

def zeros (n : Nat) : String := String.ofList (List.replicate n '0')

/-- A positive decimal: positional from `1e-6` up to below `1e21`, else with an exponent. -/
def Decimal.text (d : Decimal) : String :=
  let d := trimZeros 400 d
  let digits := toString d.digits
  let k := digits.length
  let point : Int := k + d.exponent
  if (k : Int) ≤ point && point ≤ 21 then digits ++ zeros (point - k).toNat
  else if 0 < point && point ≤ 21 then
    (digits.take point.toNat).toString ++ "." ++ (digits.drop point.toNat).toString
  else if -6 < point && point ≤ 0 then "0." ++ zeros (-point).toNat ++ digits
  else
    let e := point - 1
    let sign := if e < 0 then "-" else "+"
    let mantissa := if k == 1 then digits else (digits.take 1).toString ++ "." ++ (digits.drop 1).toString
    mantissa ++ "e" ++ sign ++ toString e.natAbs

/-- A positive decimal that always shows a point or an exponent: positional from `1e-5` up to below
`1e16`. -/
def Decimal.pointed (d : Decimal) : String :=
  let d := trimZeros 400 d
  let digits := toString d.digits
  let k := digits.length
  let point : Int := k + d.exponent
  if (k : Int) ≤ point && point ≤ 16 then digits ++ zeros (point - k).toNat ++ ".0"
  else if 0 < point && point ≤ 16 then
    (digits.take point.toNat).toString ++ "." ++ (digits.drop point.toNat).toString
  else if -5 < point && point ≤ 0 then "0." ++ zeros (-point).toNat ++ digits
  else
    let mantissa := if k == 1 then digits else (digits.take 1).toString ++ "." ++ (digits.drop 1).toString
    mantissa ++ "e" ++ toString (point - 1)

/-- A positive decimal without an exponent, however long. -/
def Decimal.positional (d : Decimal) : String :=
  let d := trimZeros 400 d
  let digits := toString d.digits
  let k := digits.length
  let point : Int := k + d.exponent
  if (k : Int) ≤ point then digits ++ zeros (point - k).toNat
  else if 0 < point then (digits.take point.toNat).toString ++ "." ++ (digits.drop point.toNat).toString
  else "0." ++ zeros (-point).toNat ++ digits

/-- The text of a number that serves as a name. -/
def positionalText (x : Float) : String :=
  match Binary.ofFloat? x with
  | none => if x.isNaN then "NaN" else if x < 0 then "-inf" else "inf"
  | some b =>
    (if b.negative then "-" else "") ++ if b.significand == 0 then "0" else (shortest b).positional

/-- The text of a number in a message. -/
def pointedText (x : Float) : String :=
  match Binary.ofFloat? x with
  | none => if x.isNaN then "NaN" else if x < 0 then "-inf" else "inf"
  | some b =>
    (if b.negative then "-" else "") ++ if b.significand == 0 then "0.0" else (shortest b).pointed

/-- The text of a number in a program. -/
def numberText (x : Float) : String :=
  match Binary.ofFloat? x with
  | none => if x.isNaN then "NaN" else if x < 0 then "-Infinity" else "Infinity"
  | some b =>
    if b.significand == 0 then (if b.negative then "-0" else "0")
    else (if b.negative then "-" else "") ++ (shortest b).text

/-- The double nearest to an integer scaled by a power of two, which is exact where it can be. -/
def floatOf (negative : Bool) (significand : Nat) (exponent : Int) : Float :=
  let x := if exponent ≥ 0 then Float.ofNat (significand * 2 ^ exponent.toNat)
    else Float.scaleB (Float.ofNat significand) exponent
  if negative then -x else x

/-- The remainder of a division that truncates, with the sign of the dividend. -/
def remainder (x y : Float) : Float :=
  match Binary.ofFloat? x, Binary.ofFloat? y with
  | some a, some b =>
    if b.significand == 0 then 0.0 / 0.0
    else
      let e := min a.exponent b.exponent
      let m := a.significand * 2 ^ (a.exponent - e).toNat
      let n := b.significand * 2 ^ (b.exponent - e).toNat
      floatOf a.negative (m % n) e
  | some _, none => if y.isNaN then y else x
  | none, _ => 0.0 / 0.0

/-- The integer part of a number modulo `2 ^ 32`. -/
def wrap32 (x : Float) : Nat :=
  match Binary.ofFloat? x with
  | none => 0
  | some b =>
    let whole := if b.exponent ≥ 0 then b.significand * 2 ^ b.exponent.toNat
      else b.significand / 2 ^ (-b.exponent).toNat
    let m := whole % UInt32.size
    if b.negative then (UInt32.size - m) % UInt32.size else m

/-- A word of 32 bits as a signed number. -/
def signed32 (n : Nat) : Float :=
  let m := n % UInt32.size
  if m ≥ UInt32.size / 2 then -(Float.ofNat (UInt32.size - m)) else Float.ofNat m

end Detype.Text
