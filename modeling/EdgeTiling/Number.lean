/-! Powers, floating-point numbers taken apart, and the decimals that they are written as and read
from. -/

namespace EdgeTiling

def twoTo (n : Nat) : Nat := Nat.pow 2 n

def tenTo (n : Nat) : Nat := Nat.pow 10 n

/-- Sizes, coordinates, counters and seeds stay below this bound. -/
def wordLimit : Nat := twoTo 64

/-- The number `mantissa * 2 ^ exponent`, at most one unit of the mantissa away from its
neighbours of the same format. -/
structure Binary where
  mantissa : Nat
  exponent : Int
  /-- Whether the neighbour below lies only half a unit away. -/
  closeBelow : Bool
  deriving DecidableEq, Repr

namespace Binary

/-- Numerator over a denominator that is a power of two. -/
def num (b : Binary) : Nat := b.mantissa * twoTo b.exponent.toNat

def den (b : Binary) : Nat := twoTo (-b.exponent).toNat

end Binary

inductive Numeral
  | nan
  | infinite (negative : Bool)
  | finite (negative : Bool) (magnitude : Binary)
  deriving DecidableEq, Repr

namespace Numeral

/-- Reads the bits of an interchange format with the given widths of exponent and fraction. -/
def ofBits (exponentBits fractionBits bits : Nat) : Numeral :=
  let fraction := bits % twoTo fractionBits
  let biased := bits / twoTo fractionBits % twoTo exponentBits
  let negative := bits / twoTo (fractionBits + exponentBits) % 2 == 1
  let bias := (twoTo (exponentBits - 1) : Int) - 1 + fractionBits
  if biased == twoTo exponentBits - 1 then
    if fraction == 0 then .infinite negative else .nan
  else if biased == 0 then
    .finite negative ⟨fraction, 1 - bias, false⟩
  else
    .finite negative ⟨twoTo fractionBits + fraction, biased - bias, fraction == 0 && biased != 1⟩

def ofFloat (x : Float) : Numeral := ofBits 11 52 x.toBits.toNat

def ofFloat32 (x : Float32) : Numeral := ofBits 8 23 x.toBits.toNat

/-- A sign is kept also in front of zero. -/
def text (magnitudeText : Binary → String) : Numeral → String
  | .nan => "NaN"
  | .infinite negative => if negative then "-inf" else "inf"
  | .finite negative b => (if negative then "-" else "") ++ magnitudeText b

end Numeral

structure Decimal where
  digits : Nat
  exponent : Int
  deriving DecidableEq, Repr

namespace Decimal

/-- Moves zeros at the end of the digits into the exponent. -/
def trim (d : Decimal) : Decimal :=
  if _h : d.digits ≠ 0 ∧ d.digits % 10 = 0 then trim ⟨d.digits / 10, d.exponent + 1⟩ else d
termination_by d.digits
decreasing_by exact Nat.div_lt_self (by omega) (by decide)

def digitText (d : Decimal) : String := toString d.digits

/-- The place of the decimal point, counted from the front of the digits. -/
def point (d : Decimal) : Int := d.digitText.length + d.exponent

/-- Digits with a point and no exponent; a whole number has no point. -/
def positional (d : Decimal) : String :=
  let p := d.point
  if d.digits = 0 then "0"
  else if d.exponent ≥ 0 then d.digitText ++ "".pushn '0' d.exponent.toNat
  else if p ≤ 0 then "0." ++ "".pushn '0' (-p).toNat ++ d.digitText
  else String.ofList (d.digitText.toList.take p.toNat) ++ "." ++
    String.ofList (d.digitText.toList.drop p.toNat)

end Decimal

inductive Tie
  | even
  | up
  deriving DecidableEq, Repr

namespace Binary

/-- Whether `k * 10 ^ p` reads back as `b`: it lies between the midpoints to both neighbours,
and on a midpoint only if the mantissa is even. -/
def readsBack (b : Binary) (k : Nat) (p : Int) : Bool :=
  let unit := twoTo b.exponent.toNat * tenTo (-p).toNat
  let value := 4 * k * tenTo p.toNat * b.den
  let low := 4 * b.mantissa * unit - (if b.closeBelow then unit else 2 * unit)
  let high := 4 * b.mantissa * unit + 2 * unit
  if b.mantissa % 2 == 0 then low ≤ value && value ≤ high else low < value && value < high

/-- The least `e` with `b < 10 ^ e`, for a positive `b`. -/
def decimalExponent (b : Binary) : Int :=
  if b.den ≤ b.num then (toString (b.num / b.den)).length
  else match (List.range 400).find? fun j => b.den ≤ b.num * tenTo (j + 1) with
    | some j => -(j : Int)
    | none => -400

/-- The nearest multiple of `10 ^ p` that reads back as `b`. -/
def nearestOn (b : Binary) (tie : Tie) (p : Int) : Option Nat :=
  let num := b.num * tenTo (-p).toNat
  let den := b.den * tenTo p.toNat
  let k := num / den
  let above := 2 * (num % den)
  match b.readsBack k p, b.readsBack (k + 1) p with
  | true, true =>
    if above < den then some k
    else if den < above then some (k + 1)
    else if tie = .even ∧ k % 2 = 0 then some k
    else some (k + 1)
  | true, false => some k
  | false, true => some (k + 1)
  | false, false => none

/-- The shortest decimal that reads back as `b`; seventeen digits always do. -/
def shortest (b : Binary) (tie : Tie) : Decimal :=
  if b.mantissa = 0 then ⟨0, 0⟩
  else
    let e := b.decimalExponent
    match (List.range 17).findSome? fun n => (b.nearestOn tie (e - (n + 1 : Nat))).map
        (fun k => (Decimal.mk k (e - (n + 1 : Nat))).trim) with
    | some d => d
    | none => ⟨b.num / b.den, 0⟩

end Binary

/-- The quotient rounded to the nearest whole number, a half to the even one. -/
def roundDiv (num den : Nat) : Nat :=
  let q := num / den
  let twice := 2 * (num % den)
  if twice < den then q
  else if den < twice then q + 1
  else if q % 2 = 0 then q
  else q + 1

/-- `whole` read in units of `10 ^ (-places)`. -/
def placed (whole places : Nat) : String :=
  let text := toString whole
  let padded := "".pushn '0' (places + 1 - text.length) ++ text
  let cut := padded.length - places
  String.ofList (padded.toList.take cut) ++ "." ++ String.ofList (padded.toList.drop cut)

/-- The exact value of `x` rounded to `places` places, a half to the even neighbour. -/
def fixedText (places : Nat) (x : Float) : String :=
  (Numeral.ofFloat x).text fun b => placed (roundDiv (b.num * tenTo places) b.den) places

structure FloatFormat where
  exponentBits : Nat
  fractionBits : Nat

namespace FloatFormat

def single : FloatFormat := ⟨8, 23⟩

def double : FloatFormat := ⟨11, 52⟩

/-- The exponent of the smallest positive number. -/
def least (f : FloatFormat) : Int := 2 - (twoTo (f.exponentBits - 1) : Int) - f.fractionBits

def infinity (f : FloatFormat) : Nat := (twoTo f.exponentBits - 1) * twoTo f.fractionBits

/-- The bits of the number nearest to a quotient; a half goes to the even mantissa. -/
def nearest (f : FloatFormat) (num den : Nat) : Nat :=
  if num = 0 then 0
  else
    let scaled (e : Int) : Nat × Nat := (num * twoTo (-e).toNat, den * twoTo e.toNat)
    let low : Int := (num.log2 : Int) - den.log2 - 1 - f.fractionBits
    let (n, d) := scaled low
    let e := max f.least (if n / d < twoTo (f.fractionBits + 1) then low else low + 1)
    let (n, d) := scaled e
    min f.infinity ((e - f.least).toNat * twoTo f.fractionBits + roundDiv n d)

/-- The bits of the number nearest to `digits * 10 ^ exponent`. Exponents far outside the range of
the format are not worked out. -/
def ofDecimal (f : FloatFormat) (digits : Nat) (exponent : Int) : Nat :=
  let point := (toString digits).length + exponent
  if digits = 0 ∨ point < -400 then 0
  else if 400 < point then f.infinity
  else f.nearest (digits * tenTo exponent.toNat) (tenTo (-exponent).toNat)

end FloatFormat

def floatOfDecimal (digits : Nat) (exponent : Int) : Float :=
  .ofBits (FloatFormat.double.ofDecimal digits exponent).toUInt64

def float32OfDecimal (digits : Nat) (exponent : Int) : Float32 :=
  .ofBits (FloatFormat.single.ofDecimal digits exponent).toUInt32

def largestPower : Nat := 308

def powerOfTen (n : Nat) : Float := floatOfDecimal 1 n

/-- `x / 10 ^ n`, in divisions by at most the largest power. -/
def scaleDown (x : Float) (n : Nat) : Float :=
  if x == 0 then x
  else if n ≤ largestPower then x / powerOfTen n
  else scaleDown (x / powerOfTen largestPower) (n - largestPower)
termination_by n
decreasing_by simp only [largestPower] at *; omega

/-- `digits * 10 ^ exponent`, or nothing where that is beyond the range of the format. -/
def scaled? (digits : Nat) (exponent : Int) : Option Float :=
  let x := floatOfDecimal digits 0
  if exponent < 0 then some (scaleDown x (-exponent).toNat)
  else if exponent.toNat ≤ largestPower then
    let y := x * powerOfTen exponent.toNat
    if y.isInf then none else some y
  else if x == 0 then some x
  else none

end EdgeTiling
