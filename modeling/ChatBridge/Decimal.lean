/-!
# Decimals of doubles

A decimal is read as a 64-bit significand and a power of ten. `scaled` rounds the significand first
and then multiplies or divides once by the rounded power, so the result may be off the nearest double
by a unit in the last place. Powers beyond 10^308 are taken in steps.

`shortest` takes a positive finite double apart into `m · 2^q` and looks for the fewest digits that
lie in the interval of reals rounding to it. The search is exact: ends of the interval and points of
each decimal grid are compared as natural numbers.
-/

namespace ChatBridge.Decimal

/-! ## Reading -/

def power (n : Nat) : Float := Float.ofScientific 1 false n

/-- Divides by `10^308` until the exponent left is in reach or nothing of the number is left. -/
def shrink : Nat → Float → Nat → Float
  | 0, x, _ => x
  | fuel + 1, x, n =>
    if n ≤ 308 then x / power n
    else if x == 0 then x
    else shrink fuel (x / power 308) (n - 308)

/-- `none` where the number is beyond the largest double. -/
def scaled (significand : UInt64) (exponent : Int) : Option Float :=
  let x := significand.toFloat
  if exponent < 0 then some (shrink 4 x exponent.natAbs)
  else if 308 < exponent then if x == 0 then some x else none
  else
    let y := x * power exponent.toNat
    if y.isInf then none else some y

/-! ## Writing -/

structure Scientific where
  digits : Nat
  exponent : Int
deriving DecidableEq, Repr

/-- A positive double as a fraction, with the ends of the interval that rounds to it; both ends
belong to the interval exactly when the significand is even. -/
structure Interval where
  low : Nat
  value : Nat
  high : Nat
  denominator : Nat
  closed : Bool

def Interval.ofBits (bits : UInt64) : Interval :=
  let exponent := (bits >>> 52 &&& 0x7ff).toNat
  let fraction := (bits &&& 0xfffffffffffff).toNat
  let m := if exponent = 0 then fraction else fraction + Nat.pow 2 52
  let q : Int := if exponent = 0 then -1074 else exponent - 1075
  -- just above a power of two the doubles below lie twice as close
  let below := if fraction = 0 ∧ 1 < exponent then 1 else 2
  let up := Nat.pow 2 (q - 2).toNat
  ⟨(4 * m - below) * up, 4 * m * up, (4 * m + 2) * up, Nat.pow 2 (2 - q).toNat, m % 2 = 0⟩

def Interval.scaled (i : Interval) (exponent : Int) : Interval :=
  let up := Nat.pow 10 (-exponent).toNat
  ⟨i.low * up, i.value * up, i.high * up, i.denominator * Nat.pow 10 exponent.toNat, i.closed⟩

def Interval.contains (i : Interval) (n : Nat) : Bool :=
  let x := n * i.denominator
  if i.closed then i.low ≤ x && x ≤ i.high else i.low < x && x < i.high

/-- The nearer of the value's two neighbours among the whole numbers of the interval, the even one
of two equally near. -/
def Interval.whole? (i : Interval) : Option Nat :=
  let a := i.value / i.denominator
  match i.contains a, i.contains (a + 1) with
  | true, true =>
    let down := i.value - a * i.denominator
    let up := (a + 1) * i.denominator - i.value
    some (if down < up ∨ down = up ∧ a % 2 = 0 then a else a + 1)
  | true, false => some a
  | false, true => some (a + 1)
  | false, false => none

def leadingBelowOne (value denominator : Nat) : Nat → Int
  | 0 => 0
  | fuel + 1 =>
    if denominator ≤ value then 0 else leadingBelowOne (value * 10) denominator fuel - 1

def Interval.leading (i : Interval) : Int :=
  if i.denominator ≤ i.value then (Nat.toDigits 10 (i.value / i.denominator)).length - 1
  else leadingBelowOne i.value i.denominator 400

def firstGrid (i : Interval) (leading : Int) (count : Nat) : Nat → Scientific
  | 0 => ⟨i.value / i.denominator, 0⟩
  | fuel + 1 =>
    let exponent := leading - (count - 1)
    match (i.scaled exponent).whole? with
    | some n => ⟨n, exponent⟩
    | none => firstGrid i leading (count + 1) fuel

def stripZeros (d : Scientific) : Nat → Scientific
  | 0 => d
  | fuel + 1 =>
    if d.digits ≠ 0 ∧ d.digits % 10 = 0 then stripZeros ⟨d.digits / 10, d.exponent + 1⟩ fuel else d

def shortest (bits : UInt64) : Scientific :=
  let i := Interval.ofBits bits
  stripZeros (firstGrid i i.leading 1 17) 20

/-! ## Text -/

/-- Numbers whose leading digit stands for `10^least` up to `10^greatest` are written out, all
others with an exponent. -/
structure Layout where
  least : Int
  greatest : Int

def layout : Layout := ⟨-5, 15⟩

def zeros (n : Nat) : List Char := List.replicate n '0'

def Scientific.render (l : Layout) (d : Scientific) : List Char :=
  let ds := Nat.toDigits 10 d.digits
  let lead : Int := ds.length - 1 + d.exponent
  if l.least ≤ lead ∧ lead ≤ l.greatest then
    if 0 ≤ d.exponent then ds ++ zeros d.exponent.toNat ++ ['.', '0']
    else if 0 ≤ lead then ds.take (lead.toNat + 1) ++ '.' :: ds.drop (lead.toNat + 1)
    else '0' :: '.' :: zeros ((-lead).toNat - 1) ++ ds
  else
    let mantissa := if ds.length = 1 then ds else ds.take 1 ++ '.' :: ds.drop 1
    mantissa ++ 'e' :: (if lead < 0 then '-' else '+') :: Nat.toDigits 10 lead.natAbs

def chars (x : Float) : List Char :=
  let bits := x.toBits
  let magnitude := bits &&& 0x7fffffffffffffff
  let sign := if bits = magnitude then [] else ['-']
  if magnitude = 0 then sign ++ ['0', '.', '0'] else sign ++ (shortest magnitude).render layout

def text (x : Float) : String := String.ofList (chars x)

end ChatBridge.Decimal
