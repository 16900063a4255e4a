/-! # Shortest decimals

The decimal with the fewest digits that rounds to a given binary number, in exact arithmetic: for
one digit, two digits and so on the neighbours of the number on that decimal grid are tried, and
the first grid with a neighbour among the reals that round to the number decides.
-/

namespace MessageCatalog

/-- A decimal `0.d₁d₂d₃… · 10 ^ exponent`, written as the number that its digits spell. -/
structure Decimal where
  digits : Nat
  count : Nat
  exponent : Int
  deriving Repr, DecidableEq

namespace Decimal

def digitCount (n : Nat) : Nat := (Nat.toDigits 10 n).length

/-- The least `k` with `den ≤ num * 10 ^ k`, searched upwards. -/
def scaleUp (num den : Nat) : Nat → Nat → Nat
  | 0, k => k
  | fuel + 1, k => if den ≤ num * Nat.pow 10 k then k else scaleUp num den fuel (k + 1)

/-- The exponent of ten of the leading digit of a positive quotient. -/
def leadingExponent (num den : Nat) : Int :=
  if den ≤ num then (digitCount (num / den) : Int) - 1 else -(scaleUp num den 400 1 : Int)

structure Fraction where
  num : Nat
  den : Nat
  deriving Repr, DecidableEq

/-- `d · 10 ^ g` as a fraction. -/
def gridPoint (d : Nat) (g : Int) : Fraction :=
  if 0 ≤ g then ⟨d * Nat.pow 10 g.toNat, 1⟩ else ⟨d, Nat.pow 10 (-g).toNat⟩

def Fraction.le (a b : Fraction) : Bool := a.num * b.den ≤ b.num * a.den

def Fraction.lt (a b : Fraction) : Bool := a.num * b.den < b.num * a.den

/-- The reals that round to a number, as an interval with both ends or with none. -/
structure Interval where
  low : Fraction
  high : Fraction
  closed : Bool
  deriving Repr, DecidableEq

def Interval.has (i : Interval) (x : Fraction) : Bool :=
  if i.closed then i.low.le x && x.le i.high else i.low.lt x && x.lt i.high

/-- The neighbours of `value` on the grid of `count` digits, if one of them lies in the interval;
of two the nearer one, and on a tie the even one. -/
def onGrid? (value : Fraction) (i : Interval) (e : Int) (count : Nat) : Option Nat :=
  let g : Int := e - count + 1
  let down :=
    if 0 ≤ g then value.num / (value.den * Nat.pow 10 g.toNat)
    else value.num * Nat.pow 10 (-g).toNat / value.den
  let lower := gridPoint down g
  let upper := gridPoint (down + 1) g
  match i.has lower && 0 < down, i.has upper with
  | true, true =>
    let toLower := (value.num * lower.den - lower.num * value.den) * upper.den
    let toUpper := (upper.num * value.den - value.num * upper.den) * lower.den
    if toLower < toUpper then some down
    else if toUpper < toLower then some (down + 1)
    else if down % 2 = 0 then some down
    else some (down + 1)
  | true, false => some down
  | false, true => some (down + 1)
  | false, false => none

/-- Try the grids of `count`, `count + 1`, … digits. -/
def search (value : Fraction) (i : Interval) (e : Int) : Nat → Nat → Decimal
  | 0, count => ⟨0, count, e⟩
  | fuel + 1, count =>
    match onGrid? value i e count with
    | some d => ⟨d, count, e + 1⟩
    | none => search value i e fuel (count + 1)

def dropZeros : Nat → Decimal → Decimal
  | 0, d => d
  | fuel + 1, d =>
    if 1 < d.count ∧ d.digits % 10 = 0 then dropZeros fuel ⟨d.digits / 10, d.count - 1, d.exponent⟩
    else d

/-- A carry that gave one digit more moves the point. -/
def fixCarry (d : Decimal) : Decimal :=
  if d.count < digitCount d.digits then ⟨d.digits / 10, d.count, d.exponent + 1⟩ else d

/-- The shortest decimal of a positive binary number of 64 bits, given by its bits. -/
def ofBits (bits : Nat) : Decimal :=
  let biased : Nat := bits / Nat.pow 2 52 % 2048
  let fraction : Nat := bits % Nat.pow 2 52
  let m : Nat := if biased = 0 then fraction else fraction + Nat.pow 2 52
  let q : Int := if biased = 0 then -1074 else Int.ofNat biased - 1075
  let scaled (k : Nat) : Fraction :=
    if 0 ≤ q - 2 then ⟨k * Nat.pow 2 (q - 2).toNat, 1⟩ else ⟨k, Nat.pow 2 (2 - q).toNat⟩
  let value := scaled (4 * m)
  let below : Nat := if fraction = 0 ∧ 1 < biased then 1 else 2
  let interval : Interval := ⟨scaled (4 * m - below), scaled (4 * m + 2), m % 2 == 0⟩
  let e := leadingExponent value.num value.den
  dropZeros 20 (fixCarry (search value interval e 17 1))

def text (d : Decimal) : List Char := Nat.toDigits 10 d.digits

end Decimal

end MessageCatalog
