import PgJinja.Number.Binary64

/-! The shortest decimal that reads back as a given binary number. -/
namespace PgJinja

/-- A positive decimal `0.digits * 10 ^ point`; the first digit is not zero. -/
structure Decimal where
  digits : List Char
  point : Int
  deriving DecidableEq, Repr

namespace Binary64

def digitCount (n : Nat) : Nat := (Nat.toDigits 10 n).length

/-- The `k` with `10 ^ (k - 1) ≤ num / den < 10 ^ k`. -/
def decimalPoint (num den : Nat) : Int :=
  if den ≤ num then digitCount (num / den)
  else
    let ceil := (den + num - 1) / num
    1 - (digitCount (ceil - 1) : Int)

/-- The reals that round to a number: its value and both ends, as multiples of `1 / den`. -/
structure Interval where
  low : Nat
  value : Nat
  high : Nat
  den : Nat
  closed : Bool

/-- The gap below a power of two is half of the gap above it. -/
def interval (x : Binary64) : Interval :=
  let m := x.significand
  let p := x.power
  let low := if x.fraction = 0 ∧ 1 < x.exponent then 4 * m - 1 else 4 * m - 2
  let closed := m % 2 == 0
  if p < 2 then ⟨low, 4 * m, 4 * m + 2, Nat.pow 2 (2 - p).toNat, closed⟩
  else
    let f := Nat.pow 2 (p - 2).toNat
    ⟨low * f, 4 * m * f, (4 * m + 2) * f, 1, closed⟩

def Interval.holds (i : Interval) (num den : Nat) : Bool :=
  let v := num * i.den
  let low := i.low * den
  let high := i.high * den
  if i.closed then low ≤ v && v ≤ high else low < v && v < high

def Interval.candidate (i : Interval) (scale : Int) : Option Nat :=
  let num := if scale < 0 then i.value * Nat.pow 10 (-scale).toNat else i.value
  let den := if scale < 0 then i.den else i.den * Nat.pow 10 scale.toNat
  let below := num / den
  let inside (n : Nat) : Bool :=
    if scale < 0 then i.holds n (Nat.pow 10 (-scale).toNat) else i.holds (n * Nat.pow 10 scale.toNat) 1
  match inside below, inside (below + 1) with
  | true, true => some (roundDiv num den)
  | true, false => some below
  | false, true => some (below + 1)
  | false, false => none

def Interval.shortest (i : Interval) (point : Int) : Nat → Nat → Nat × Int
  | 0, count => ((i.candidate (point - count)).getD 0, point - count)
  | fuel + 1, count =>
    match i.candidate (point - count) with
    | some n => if n = 0 then Interval.shortest i point fuel (count + 1) else (n, point - count)
    | none => Interval.shortest i point fuel (count + 1)

def shortest (x : Binary64) : Decimal :=
  let i := x.interval
  let (n, scale) := i.shortest (decimalPoint i.value i.den) 17 1
  let ds := Nat.toDigits 10 n
  let trimmed := (ds.reverse.dropWhile (· == '0')).reverse
  ⟨trimmed, ds.length + scale⟩

end Binary64
end PgJinja
