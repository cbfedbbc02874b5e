/-! Binary floating-point numbers of 64 bits, as sign, exponent field and fraction field. -/
namespace PgJinja

structure Binary64 where
  negative : Bool
  exponent : Nat
  fraction : Nat
  deriving DecidableEq, Repr, Inhabited

namespace Binary64

def isFinite (x : Binary64) : Bool := x.exponent < 2047

def isZero (x : Binary64) : Bool := x.exponent == 0 && x.fraction == 0

def infinity (negative : Bool) : Binary64 := ⟨negative, 2047, 0⟩

def notANumber (negative : Bool) : Binary64 := ⟨negative, 2047, Nat.pow 2 51⟩

/-- A finite number is `significand * 2 ^ power` up to its sign. -/
def significand (x : Binary64) : Nat :=
  if x.exponent = 0 then x.fraction else Nat.pow 2 52 + x.fraction

def power (x : Binary64) : Int := if x.exponent = 0 then -1074 else x.exponent - 1075

def roundDiv (num den : Nat) : Nat :=
  let q := num / den
  let twice := 2 * (num % den)
  if twice < den then q else if den < twice then q + 1 else q + q % 2

/-- The greatest `k` with `2 ^ k ≤ num / den`. -/
def floorLog2 (num den : Nat) : Int :=
  let k : Int := (num.log2 : Int) - (den.log2 : Int)
  let fits := if k < 0 then den ≤ num * Nat.pow 2 (-k).toNat else den * Nat.pow 2 k.toNat ≤ num
  if fits then k else k - 1

def ofQuotient (negative : Bool) (num den : Nat) : Binary64 :=
  let p := max (floorLog2 num den - 52) (-1074)
  let m := if p < 0 then roundDiv (num * Nat.pow 2 (-p).toNat) den else roundDiv num (den * Nat.pow 2 p.toNat)
  if m < Nat.pow 2 52 then ⟨negative, 0, m⟩
  else
    let (m, p) := if m = Nat.pow 2 53 then (Nat.pow 2 52, p + 1) else (m, p)
    let e := (p + 1075).toNat
    if e < 2047 then ⟨negative, e, m - Nat.pow 2 52⟩ else infinity negative

/-- The number nearest to `digits * 10 ^ scale`. A scale far outside the range is cut short. -/
def ofDecimal (negative : Bool) (digits : Nat) (scale : Int) : Binary64 :=
  let size : Int := (Nat.toDigits 10 digits).length + scale
  if digits = 0 then ⟨negative, 0, 0⟩
  else if 400 < size then infinity negative
  else if size < -400 then ⟨negative, 0, 0⟩
  else if scale < 0 then ofQuotient negative digits (Nat.pow 10 (-scale).toNat)
  else ofQuotient negative (digits * Nat.pow 10 scale.toNat) 1

def truncate (x : Binary64) : Int :=
  let p := x.power
  let n := if p < 0 then x.significand / Nat.pow 2 (-p).toNat else x.significand * Nat.pow 2 p.toNat
  if x.negative then -(n : Int) else n

end Binary64
end PgJinja
