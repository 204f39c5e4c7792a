/-! Double-precision numbers as exact data, and the nearest one to a decimal fraction. -/
namespace MoveSkeleton

/-- A finite double has the magnitude `significand * 2 ^ exponent`, where the significand is below
`2 ^ 53`, and at least `2 ^ 52` unless the exponent is the least one. -/
inductive Double where
  | finite (negative : Bool) (significand : Nat) (exponent : Int)
  | infinite (negative : Bool)
  | nan
  deriving DecidableEq, Inhabited

namespace Double

def leastExponent : Int := -1074
def greatestExponent : Int := 971

def zero (negative : Bool) : Double := .finite negative 0 leastExponent

def isZero : Double → Bool
  | .finite _ m _ => m == 0
  | _ => false

/-- `num / den` to the nearest whole number, a tie going to the even one. -/
def roundEven (num den : Nat) : Nat :=
  let q := num / den
  let r := num % den
  if 2 * r < den then q
  else if den < 2 * r then q + 1
  else q + q % 2

def scaled (num den : Nat) (e : Int) : Nat × Nat :=
  if 0 ≤ e then (num, den * Nat.pow 2 e.toNat) else (num * Nat.pow 2 (-e).toNat, den)

def floorLog2 (num den : Nat) : Int :=
  let e : Int := (num.log2 : Int) - (den.log2 : Int)
  let s := scaled num den e
  if s.2 ≤ s.1 then e else e - 1

def nearest (negative : Bool) (num den : Nat) : Double :=
  if num = 0 then zero negative
  else
    let e := max (floorLog2 num den - 52) leastExponent
    let s := scaled num den e
    let m := roundEven s.1 s.2
    let (m, e) := if m = Nat.pow 2 53 then (Nat.pow 2 52, e + 1) else (m, e)
    if greatestExponent < e then .infinite negative else .finite negative m e

/-- The double nearest to `digits * 10 ^ power`. A magnitude of at least `10 ^ 400` is beyond the
doubles, and one below `10 ^ (-400)` rounds to zero, so no greater power is ever formed. -/
def ofDecimal (negative : Bool) (digits : Nat) (power : Int) : Double :=
  if digits = 0 then zero negative
  else if 400 < power then .infinite negative
  else if power + (digits.log2 + 1 + 400 : Nat) < 0 then zero negative
  else if 0 ≤ power then nearest negative (digits * Nat.pow 10 power.toNat) 1
  else nearest negative digits (Nat.pow 10 (-power).toNat)

def truncate (negative : Bool) (significand : Nat) (exponent : Int) : Int :=
  let magnitude : Nat :=
    if 0 ≤ exponent then significand * Nat.pow 2 exponent.toNat
    else significand / Nat.pow 2 (-exponent).toNat
  if negative then -magnitude else magnitude

end Double

end MoveSkeleton
