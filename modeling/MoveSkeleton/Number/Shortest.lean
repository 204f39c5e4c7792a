import MoveSkeleton.Number.Double

/-! The shortest decimal that reads back as a given double, and how it is laid out. -/
namespace MoveSkeleton.Double

/-- The decimals `c * 10 ^ e` that read back as one double are those from `low` to `high` over
`den`, the ends included or not; `value` over `den` is the double itself. -/
structure Interval where
  low : Nat
  value : Nat
  high : Nat
  den : Nat
  closed : Bool

/-- Half a unit of the last place lies on either side, and a quarter below the first number of a
binade. The ends round to the double itself exactly when its significand is even. -/
def interval (m : Nat) (e : Int) : Interval :=
  let below := if m = Nat.pow 2 52 ∧ leastExponent < e then 1 else 2
  let (unit, den) : Nat × Nat :=
    if 2 ≤ e then (Nat.pow 2 (e - 2).toNat, 1) else (1, Nat.pow 2 (2 - e).toNat)
  { low := (4 * m - below) * unit
    value := 4 * m * unit
    high := (4 * m + 2) * unit
    den
    closed := m % 2 == 0 }

def Interval.holds (i : Interval) (e : Int) (c : Nat) : Bool :=
  let (point, scale) : Nat × Nat :=
    if 0 ≤ e then (c * Nat.pow 10 e.toNat * i.den, 1) else (c * i.den, Nat.pow 10 (-e).toNat)
  if i.closed then i.low * scale ≤ point && point ≤ i.high * scale
  else i.low * scale < point && point < i.high * scale

def Interval.multiple? (i : Interval) (e : Int) : Option Nat :=
  let (num, den) : Nat × Nat :=
    if 0 ≤ e then (i.value, i.den * Nat.pow 10 e.toNat)
    else (i.value * Nat.pow 10 (-e).toNat, i.den)
  let c := num / den
  let near := roundEven num den
  let far := if near = c then c + 1 else c
  if i.holds e near then some near
  else if i.holds e far then some far
  else none

/-- The shortest decimal is the one on the coarsest decimal grid that meets the interval. The
grid of `10 ^ (-324)` is finer than any two neighbouring doubles. -/
def shortest (m : Nat) (e : Int) : Nat × Int :=
  let i := interval m e
  ((List.range 634).findSome? fun (k : Nat) =>
    let power : Int := 309 - k
    (i.multiple? power).map (·, power)).getD (0, 0)

/-- The decimal point of a number with digits `ds` stands after `point` of them. From `0.0001` to
below `10 ^ 16` all places are written out, with at least one on either side of the point;
otherwise one digit, the fraction, and an exponent of at least two digits. -/
def layout (ds : List Char) (point : Int) : List Char :=
  if -4 < point ∧ point ≤ 16 then
    if point ≤ 0 then '0' :: '.' :: List.replicate (-point).toNat '0' ++ ds
    else
      let whole := ds.take point.toNat
      let fraction := ds.drop point.toNat
      whole ++ List.replicate (point.toNat - whole.length) '0' ++ '.' ::
        (if fraction.isEmpty then ['0'] else fraction)
  else
    let power := point - 1
    let mantissa := match ds with
      | d :: rest@(_ :: _) => d :: '.' :: rest
      | short => short
    let powerDigits := Nat.toDigits 10 power.natAbs
    mantissa ++ 'e' :: (if power < 0 then '-' else '+') ::
      (List.replicate (2 - powerDigits.length) '0' ++ powerDigits)

def text : Double → String
  | .nan => "nan"
  | .infinite negative => if negative then "-inf" else "inf"
  | .finite negative m e =>
    let magnitude :=
      if m = 0 then ['0', '.', '0']
      else
        let (c, power) := shortest m e
        let ds := Nat.toDigits 10 c
        layout ds (ds.length + power)
    String.ofList (if negative then '-' :: magnitude else magnitude)

end MoveSkeleton.Double
