import MoveSkeleton.Text.Basic

/-! Text written in letters, digits and hyphens. Code points beyond ASCII are left out, and numbers
after the last hyphen tell in which order and at which places they are put back. -/
namespace MoveSkeleton.Text.Punycode

def base : Nat := 36

def digitChar (d : Nat) : Char :=
  if d < 26 then Char.ofNat ('a'.toNat + d) else Char.ofNat ('0'.toNat + (d - 26))

def digit? (c : Char) : Option Nat :=
  if c.isAlpha then some (c.toLower.toNat - 'a'.toNat)
  else if c.isDigit then some (26 + (c.toNat - '0'.toNat))
  else none

/-- A digit below this ends its number. -/
def threshold (bias position : Nat) : Nat :=
  min 26 (max 1 (base * (position + 1) - bias))

theorem threshold_pos (bias position : Nat) : 0 < threshold bias position :=
  Nat.lt_min.2 ⟨by decide, Nat.lt_of_lt_of_le (by decide) (Nat.le_max_left _ _)⟩

def scale (delta : Nat) : Nat × Nat :=
  if 455 < delta then
    let (n, rest) := scale (delta / 35)
    (n + base, rest)
  else (0, delta)
termination_by delta
decreasing_by exact Nat.div_lt_self (by omega) (by decide)

def initialBias : Nat := 72

def adapt (delta : Nat) (isFirst : Bool) (count : Nat) : Nat :=
  let halved := if isFirst then delta / 700 else delta / 2
  let (n, rest) := scale (halved + halved / count)
  n + base * rest / (rest + 38)

def number (bias position n : Nat) : List Char :=
  let t := threshold bias position
  if n < t then [digitChar n]
  else digitChar (t + (n - t) % (base - t)) :: number bias (position + 1) ((n - t) / (base - t))
termination_by n
decreasing_by
  have := threshold_pos bias position
  exact Nat.lt_of_le_of_lt (Nat.div_le_self _ _) (by omega)

/-- Code points that are put in so far: the value of the last of them, the place after it, how many
there are, and the numbers that tell where they go. -/
structure Encoder where
  value : Nat
  place : Nat
  count : Nat
  bias : Nat
  digits : List Char

def Encoder.add (ps : List CodePoint) (e : Encoder) (next : CodePoint × Nat) : Encoder :=
  let value := next.1.value
  let place := ((ps.take next.2).filter fun p => decide (p.value ≤ value)).length
  let delta := (value - e.value) * (e.count + 1) + place - e.place
  { value
    place := place + 1
    count := e.count + 1
    bias := adapt delta e.digits.isEmpty (e.count + 1)
    digits := e.digits ++ number e.bias 0 delta }

def isAscii (p : CodePoint) : Bool := decide (p.value < 0x80)

def encode (ps : List CodePoint) : List Char :=
  let kept := (ps.filter isAscii).map CodePoint.shown
  let others := (ps.zipIdx.filter fun (p, _) => !isAscii p).mergeSort fun p q =>
    decide (p.1.value ≤ q.1.value)
  let e := others.foldl (Encoder.add ps) ⟨0x80, 0, kept.length, initialBias, []⟩
  (if kept.isEmpty then [] else kept ++ ['-']) ++ e.digits

structure Decoder where
  points : List CodePoint
  value : Nat
  place : Nat
  bias : Nat
  isFirst : Bool
  position : Nat
  weight : Nat
  sum : Nat

def Decoder.add (d : Decoder) (c : Char) : Option Decoder := do
  let digit ← digit? c
  let sum := d.sum + digit * d.weight
  let t := threshold d.bias d.position
  if t ≤ digit then
    return { d with sum, position := d.position + 1, weight := d.weight * (base - t) }
  let count := d.points.length + 1
  let value := d.value + (d.place + sum) / count
  let place := (d.place + sum) % count
  if 0x110000 ≤ value then failure
  return {
    points := d.points.take place ++ .ofNat value :: d.points.drop place
    value
    place := place + 1
    bias := adapt sum d.isFirst count
    isFirst := false
    position := 0
    weight := 1
    sum := 0 }

def decode (cs : List Char) : Option (List CodePoint) := do
  let digits := (cs.reverse.takeWhile (· != '-')).reverse
  let kept := cs.take (cs.length - digits.length - 1)
  let d ← digits.foldlM Decoder.add
    ⟨kept.map .char, 0x80, 0, initialBias, true, 0, 1, 0⟩
  if d.position = 0 then some d.points else none

end MoveSkeleton.Text.Punycode
