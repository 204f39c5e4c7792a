import MoveSkeleton.Text.Basic
import MoveSkeleton.Text.Hex

/-! Text read from bytes, and the first fault of bytes that are no text. -/
namespace MoveSkeleton.Text

inductive Encoding where
  | utf8
  | utf16 (bigEndian : Bool)
  | utf32 (bigEndian : Bool)
  deriving DecidableEq

def Encoding.name : Encoding → String
  | .utf8 => "utf-8"
  | .utf16 bigEndian => if bigEndian then "utf-16-be" else "utf-16-le"
  | .utf32 bigEndian => if bigEndian then "utf-32-be" else "utf-32-le"

inductive DecodingLapse where
  | badStart
  | badContinuation
  | endOfData
  | truncated
  | outOfRange
  deriving DecidableEq

def DecodingLapse.message : DecodingLapse → String
  | .badStart => "invalid start byte"
  | .badContinuation => "invalid continuation byte"
  | .endOfData => "unexpected end of data"
  | .truncated => "truncated data"
  | .outOfRange => "code point not in range(0x110000)"

structure DecodingFault where
  encoding : Encoding
  position : Nat
  first : UInt8
  count : Nat
  lapse : DecodingLapse
  deriving DecidableEq

def DecodingFault.message (f : DecodingFault) : String :=
  let place :=
    if f.count = 1 then s!"byte 0x{byteDigits f.first} in position {f.position}"
    else s!"bytes in position {f.position}-{f.position + f.count - 1}"
  s!"'{f.encoding.name}' codec can't decode {place}: {f.lapse.message}"

namespace Utf8

def announced (lead : UInt8) : Option Nat :=
  if lead < 0x80 then some 0
  else if 0xc2 ≤ lead ∧ lead < 0xe0 then some 1
  else if 0xe0 ≤ lead ∧ lead < 0xf0 then some 2
  else if 0xf0 ≤ lead ∧ lead < 0xf5 then some 3
  else none

def isContinuation (b : UInt8) : Bool :=
  decide (0x80 ≤ b ∧ b < 0xc0)

/-- The byte after a leading one is narrower: no overlong form, no surrogate, nothing beyond
U+10FFFF. -/
def mayFollow (lead b : UInt8) : Bool :=
  isContinuation b &&
    if lead = 0xe0 then decide (0xa0 ≤ b)
    else if lead = 0xed then decide (b < 0xa0)
    else if lead = 0xf0 then decide (0x90 ≤ b)
    else if lead = 0xf4 then decide (b < 0x90)
    else true

def continued (lead : UInt8) (next : List UInt8) : Nat :=
  match next with
  | [] => 0
  | b :: more => if mayFollow lead b then 1 + (more.takeWhile isContinuation).length else 0

def faultFrom (position skip : Nat) : List UInt8 → Option DecodingFault
  | [] => none
  | lead :: rest =>
    match skip with
    | skip + 1 => faultFrom (position + 1) skip rest
    | 0 =>
      match announced lead with
      | none => some ⟨.utf8, position, lead, 1, .badStart⟩
      | some n =>
        let next := rest.take n
        let good := continued lead next
        if good = n then faultFrom (position + 1) n rest
        else
          some ⟨.utf8, position, lead, good + 1,
            if good = next.length then .endOfData else .badContinuation⟩

def decode (bytes : ByteArray) : Except DecodingFault String :=
  match String.fromUTF8? bytes with
  | some s => .ok s
  | none => .error ((faultFrom 0 0 bytes.toList).getD ⟨.utf8, 0, 0, 1, .badStart⟩)

theorem decode_toUTF8 (s : String) : decode s.toUTF8 = .ok s := by
  have h : String.fromUTF8? s.toUTF8 = some s := dif_pos s.isValidUTF8
  rw [decode, h]

theorem decode_eq_ok_iff {bytes : ByteArray} {s : String} :
    decode bytes = .ok s ↔ bytes = s.toUTF8 := by
  constructor
  · intro h
    unfold decode String.fromUTF8? at h
    split at h
    · next hs =>
      obtain rfl := Except.ok.inj h
      split at hs
      · exact congrArg String.toUTF8 (Option.some.inj hs)
      · cases hs
    · cases h
  · rintro rfl
    exact decode_toUTF8 s

/-- Bytes with the replacement character in place of each fault. The next `keep` bytes belong to a
character, and after them the next `drop` bytes to a fault. -/
def mend (keep drop : Nat) : List UInt8 → List UInt8
  | [] => []
  | lead :: rest =>
    match keep, drop with
    | keep + 1, _ => lead :: mend keep drop rest
    | 0, drop + 1 => mend 0 drop rest
    | 0, 0 =>
      match announced lead with
      | none => 0xef :: 0xbf :: 0xbd :: mend 0 0 rest
      | some n =>
        let good := continued lead (rest.take n)
        if good = n then lead :: mend n 0 rest else 0xef :: 0xbf :: 0xbd :: mend 0 good rest

def replaceSurrogates : List UInt8 → List UInt8
  | 0xed :: b :: c :: rest =>
    if 0xa0 ≤ b ∧ b < 0xc0 ∧ isContinuation c then 0xef :: 0xbf :: 0xbd :: replaceSurrogates rest
    else 0xed :: replaceSurrogates (b :: c :: rest)
  | b :: rest => b :: replaceSurrogates rest
  | [] => []

/-- The code points of bytes without a fault. Of the code point at hand `missing` bytes are still
to come, and those before them have written `value`. -/
def pointsFrom (missing value : Nat) : List UInt8 → List CodePoint
  | [] => []
  | b :: rest =>
    match missing with
    | 0 =>
      if b < 0x80 then .ofNat b.toNat :: pointsFrom 0 0 rest
      else if b < 0xe0 then pointsFrom 1 (b.toNat - 0xc0) rest
      else if b < 0xf0 then pointsFrom 2 (b.toNat - 0xe0) rest
      else pointsFrom 3 (b.toNat - 0xf0) rest
    | 1 => .ofNat (value * 64 + (b.toNat - 0x80)) :: pointsFrom 0 0 rest
    | missing + 2 => pointsFrom (missing + 1) (value * 64 + (b.toNat - 0x80)) rest

def decodePoints (bytes : List UInt8) : Except DecodingFault (List CodePoint) :=
  match faultFrom 0 0 (replaceSurrogates bytes) with
  | some fault => .error fault
  | none => .ok (pointsFrom 0 0 bytes)

end Utf8

def isHighSurrogate (n : Nat) : Bool := decide (0xd800 ≤ n ∧ n < 0xdc00)

def isLowSurrogate (n : Nat) : Bool := decide (0xdc00 ≤ n ∧ n < 0xe000)

def joinSurrogates (high low : Nat) : Nat :=
  0x10000 + (high - 0xd800) * 0x400 + (low - 0xdc00)

namespace Utf16

def points : List Nat → List CodePoint
  | [] => []
  | [u] => [.ofNat u]
  | u :: v :: rest =>
    if isHighSurrogate u && isLowSurrogate v then .ofNat (joinSurrogates u v) :: points rest
    else .ofNat u :: points (v :: rest)

def units (bigEndian : Bool) (position : Nat) : List UInt8 → Except DecodingFault (List Nat)
  | [] => .ok []
  | [a] => .error ⟨.utf16 bigEndian, position, a, 1, .truncated⟩
  | a :: b :: rest => do
    let u := if bigEndian then a.toNat * 256 + b.toNat else b.toNat * 256 + a.toNat
    return u :: (← units bigEndian (position + 2) rest)

def decode (bigEndian : Bool) (position : Nat) (bytes : List UInt8) :
    Except DecodingFault (List CodePoint) :=
  (units bigEndian position bytes).map points

end Utf16

namespace Utf32

def decode (bigEndian : Bool) (position : Nat) : List UInt8 → Except DecodingFault (List CodePoint)
  | [] => .ok []
  | a :: b :: c :: d :: rest => do
    let word := fun (w x y z : UInt8) =>
      ((w.toNat * 256 + x.toNat) * 256 + y.toNat) * 256 + z.toNat
    let n := if bigEndian then word a b c d else word d c b a
    if 0x110000 ≤ n then .error ⟨.utf32 bigEndian, position, a, 4, .outOfRange⟩
    else return .ofNat n :: (← decode bigEndian (position + 4) rest)
  | a :: rest => .error ⟨.utf32 bigEndian, position, a, 1 + rest.length, .truncated⟩

end Utf32

end MoveSkeleton.Text
