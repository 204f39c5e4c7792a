import MoveSkeleton.Text.Basic
import MoveSkeleton.Text.Hex

/-! Text written as bytes, and the first fault of text that cannot be. -/
namespace MoveSkeleton

namespace Text

inductive EncodingLapse where
  | surrogate
  | notAscii
  deriving DecidableEq

namespace EncodingLapse

def encoding : EncodingLapse → String
  | .surrogate => "utf-8"
  | .notAscii => "ascii"

def message : EncodingLapse → String
  | .surrogate => "surrogates not allowed"
  | .notAscii => "ordinal not in range(128)"

def covers : EncodingLapse → CodePoint → Bool
  | .surrogate, p => p.isSurrogate
  | .notAscii, p => decide (0x80 ≤ p.value)

end EncodingLapse

structure EncodingFault where
  lapse : EncodingLapse
  position : Nat
  first : CodePoint
  count : Nat
  deriving DecidableEq

namespace EncodingFault

def label : String := "UnicodeEncodeError"

def message (f : EncodingFault) : String :=
  let place :=
    if f.count = 1 then
      s!"character '{String.ofList (numberEscape f.first.value)}' in position {f.position}"
    else s!"characters in position {f.position}-{f.position + f.count - 1}"
  s!"'{f.lapse.encoding}' codec can't encode {place}: {f.lapse.message}"

/-- The first fault at or after `position`. Code points that are `spared` begin none. -/
def findFrom (lapse : EncodingLapse) (spared : CodePoint → Bool) (position : Nat) :
    List CodePoint → Option EncodingFault
  | [] => none
  | p :: rest =>
    if lapse.covers p && !spared p then
      some ⟨lapse, position, p, 1 + (rest.takeWhile lapse.covers).length⟩
    else findFrom lapse spared (position + 1) rest

def find (lapse : EncodingLapse) (t : Text) : Option EncodingFault :=
  findFrom lapse (fun _ => false) 0 t.points

end EncodingFault

def toUtf8 (t : Text) : Except EncodingFault ByteArray :=
  match EncodingFault.find .surrogate t with
  | some fault => .error fault
  | none => .ok t.shown.toUTF8

end Text

end MoveSkeleton
