import MoveSkeleton.Text.Basic
import MoveSkeleton.Text.Hex

/-! Bytes written as a percent sign and two hexadecimal digits. -/
namespace MoveSkeleton.Text

def percentByte (b : UInt8) : List Char :=
  '%' :: (hexDigits 2 b.toNat).map Char.toUpper

/-- Safe characters stand for themselves. Others are written byte by byte, with digits in
capitals. -/
def percentEncoded (isSafe : Char → Bool) (ps : List CodePoint) : List Char :=
  ps.flatMap fun p =>
    if isSafe p.shown then [p.shown] else (String.utf8EncodeChar p.shown).flatMap percentByte

def percentDecoded : List CodePoint → List UInt8
  | .char '%' :: a :: b :: rest =>
    match hexValue? [a.shown, b.shown] with
    | some n => n.toUInt8 :: percentDecoded rest
    | none => 0x25 :: percentDecoded (a :: b :: rest)
  | p :: rest => String.utf8EncodeChar p.shown ++ percentDecoded rest
  | [] => []

end MoveSkeleton.Text
