import MoveSkeleton.Json.Reader

/-! JSON values read from bytes. -/
namespace MoveSkeleton.Json

/-- A text in UTF-16 or UTF-32 is recognised by its mark or, without one, by the zero bytes that
an ASCII character first in the text leaves. All else is UTF-8. -/
def encodingOf (bytes : List UInt8) : Text.Encoding :=
  match bytes with
  | 0x00 :: 0x00 :: 0xfe :: 0xff :: _ => .utf32 true
  | 0xff :: 0xfe :: 0x00 :: 0x00 :: _ => .utf32 false
  | 0xfe :: 0xff :: _ => .utf16 true
  | 0xff :: 0xfe :: _ => .utf16 false
  | 0xef :: 0xbb :: 0xbf :: _ => .utf8
  | a :: b :: c :: d :: _ =>
    if a = 0 then if b = 0 then .utf32 true else .utf16 true
    else if b = 0 then if c = 0 ∧ d = 0 then .utf32 false else .utf16 false
    else .utf8
  | [a, b] => if a = 0 then .utf16 true else if b = 0 then .utf16 false else .utf8
  | _ => .utf8

def markOf : Text.Encoding → List UInt8
  | .utf8 => [0xef, 0xbb, 0xbf]
  | .utf16 bigEndian => if bigEndian then [0xfe, 0xff] else [0xff, 0xfe]
  | .utf32 bigEndian => if bigEndian then [0x00, 0x00, 0xfe, 0xff] else [0xff, 0xfe, 0x00, 0x00]

/-- A text without its mark. A fault in UTF-8 is placed from after the mark on,
one in a wider encoding from the first byte of all. -/
def textOfBytes (bytes : ByteArray) : Except Text.DecodingFault Text :=
  let all := bytes.toList
  let encoding := encodingOf all
  let mark := markOf encoding
  let marked := mark.isPrefixOf all
  let body := if marked then all.drop mark.length else all
  let position := if marked then mark.length else 0
  Text.mk <$> match encoding with
  | .utf8 => Text.Utf8.decodePoints body
  | .utf16 bigEndian => Text.Utf16.decode bigEndian position body
  | .utf32 bigEndian => Text.Utf32.decode bigEndian position body

inductive BytesFault where
  | undecodable (fault : Text.DecodingFault)
  | unreadable (fault : ReadFault)
  deriving DecidableEq

def decode (bytes : ByteArray) : Except BytesFault Json :=
  match textOfBytes bytes with
  | .error fault => .error (.undecodable fault)
  | .ok t =>
    match read t with
    | .error fault => .error (.unreadable fault)
    | .ok v => .ok v

end MoveSkeleton.Json
