import MoveSkeleton.Json.Basic
import MoveSkeleton.Number.Numeral
import MoveSkeleton.Text.Decoding

/-! The symbols of JSON text. Beside the standard words, `NaN`, `Infinity` and `-Infinity` are
doubles. -/
namespace MoveSkeleton.Json

inductive Lapse where
  | value
  | propertyName
  | colon
  | comma
  | extraData
  | unterminated
  | controlCharacter
  | escape
  | unicodeEscape
  deriving DecidableEq

def Lapse.message : Lapse → String
  | .value => "Expecting value"
  | .propertyName => "Expecting property name enclosed in double quotes"
  | .colon => "Expecting ':' delimiter"
  | .comma => "Expecting ',' delimiter"
  | .extraData => "Extra data"
  | .unterminated => "Unterminated string starting at"
  | .controlCharacter => "Invalid control character at"
  | .escape => "Invalid \\escape"
  | .unicodeEscape => "Invalid \\uXXXX escape"

inductive Container where
  | list
  | object
  deriving DecidableEq

def Container.name : Container → String
  | .list => "array"
  | .object => "object"

inductive Stop where
  | lapse (what : Lapse) (rest : List CodePoint)
  | tooLong (digits : Nat)
  | tooDeep (container : Container)

namespace Token

/-- What remains of `s` once something has been read. -/
abbrev Rest (s : List CodePoint) := { r : List CodePoint // r.length < s.length }

abbrev Step (s : List CodePoint) (α : Type) := Except Stop (α × Rest s)

def isSpace (c : CodePoint) : Bool :=
  c == ' ' || c == '\t' || c == '\n' || c == '\r'

def skip (s : List CodePoint) : List CodePoint :=
  s.dropWhile isSpace

theorem length_skip_le (s : List CodePoint) : (skip s).length ≤ s.length :=
  (List.dropWhile_suffix _).length_le

def isDigit (c : CodePoint) : Bool :=
  decide ('0'.toNat ≤ c.value ∧ c.value ≤ '9'.toNat)

def digitsValue (ds : List CodePoint) : Nat :=
  ds.foldl (fun n d => 10 * n + (d.value - '0'.toNat)) 0

abbrev Remains (s : List CodePoint) := { r : List CodePoint // r.length ≤ s.length }

def Remains.all (s : List CodePoint) : Remains s := ⟨s, Nat.le_refl _⟩

def Remains.cons (c : CodePoint) {s : List CodePoint} (r : Remains s) : Remains (c :: s) :=
  ⟨r.1, Nat.le_succ_of_le r.2⟩

def Remains.after {s : List CodePoint} (r : Remains s) (q : Remains r.1) : Remains s :=
  ⟨q.1, Nat.le_trans q.2 r.2⟩

def Remains.rest (c : CodePoint) {s : List CodePoint} (r : Remains s) : Rest (c :: s) :=
  ⟨r.1, Nat.lt_succ_of_le r.2⟩

def dropDigits (s : List CodePoint) : Remains s :=
  ⟨s.dropWhile isDigit, (List.dropWhile_suffix _).length_le⟩

/-- A point counts as the start of a fraction only if a digit follows it. -/
def fraction (s : List CodePoint) : List CodePoint × Remains s :=
  match s with
  | .char '.' :: d :: rest =>
    if isDigit d then (d :: rest.takeWhile isDigit, ((dropDigits rest).cons d).cons _)
    else ([], .all _)
  | s => ([], .all s)

def sign (s : List CodePoint) : Bool × Remains s :=
  match s with
  | [] => (false, .all [])
  | c :: rest =>
    if c = '-' then (true, (Remains.all rest).cons c)
    else if c = '+' then (false, (Remains.all rest).cons c)
    else (false, .all (c :: rest))

def exponent (s : List CodePoint) : Option Int × Remains s :=
  match s with
  | [] => (none, .all [])
  | e :: rest =>
    let (negative, body) := sign rest
    let ds := body.1.takeWhile isDigit
    if (e = 'e' ∨ e = 'E') ∧ !ds.isEmpty then
      let n : Int := digitsValue ds
      (some (if negative then -n else n), (body.after (dropDigits body.1)).cons e)
    else (none, .all (e :: rest))

def whole (s : List CodePoint) : Option (List CodePoint × Rest s) :=
  match s with
  | [] => none
  | d :: rest =>
    if d = '0' then some (['0'], (Remains.all rest).rest d)
    else if isDigit d then some (d :: rest.takeWhile isDigit, (dropDigits rest).rest d)
    else none

def unsigned (start : List CodePoint) (negative : Bool) (s : List CodePoint)
    (hs : s.length ≤ start.length) : Step start Json :=
  match whole s with
  | none => .error (.lapse .value start)
  | some (ds, ⟨r, hr⟩) =>
    match fraction r with
    | (places, ⟨r', hr'⟩) =>
      match exponent r' with
      | (power, ⟨r'', hr''⟩) =>
        let rest : Rest start := ⟨r'', by omega⟩
        if places.isEmpty && power.isNone then
          if Numeral.maxDigits < ds.length then .error (.tooLong ds.length)
          else
            let n : Int := digitsValue ds
            .ok (.int (if negative then -n else n), rest)
        else
          .ok (.float (.ofDecimal negative (digitsValue (ds ++ places))
            (power.getD 0 - places.length)), rest)

def simpleEscape? : Char → Option Char
  | '"' => some '"'
  | '\\' => some '\\'
  | '/' => some '/'
  | 'b' => some '\x08'
  | 'f' => some '\x0c'
  | 'n' => some '\n'
  | 'r' => some '\r'
  | 't' => some '\t'
  | _ => none

/-- A string is read as code points and as the 16-bit units that numeric escapes write. -/
inductive Piece where
  | point (p : CodePoint)
  | unit (u : Nat)

def joinPieces : List Piece → List CodePoint
  | [] => []
  | .point p :: rest => p :: joinPieces rest
  | [.unit u] => [.ofNat u]
  | .unit u :: .point p :: rest => .ofNat u :: p :: joinPieces rest
  | .unit u :: .unit v :: rest =>
    if Text.isHighSurrogate u && Text.isLowSurrogate v then
      .ofNat (Text.joinSurrogates u v) :: joinPieces rest
    else .ofNat u :: joinPieces (.unit v :: rest)

/-- The rest of a string whose opening quote stands at the head of `opening`. The pieces read so
far are in `done`, newest first. -/
def string (opening : List CodePoint) (done : List Piece) :
    (s : List CodePoint) → s.length < opening.length → Step opening Text
  | [], _ => .error (.lapse .unterminated opening)
  | .char '"' :: rest, h =>
    .ok (⟨joinPieces done.reverse⟩, ⟨rest, by simp at h; omega⟩)
  | .char '\\' :: [], _ => .error (.lapse .unterminated opening)
  | .char '\\' :: .char 'u' :: a :: b :: c :: d :: rest, h =>
    match Text.hexValue? ([a, b, c, d].map CodePoint.shown) with
    | some u =>
      if rest.isEmpty then .error (.lapse .unicodeEscape ('u' :: a :: b :: c :: d :: rest))
      else string opening (.unit u :: done) rest (by simp at h; omega)
    | none => .error (.lapse .unicodeEscape ('u' :: a :: b :: c :: d :: rest))
  | .char '\\' :: .char 'u' :: rest, _ => .error (.lapse .unicodeEscape ('u' :: rest))
  | .char '\\' :: p :: rest, h =>
    match simpleEscape? p.shown with
    | some c => string opening (.point c :: done) rest (by simp at h; omega)
    | none => .error (.lapse .escape ('\\' :: p :: rest))
  | p :: rest, h =>
    if p.value < 0x20 then .error (.lapse .controlCharacter (p :: rest))
    else string opening (.point p :: done) rest (by simp at h; omega)

def after? : (w s : List CodePoint) → Option (Remains s)
  | [], s => some (.all s)
  | _ :: _, [] => none
  | c :: w, d :: s => if c = d then (after? w s).map (·.cons d) else none

def words : List (Char × Text × Json) :=
  [('n', "ull", .null), ('t', "rue", .bool true), ('f', "alse", .bool false),
    ('N', "aN", .float .nan), ('I', "nfinity", .float (.infinite false)),
    ('-', "Infinity", .float (.infinite true))]

def word? (c : CodePoint) (rest : List CodePoint) : Option (Json × Remains rest) :=
  words.findSome? fun (d, w, v) => if c = d then (after? w.points rest).map (v, ·) else none

end Token

/-- What a text is made of, apart from its blanks. Text that breaks off, or begins no symbol,
is a symbol too, since it matters only once a text or a value is called for. -/
inductive Symbol where
  | openList
  | closeList
  | openObject
  | closeObject
  | colon
  | comma
  | text (t : Text)
  | value (v : Json)
  | brokenText (stop : Stop)
  | brokenValue (stop : Stop)

structure Token where
  symbol : Symbol
  start : List CodePoint

namespace Token

def symbol? (c : CodePoint) (rest : List CodePoint) : Step (c :: rest) Symbol :=
  let single := fun (x : Symbol) =>
    (.ok (x, (Remains.all rest).rest c) : Step (c :: rest) Symbol)
  if c = '[' then single .openList
  else if c = ']' then single .closeList
  else if c = '\x7b' then single .openObject
  else if c = '\x7d' then single .closeObject
  else if c = ':' then single .colon
  else if c = ',' then single .comma
  else if c = '"' then (string (c :: rest) [] rest (by simp)).map fun (t, r) => (.text t, r)
  else
    match word? c rest with
    | some (v, r) => .ok (.value v, r.rest c)
    | none =>
      let number := if c = '-' then unsigned (c :: rest) true rest (by simp)
        else unsigned (c :: rest) false (c :: rest) (Nat.le_refl _)
      number.map fun (v, r) => (.value v, r)

def ofPoints (s : List CodePoint) : List Token :=
  match _hs : skip s with
  | [] => []
  | c :: rest =>
    match symbol? c rest with
    | .ok (x, r) => ⟨x, c :: rest⟩ :: ofPoints r.1
    | .error stop => [⟨if c = '"' then .brokenText stop else .brokenValue stop, c :: rest⟩]
termination_by s.length
decreasing_by
  have h := length_skip_le s
  rw [_hs] at h
  exact Nat.lt_of_lt_of_le r.2 h

end Token

end MoveSkeleton.Json
