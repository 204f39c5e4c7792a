import MoveSkeleton.Node.Host
import MoveSkeleton.Node.HostName
import MoveSkeleton.Text.Base64
import MoveSkeleton.Text.Bytes
import MoveSkeleton.Text.Decoding
import MoveSkeleton.Text.Percent
import MoveSkeleton.Text.Quoted

/-! Web addresses: their parts, what makes one invalid, and the credentials that one may hold. -/
namespace MoveSkeleton.Address

inductive Fault where
  | tooLong
  | controlCharacter (c : Char) (position : Nat)
  | badOctets (host : Text)
  | badGroups (host : Text)
  | badName (host : Text)
  | badPort (port : Text)
  | badPath (start : String)
  | unencodable (fault : Text.EncodingFault)
  | badLabel (fault : Label.Fault)
  /-- An address without a scheme or without a host is only a path. -/
  | relative (path : String)
  deriving DecidableEq

namespace Fault

def label : Fault → String
  | .unencodable _ => Text.EncodingFault.label
  | .badLabel fault => fault.label
  | .relative _ => "ValueError"
  | _ => "InvalidURL"

def message : Fault → String
  | .tooLong => "URL too long"
  | .controlCharacter c position =>
    s!"Invalid non-printable ASCII character in URL, {Text.quoted ⟨[c]⟩} at position {position}."
  | .badOctets host => s!"Invalid IPv4 address: {Text.quoted host}"
  | .badGroups host => s!"Invalid IPv6 address: {Text.quoted host}"
  | .badName host => s!"Invalid IDNA hostname: {Text.quoted host}"
  | .badPort port => s!"Invalid port: {Text.quoted port}"
  | .badPath start => s!"Relative URLs cannot have a path starting with {Text.quoted start}"
  | .unencodable fault => fault.message
  | .badLabel fault => fault.message
  | .relative path => s!"unknown url type: {Text.quoted path}"

end Fault

def maxLength : Nat := 65536

def isControl (p : CodePoint) : Bool :=
  decide (p.value < 0x20 ∨ p.value = 0x7f)

structure Parts where
  scheme : List CodePoint
  user : List CodePoint
  host : List CodePoint
  port : List CodePoint
  path : List CodePoint
  query : Option (List CodePoint)
  fragment : List CodePoint

def isSchemePoint (p : CodePoint) : Bool :=
  p.shown.isAlphanum || p == '+' || p == '-' || p == '.'

def splitScheme (url : List CodePoint) : List CodePoint × List CodePoint :=
  let scheme := url.takeWhile isSchemePoint
  match url.drop scheme.length with
  | .char ':' :: rest => if scheme.head?.all (·.shown.isAlpha) then (scheme, rest) else ([], url)
  | _ => ([], url)

def splitAuthority : List CodePoint → List CodePoint × List CodePoint
  | .char '/' :: .char '/' :: rest =>
    let isEnd := fun p => p == .char '/' || p == .char '?' || p == .char '#'
    (rest.takeWhile (!isEnd ·), rest.dropWhile (!isEnd ·))
  | url => ([], url)

/-- What stands before the last at sign of an authority, and the host and port after it. -/
def splitUser (authority : List CodePoint) : List CodePoint × List CodePoint :=
  let place := (authority.reverse.takeWhile (· != .char '@')).reverse
  (authority.take (authority.length - place.length - 1), place)

def splitPort (place : List CodePoint) : List CodePoint × List CodePoint :=
  let bracketed := (place.reverse.dropWhile (· != .char ']')).reverse
  let host :=
    if place.head? = some '[' ∧ bracketed ≠ [] then bracketed
    else place.takeWhile (· != .char ':')
  match place.drop host.length with
  | .char ':' :: port => (host, port)
  | port => (host, port)

def parts (url : Text) : Parts :=
  let (scheme, rest) := splitScheme url.points
  let (authority, rest) := splitAuthority rest
  let (user, place) := splitUser authority
  let (host, port) := splitPort place
  let shown := rest.takeWhile (· != .char '#')
  let path := shown.takeWhile (· != .char '?')
  let query := match shown.drop path.length with
    | [] => none
    | _ :: query => some query
  let fragment := (rest.drop shown.length).drop 1
  { scheme, user, host, port, path, query, fragment }

/-- A path without the segments `.` and `..`, of which the latter also takes away the segment
before it. -/
def withoutDots (path : List CodePoint) : List CodePoint :=
  let kept := (Text.sections (· == .char '/') path).foldl (fun kept segment =>
    if segment = [.char '.'] then kept
    else if segment = [.char '.', .char '.'] then if kept = [[]] then kept else kept.dropLast
    else kept ++ [segment]) []
  [CodePoint.char '/'].intercalate kept

def isQuerySafe (c : Char) : Bool :=
  decide (0x20 < c.toNat ∧ c.toNat < 0x7f ∧ c ∉ ['"', '#', '<', '>'])

def isPathSafe (c : Char) : Bool :=
  isQuerySafe c && decide (c ∉ ['?', '\x60', '\x7b', '\x7d'])

def isHostSafe (c : Char) : Bool :=
  c.isAlphanum || "-._~!$&'()*+,;=\"\x60\x7b\x7d%|\\".contains c

namespace Parts

def hasAuthority (a : Parts) : Bool :=
  !(a.user.isEmpty && a.host.isEmpty && a.port.isEmpty)

def isAbsolute (a : Parts) : Bool :=
  !a.scheme.isEmpty && !a.host.isEmpty

def isBracketed (a : Parts) : Bool :=
  a.host.head? == some (.char '[') && a.host.getLast? == some (.char ']')

def hostFault? (a : Parts) : Option Fault :=
  if Host.resemblesOctets a.host then
    if Host.isOctets a.host then none else some (.badOctets ⟨a.host⟩)
  else if a.isBracketed then
    if Host.isZoned a.host.tail.dropLast then none else some (.badGroups ⟨a.host⟩)
  else if a.host.all Text.Punycode.isAscii || (HostName.encode? a.host).isSome then none
  else some (.badName ⟨a.host⟩)

def portFault? (a : Parts) : Option Fault :=
  if a.port.isEmpty || (Numeral.read (Text.shown ⟨a.port⟩)).isOk then none
  else some (.badPort ⟨a.port⟩)

/-- A path on its own must not be taken for an address with a host or with a scheme. -/
def pathFault? (a : Parts) : Option Fault :=
  if !a.scheme.isEmpty || a.hasAuthority then none
  else match a.path with
    | .char '/' :: .char '/' :: _ => some (.badPath "//")
    | .char ':' :: _ => some (.badPath ":")
    | _ => none

def plainPath (a : Parts) : List CodePoint :=
  if a.scheme.isEmpty && !a.hasAuthority then a.path else withoutDots a.path

def surrogateFault? (part : List CodePoint) : Option Fault :=
  (part.find? CodePoint.isSurrogate).map fun p => .unencodable ⟨.surrogate, 0, p, 1⟩

/-- What is wrong with the host once it is asked. A name in ASCII may hold labels that are written
there, and the zone in brackets may not go beyond ASCII. What has been written has no fault. -/
def askedFault? (a : Parts) : Option Fault :=
  if a.isBracketed then (Text.EncodingFault.find .notAscii ⟨a.host⟩).map .unencodable
  else
    let name := (Text.percentEncoded isHostSafe a.host).map Char.toLower
    if a.host.all Text.Punycode.isAscii && Label.writtenMark.isPrefixOf name then
      (HostName.writtenFault? name).map .badLabel
    else none

end Parts

def fault? (url : Text) : Option Fault :=
  let a := parts url
  if maxLength < url.points.length then some .tooLong
  else match url.points.find? isControl with
    | some p => some (.controlCharacter p.shown (url.points.findIdx isControl))
    | none =>
      (Parts.surrogateFault? a.user).or <| a.hostFault?.or <| a.portFault?.or <|
        a.pathFault?.or <| (Parts.surrogateFault? a.plainPath).or <|
        (Parts.surrogateFault? (a.query.getD [])).or <| (Parts.surrogateFault? a.fragment).or
        a.askedFault?

def relative? (url : Text) : Option String :=
  let a := parts url
  if a.isAbsolute then none
  else
    let query := a.query.map fun q => '?' :: Text.percentEncoded isQuerySafe q
    some (String.ofList
      ('/' :: (Text.percentEncoded isPathSafe a.plainPath).dropWhile (· == '/') ++ query.getD []))

def credentials? (url : Text) : Option String :=
  let a := parts url
  let bytes := fun part => Text.Utf8.mend 0 0 (Text.percentDecoded part)
  let name := bytes (a.user.takeWhile (· != .char ':'))
  let password := bytes ((a.user.dropWhile (· != .char ':')).drop 1)
  if !a.isAbsolute || name.isEmpty && password.isEmpty then none
  else some ("Basic " ++ String.ofList (Text.base64 (name ++ 0x3a :: password)))

end MoveSkeleton.Address
