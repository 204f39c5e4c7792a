import MoveSkeleton.Number.Numeral
import MoveSkeleton.Text.Basic
import MoveSkeleton.Text.Hex
import MoveSkeleton.Text.Lines

/-! Hosts that are given by number, with four octets or with eight groups of hexadecimal digits. -/
namespace MoveSkeleton.Host

def isDigit (p : CodePoint) : Bool := p.shown.isDigit

def resemblesOctets (host : List CodePoint) : Bool :=
  let runs := Text.sections (· == .char '.') host
  runs.length == 4 && runs.all fun run => !run.isEmpty && run.all isDigit

def isOctet (ps : List CodePoint) : Bool :=
  match ps with
  | [] => false
  | p :: rest =>
    ps.all isDigit && decide (ps.length ≤ 3) && (rest.isEmpty || p != '0') &&
      decide (Numeral.value (ps.map CodePoint.shown) ≤ 255)

def isOctets (host : List CodePoint) : Bool :=
  let octets := Text.sections (· == .char '.') host
  octets.length == 4 && octets.all isOctet

def isGroup (ps : List CodePoint) : Bool :=
  !ps.isEmpty && decide (ps.length ≤ 4) && ps.all fun p => (Text.hexDigit? p.shown).isSome

/-- Groups with four octets at the end written as the two groups that they stand for, whose digits
do not matter here. -/
def withoutOctets (groups : List (List CodePoint)) : List (List CodePoint) :=
  match groups.getLast? with
  | some last =>
    if last.contains '.' && isOctets last then groups.dropLast ++ List.replicate 2 [.char '0']
    else groups
  | none => groups

/-- Eight groups between colons, or fewer and two colons once in place of the others. -/
def isGroups (host : List CodePoint) : Bool :=
  let groups := withoutOctets (Text.sections (· == .char ':') host)
  let side := fun (l : List (List CodePoint)) => if l = [[]] then [] else l
  match groups.tail.dropLast.findIdx? List.isEmpty with
  | none => groups.length == 8 && groups.all isGroup
  | some i =>
    let given := side (groups.take (i + 1)) ++ side (groups.drop (i + 2))
    given.all isGroup && decide (given.length ≤ 7)

def isZoned (host : List CodePoint) : Bool :=
  let groups := host.takeWhile (· != .char '%')
  isGroups groups &&
    match host.drop groups.length with
    | [] => true
    | _ :: zone => !zone.isEmpty && !zone.contains '%'

end MoveSkeleton.Host
