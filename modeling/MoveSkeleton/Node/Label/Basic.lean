import MoveSkeleton.Node.Label.Admission
import MoveSkeleton.Node.Label.Direction
import MoveSkeleton.Node.Label.Fault
import MoveSkeleton.Node.Label.Joining
import MoveSkeleton.Node.Label.Script
import MoveSkeleton.Text.Normal
import MoveSkeleton.Text.Punycode

/-! Labels, which stand between the stops of a host name: what one may hold, and how one beyond
ASCII is written. -/
namespace MoveSkeleton.Label

def joinsAcross (before after : List CodePoint) : Bool :=
  let nearest := fun (ps : List CodePoint) => (ps.map joining).find? (· != .transparent)
  (nearest before).any (fun j => j == .left || j == .both) &&
    (nearest after).any (fun j => j == .right || j == .both)

/-- A joiner stands after a mark that silences a vowel. The one that keeps letters apart may also
stand where they would join. -/
def mayJoin (before : List CodePoint) (p : CodePoint) (after : List CodePoint) : Bool :=
  match before with
  | [] => false
  | q :: _ =>
    Text.combiningClass q == Text.viramaClass ||
      p == .char '\u200c' && direction q != .unknown && joinsAcross before after

def isArabicDigit (p : CodePoint) : Bool := decide (0x660 ≤ p.value ∧ p.value < 0x66a)

def isExtendedDigit (p : CodePoint) : Bool := decide (0x6f0 ≤ p.value ∧ p.value < 0x6fa)

/-- Whether a code point that needs its context has it: a dot between two l, a Greek numeral sign
before a Greek character, a Hebrew mark after a Hebrew one, a Japanese dot in a label with a
Japanese character, and of the digits of Arabic only one kind. -/
def isInContext (label before : List CodePoint) (p : CodePoint) (after : List CodePoint) : Bool :=
  if p.value = 0xb7 then before.head? == some (.char 'l') && after.head? == some (.char 'l')
  else if p.value = 0x375 then after.head?.any isGreek
  else if p.value = 0x5f3 ∨ p.value = 0x5f4 then before.head?.any isHebrew
  else if p.value = 0x30fb then label.any isJapanese
  else if isArabicDigit p then !label.any isExtendedDigit
  else !label.any isArabicDigit

def misplacement? (label : List CodePoint) :
    (before rest : List CodePoint) → Option Fault
  | _, [] => none
  | before, p :: after =>
    let position := before.length + 1
    let fault : Option Fault := match admission p with
      | .anywhere => none
      | .joiner => if mayJoin before p after then none else some (.strayJoiner p position ⟨label⟩)
      | .inContext =>
        if isInContext label before p after then none else some (.outOfContext p position ⟨label⟩)
      | .nowhere => some (.notAdmitted p position ⟨label⟩)
    fault.or (misplacement? label (p :: before) after)

/-- The first fault among the directions of a label that goes from right to left: it holds nothing
from left to right, and numbers of one kind only. -/
def rightToLeftFault? :
    (position : Nat) → (number : Option Direction) → List Direction → Option Fault
  | _, _, [] => none
  | position, number, d :: rest =>
    if d = .left then some (.leftAmongRight position)
    else if d = .arabicNumber ∨ d = .europeanNumber then
      if number.any (· != d) then some .mixedNumbers
      else rightToLeftFault? (position + 1) (some d) rest
    else rightToLeftFault? (position + 1) number rest

def endFault? (ends : List Direction) (ds : List Direction) : Option Fault :=
  if (ds.reverse.find? (· != .mark)).any ends.contains then none else some .endWithoutDirection

def directionFault? (label : List CodePoint) : Option Fault :=
  let ds := label.map direction
  let isRight := fun d => d == .right || d == .arabicNumber
  match ds.findIdx? (· == .unknown) with
  | some i => some (.unknownDirection (i + 1) ⟨label⟩)
  | none =>
    if !ds.any isRight then none
    else match ds.head? with
      | some .right =>
        (rightToLeftFault? 1 none ds).or (endFault? [.right, .arabicNumber, .europeanNumber] ds)
      | some .left =>
        ((ds.findIdx? isRight).map fun i => .rightAmongLeft (i + 1)).or
          (endFault? [.left, .europeanNumber] ds)
      | _ => some (.startWithoutDirection ⟨label⟩)

def fault? (label : List CodePoint) : Option Fault :=
  let hyphen := CodePoint.char '-'
  if label.isEmpty then some .empty
  else if !Text.isComposed label then some .notComposed
  else if (label.drop 2).take 2 = [hyphen, hyphen] then some .hyphensInside
  else if label.head? = some hyphen ∨ label.getLast? = some hyphen then some .hyphenAtEnd
  else if label.head?.any Text.isMark then some .markAtStart
  else (misplacement? label [] label).or (directionFault? label)

def writtenMark : List Char := ['x', 'n', '-', '-']

def writtenFault? (label : List Char) : Option Fault :=
  if writtenMark.isPrefixOf label then
    let written := label.drop writtenMark.length
    if written.isEmpty then some .nothingWritten
    else if written.getLast? = some '-' then some .hyphenAfterWritten
    else match Text.Punycode.decode written with
      | none => some .badlyWritten
      | some ps => fault? ps
  else fault? (label.map .char)

def maxLength : Nat := 63

def encode? (label : List CodePoint) : Option (List Char) :=
  let shown := label.map CodePoint.shown
  let (fault, encoded) :=
    if label.all Text.Punycode.isAscii then (writtenFault? shown, shown)
    else (fault? label, writtenMark ++ Text.Punycode.encode label)
  if fault.isNone && decide (encoded.length ≤ maxLength) then some encoded else none

end MoveSkeleton.Label
