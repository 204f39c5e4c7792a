import MoveSkeleton.Node.Label.Basic
import MoveSkeleton.Text.Case
import MoveSkeleton.Text.Lines

/-! Host names: labels with stops between them. -/
namespace MoveSkeleton.HostName

def isStop (p : CodePoint) : Bool :=
  [0x2e, 0x3002, 0xff0e, 0xff61].contains p.value

def labels (name : List CodePoint) : List (List CodePoint) × Bool :=
  let parts := Text.sections isStop name
  if parts.getLast? = some [] then (parts.dropLast, true) else (parts, false)

def maxLength : Nat := 253

def encode? (name : List CodePoint) : Option (List Char) :=
  let small := name.flatMap Text.lowerCase
  if maxLength + 1 < small.length then none
  else do
    let (parts, ended) := labels small
    let encoded := ['.'].intercalate ((← parts.mapM Label.encode?) ++ if ended then [[]] else [])
    if encoded.length ≤ maxLength + (if ended then 1 else 0) then some encoded else none

def writtenFault? (name : List Char) : Option Label.Fault :=
  if maxLength + 1 < name.length then some .nameTooLong
  else (labels (name.map .char)).1.findSome? fun label =>
    Label.writtenFault? (label.map CodePoint.shown)

end MoveSkeleton.HostName
