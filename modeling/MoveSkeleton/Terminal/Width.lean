import MoveSkeleton.Terminal.Cell

/-! How many cells of a terminal a text takes, and a text cut to a number of cells. -/
namespace MoveSkeleton.Terminal

def joiner : CodePoint := .char '\u200d'

def selector : CodePoint := .char '\ufe0f'

def selectorWidth (last : Option CodePoint) : Nat :=
  if last.any fun p => Text.isWithin emojiBounds p.value then 1 else 0

structure Measure where
  cells : Nat
  last : Option CodePoint
  joined : Bool

def Measure.add (m : Measure) (p : CodePoint) : Measure :=
  if m.joined then { m with joined := false }
  else if p = joiner then { m with joined := true }
  else if p = selector then ⟨m.cells + selectorWidth m.last, none, false⟩
  else if pointWidth p = 0 then m
  else ⟨m.cells + pointWidth p, some p, false⟩

def width (ps : List CodePoint) : Nat :=
  (ps.foldl Measure.add ⟨0, none, false⟩).cells

structure Cluster where
  points : List CodePoint
  width : Nat

structure Clustering where
  clusters : List Cluster
  last : Option CodePoint
  joined : Bool

def measured? (p : CodePoint) : Option CodePoint :=
  if pointWidth p = 0 then none else some p

/-- A code point without a cell goes with the one before it. A joiner at the beginning joins
nothing. -/
def Clustering.add (s : Clustering) (p : CodePoint) : Clustering :=
  match s.clusters with
  | [] => ⟨[⟨[p], pointWidth p⟩], measured? p, false⟩
  | newest :: others =>
    let grown := fun n => ⟨newest.points ++ [p], newest.width + n⟩ :: others
    if s.joined then ⟨grown 0, s.last, false⟩
    else if p = joiner then ⟨grown 0, s.last, true⟩
    else if p = selector then ⟨grown (selectorWidth s.last), none, false⟩
    else if pointWidth p = 0 then ⟨grown 0, s.last, false⟩
    else ⟨⟨[p], pointWidth p⟩ :: newest :: others, some p, false⟩

def clusters (ps : List CodePoint) : List Cluster :=
  (ps.foldl Clustering.add ⟨[], none, false⟩).clusters.reverse

/-- As much of a list of clusters as fits into `room` cells. A cluster that would stand half inside
leaves a blank. -/
def fitting : (room : Nat) → List Cluster → List CodePoint
  | _, [] => []
  | room, k :: rest =>
    if k.width ≤ room then k.points ++ fitting (room - k.width) rest
    else if room = 0 then [] else [.char ' ']

def crop (room : Nat) (ps : List CodePoint) : List CodePoint :=
  if room = 0 then []
  else if width ps ≤ room then ps
  else fitting room (clusters ps)

end MoveSkeleton.Terminal
