import MoveSkeleton.Terminal.Markup
import MoveSkeleton.Terminal.Width

/-! Text laid out in lines of limited width. -/
namespace MoveSkeleton.Terminal

open CodePoint (isBlank)
open Text (sections)

/-- Control characters that are never shown: bell, backspace, vertical tab, form feed, and carriage
return. -/
def isDropped (p : CodePoint) : Bool :=
  [7, 8, 11, 12, 13].contains p.value

def paragraphs (t : Text) : List (List CodePoint) :=
  sections (· == .char '\n') (t.points.filter (!isDropped ·))

def tabWidth : Nat := 8

/-- What stands before a tab, and the blanks in place of the tab: one, which may be joined to the
rest, and as many as are then missing. -/
def fillTab (part : List CodePoint) : List CodePoint :=
  let blanked := part ++ [.char ' ']
  blanked ++ List.replicate ((tabWidth - width blanked % tabWidth) % tabWidth) (.char ' ')

def expandTabs (cs : List CodePoint) : List CodePoint :=
  let parts := sections (· == .char '\t') cs
  parts.dropLast.flatMap fillTab ++ parts.getLast?.getD []

def stripEnd (cs : List CodePoint) : List CodePoint :=
  (cs.reverse.dropWhile isBlank).reverse

/-- The words of a text, each with the blanks after it, and the first also with those before it.
Blanks alone are no word. -/
def words (cs : List CodePoint) : List (List CodePoint) :=
  match (cs.dropWhile isBlank).splitBy fun a b => !isBlank a || isBlank b with
  | [] => []
  | word :: others => (cs.takeWhile isBlank ++ word) :: others

structure Cutting where
  done : List (List CodePoint)
  line : List CodePoint
  used : Nat

def Cutting.add (width : Nat) (s : Cutting) (k : Cluster) : Cutting :=
  if s.used + k.width ≤ width then { s with line := s.line ++ k.points, used := s.used + k.width }
  else ⟨s.done ++ [s.line], k.points, k.width⟩

def cutWord (width : Nat) (word : List CodePoint) : List (List CodePoint) :=
  let s := (clusters word).foldl (Cutting.add width) ⟨[], [], 0⟩
  s.done ++ [s.line]

inductive Overflow where
  | fold
  | ellipsis
  deriving DecidableEq

structure Filling where
  done : List (List CodePoint)
  line : List CodePoint
  used : Nat

def Filling.add (o : Overflow) (room : Nat) (f : Filling) (word : List CodePoint) : Filling :=
  let visible := width (stripEnd word)
  let closed := if f.line.isEmpty then f.done else f.done ++ [f.line]
  if f.used + visible ≤ room then { f with line := f.line ++ word, used := f.used + width word }
  else if room < visible ∧ o = .fold then
    let cut := cutWord room word
    let last := cut.getLast?.getD []
    ⟨closed ++ cut.dropLast, last, width last⟩
  else ⟨closed, word, width word⟩

/-- A line without so many of the blanks at its end as it has characters beyond `room`. -/
def dropExcess (room : Nat) (line : List CodePoint) : List CodePoint :=
  let trailing := line.length - (stripEnd line).length
  line.take (line.length - min trailing (line.length - room))

def fill (o : Overflow) (room : Nat) (paragraph : List CodePoint) : List (List CodePoint) :=
  let cs := expandTabs paragraph
  let lines := match words cs with
    | [] => [cs]
    | ws =>
      let f := ws.foldl (Filling.add o room) ⟨[], [], 0⟩
      f.done ++ [f.line]
  lines.map (dropExcess room)

def truncate (o : Overflow) (room : Nat) (line : List CodePoint) : List CodePoint :=
  if width line ≤ room then line
  else match o with
    | .fold => crop room line
    | .ellipsis => crop (room - 1) line ++ [.char '…']

def pad (room : Nat) (line : List CodePoint) : List CodePoint :=
  line ++ List.replicate (room - width line) (.char ' ')

inductive Alignment where
  | left
  | center
  | right
  deriving DecidableEq

def align (a : Alignment) (o : Overflow) (room : Nat) (line : List CodePoint) : List CodePoint :=
  let cs := truncate o room (if a = .left then line else stripEnd line)
  let shifted := fun n => List.replicate n (.char ' ') ++ cs
  match a with
  | .left => pad room cs
  | .center => pad room (shifted ((room - width cs) / 2))
  | .right => shifted (room - width cs)

def alignedLines (a : Alignment) (o : Overflow) (room : Nat) (t : Text) : List (List CodePoint) :=
  ((paragraphs t).flatMap (fill o room)).map (align a o room)

def Screen.lines (s : Screen) (t : Text) : Except Fault (List Text) := do
  let shown ← s.read t
  encodable <| ((paragraphs shown).flatMap (fill .fold s.columns)).map fun line =>
    ⟨truncate .fold s.columns line⟩

end MoveSkeleton.Terminal
