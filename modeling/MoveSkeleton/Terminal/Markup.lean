import MoveSkeleton.Text.Blank
import MoveSkeleton.Text.Bytes
import MoveSkeleton.Text.Case
import MoveSkeleton.Text.Lines

/-! Text with markup, as a terminal reads it: tags in square brackets, which are not shown, and names
of emoji between colons. A tag opens a style or, with a slash, closes one. -/
namespace MoveSkeleton.Terminal

inductive Fault where
  /-- Something is closed that is not open. -/
  | unopened (tag : Text) (position : Nat)
  | nothingOpen (position : Nat)
  | badHandler (message : Text)
  | badStyle (message : Text)
  | unencodable (fault : Text.EncodingFault)
  deriving DecidableEq

namespace Fault

def label : Fault → String
  | .unopened _ _ | .nothingOpen _ | .badHandler _ => "MarkupError"
  | .badStyle _ => "ValueError"
  | .unencodable _ => Text.EncodingFault.label

def message : Fault → Text
  | .unopened tag position =>
    s!"closing tag '" ++ tag ++ s!"' at position {position} doesn't match any open tag"
  | .nothingOpen position => s!"closing tag '[/]' at position {position} has nothing to close"
  | .badHandler message | .badStyle message => message
  | .unencodable fault =>
    fault.message ++
      "\n*** You may need to add PYTHONIOENCODING=utf-8 to your environment ***"

end Fault

/-- What one terminal has and another has not: the cells in a line, the emoji that it knows by name,
the styles, of which those that look alike share a normal form, and what it finds wrong with the
parameters of a tag for a handler. It takes UTF-8 without surrogates. -/
structure Screen where
  columns : Nat := 80
  emoji? : Text → Option String := fun _ => none
  style : Text → Except Text Text := fun t => .ok ⟨t.strip.points.flatMap Text.lowerCase⟩
  handlerFault? : Text → Option Text := fun _ => none

structure Tag where
  name : Text
  parameters : Option Text

namespace Tag

def ofBody (body : List CodePoint) : Tag :=
  let name := body.takeWhile (· ≠ .char '=')
  match body.drop name.length with
  | [] => ⟨⟨name⟩, none⟩
  | _ :: parameters => ⟨⟨name⟩, some ⟨parameters⟩⟩

def written (t : Tag) : Text :=
  match t.parameters with
  | none => "[" ++ t.name ++ "]"
  | some parameters => "[" ++ t.name ++ "=" ++ parameters ++ "]"

def style (t : Tag) : Text :=
  match t.parameters with
  | none => t.name
  | some parameters => t.name ++ " " ++ parameters

def isHandler (t : Tag) : Bool :=
  t.name.points.head? == some (.char '@')

end Tag

inductive Piece where
  | plain (text : List CodePoint)
  | tag (position : Nat) (tag : Tag)

def beginsTag (p : CodePoint) : Bool :=
  decide (0x61 ≤ p.value ∧ p.value ≤ 0x7a) || p == .char '#' || p == .char '/' || p == .char '@'

/-- The body of the tag that a bracket opens, and what follows it. There is no other opening bracket
in `inside`, which reaches up to the next one. -/
def body? (inside : List CodePoint) : Option (List CodePoint × List CodePoint) :=
  let body := inside.takeWhile (· ≠ .char ']')
  match inside.drop body.length with
  | [] => none
  | _ :: after => if body.head?.any beginsTag then some (body, after) else none

/-- Cuts a text at its tags. Of the text before the bracket at `position` the end is given that is
not cut off yet, and then what stands after each bracket. Two backslashes before a tag are one, and
a single one makes it plain text. -/
def piecesFrom (position : Nat) (before : List CodePoint) : List (List CodePoint) → List Piece
  | [] => [.plain before]
  | inside :: rest =>
    let next := position + 1 + inside.length
    match body? inside with
    | none => piecesFrom next (before ++ .char '[' :: inside) rest
    | some (body, after) =>
      let slashes := (before.reverse.takeWhile (· == .char '\\')).length
      let tag :=
        if slashes % 2 = 0 then .tag position (.ofBody body)
        else .plain (.char '[' :: body ++ [.char ']'])
      .plain (before.take (before.length - slashes)) ::
        .plain (List.replicate (slashes / 2) (.char '\\')) :: tag :: piecesFrom next after rest

def pieces (t : Text) : List Piece :=
  match Text.sections (· == .char '[') t.points with
  | [] => []
  | before :: rest => piecesFrom before.length before rest

/-- A backslash before a bracket that opens no tag is left out, too. -/
def unescape : List CodePoint → List CodePoint
  | .char '\\' :: .char '[' :: rest => .char '[' :: unescape rest
  | p :: rest => p :: unescape rest
  | [] => []

/-- The name of an emoji, and the selector that its ending asks for: the one for an emoji as such or
the one for text. -/
def splitSelector (name : List CodePoint) : List CodePoint × String :=
  let without? := fun (ending : String) =>
    let points := (Text.ofString ending).points
    if points.isSuffixOf name then some (name.take (name.length - points.length)) else none
  match without? "-emoji", without? "-text" with
  | some bare, _ => (bare, "\ufe0f")
  | none, some bare => (bare, "\ufe0e")
  | none, none => (name, "")

namespace Screen

def showName (s : Screen) (name : List CodePoint) : List CodePoint :=
  let (bare, selector) := splitSelector name
  match s.emoji? ⟨bare⟩ with
  | some shown => (Text.ofString (shown ++ selector)).points
  | none => .char ':' :: name ++ [.char ':']

def showNames (s : Screen) : List (List CodePoint) → List CodePoint
  | before :: name :: after :: rest =>
    if name.any CodePoint.isBlank then before ++ .char ':' :: s.showNames (name :: after :: rest)
    else before ++ s.showName name ++ s.showNames (after :: rest)
  | [before, last] => before ++ .char ':' :: last
  | [last] => last
  | [] => []

structure Progress where
  shown : List CodePoint := []
  opened : List Tag := []
  styles : List Text := []

/-- A tag is closed. What a handler is called with is read now, and a style is looked up when all is
read. -/
def close (s : Screen) (p : Progress) (t : Tag) (others : List Tag) : Except Fault Progress :=
  if t.isHandler then
    match (t.parameters.filter (!·.isEmpty)).bind s.handlerFault? with
    | some message => .error (.badHandler message)
    | none => .ok { p with opened := others }
  else .ok { p with opened := others, styles := p.styles ++ [t.style] }

def addTag (s : Screen) (p : Progress) (position : Nat) (t : Tag) : Except Fault Progress := do
  match t.name.points with
  | .char '/' :: name =>
    let name := Text.strip ⟨name⟩
    if name.isEmpty then
      match p.opened with
      | [] => throw (.nothingOpen position)
      | newest :: others => s.close p newest others
    else
      let style ← (s.style name).mapError .badStyle
      match p.opened.find? (·.name = style) with
      | none => throw (.unopened t.written position)
      | some open_ => s.close p open_ (p.opened.eraseP (·.name = style))
  | _ =>
    let style ← (s.style t.name).mapError .badStyle
    return { p with opened := { t with name := style } :: p.opened }

def add (s : Screen) (p : Progress) : Piece → Except Fault Progress
  | .plain text =>
    let cut := Text.sections (· == .char ':') (unescape text)
    .ok { p with shown := p.shown ++ s.showNames cut }
  | .tag position t => s.addTag p position t

def read (s : Screen) (t : Text) : Except Fault Text := do
  let p ← (pieces t).foldlM s.add {}
  let _ ← (p.styles ++ p.opened.map Tag.style).mapM fun style =>
    (s.style style).mapError Fault.badStyle
  return ⟨p.shown⟩

end Screen

def encodable (lines : List Text) : Except Fault (List Text) :=
  match Text.EncodingFault.find .surrogate ⟨lines.flatMap fun l => l.points ++ [.char '\n']⟩ with
  | some fault => .error (.unencodable fault)
  | none => .ok lines

end MoveSkeleton.Terminal
