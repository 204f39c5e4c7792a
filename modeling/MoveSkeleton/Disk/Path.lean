import MoveSkeleton.Text.Basic
import MoveSkeleton.Text.Lines

/-! File paths as written. -/
namespace MoveSkeleton

/-- Where a path starts. A path that begins with exactly two slashes keeps both. -/
inductive Anchor where
  | here
  | root
  | doubleRoot
  deriving DecidableEq, Inhabited

def Anchor.text : Anchor → String
  | .here => ""
  | .root => "/"
  | .doubleRoot => "//"

/-- The parts of a path are neither empty nor `.`, and hold no slash. -/
structure Path where
  anchor : Anchor
  parts : List Text
  deriving DecidableEq, Inhabited

namespace Path

def anchorOf (ps : List CodePoint) : Anchor :=
  match (ps.takeWhile (· == .char '/')).length with
  | 0 => .here
  | 2 => .doubleRoot
  | _ => .root

def ofText (t : Text) : Path :=
  { anchor := anchorOf t.points
    parts := ((Text.sections (· == .char '/') t.points).map Text.mk).filter fun part =>
      part ≠ "" ∧ part ≠ "." }

def join (p : Path) (t : Text) : Path :=
  let q := ofText t
  match q.anchor with
  | .here => { p with parts := p.parts ++ q.parts }
  | _ => q

def text (p : Path) : Text :=
  match p.anchor, p.parts with
  | .here, [] => "."
  | anchor, parts => anchor.text ++ Text.intercalate "/" parts

/-- The length of a name or a path in bytes. In file names the surrogates from U+DC80 to U+DCFF
stand for single bytes, those that are part of no character. -/
def size (t : Text) : Nat :=
  t.points.foldl (fun n p => n + match p with
    | .char c => c.utf8Size
    | .surrogate _ => 1) 0

def isByte (p : CodePoint) : Bool :=
  decide (0xdc80 ≤ p.value ∧ p.value ≤ 0xdcff)

def parent (p : Path) : Path :=
  { p with parts := p.parts.dropLast }

end Path

end MoveSkeleton
