/-! Text cut into lines. -/
namespace MoveSkeleton.Text

def isLineBreak (c : Char) : Bool :=
  c ∈ ['\n', '\x0b', '\x0c', '\r', '\x1c', '\x1d', '\x1e', '\u0085', '\u2028', '\u2029']

/-- The lines of a text without their breaks. What follows the last break is a line only if it
holds a character. -/
def lines : List Char → List (List Char)
  | [] => []
  | '\r' :: '\n' :: rest => [] :: lines rest
  | c :: rest =>
    if isLineBreak c then [] :: lines rest
    else match lines rest with
      | [] => [[c]]
      | line :: others => (c :: line) :: others

def sections {α : Type} (p : α → Bool) : List α → List (List α)
  | [] => [[]]
  | a :: rest =>
    if p a then [] :: sections p rest
    else match sections p rest with
      | [] => [[a]]
      | piece :: others => (a :: piece) :: others

/-- A text as it is read from a file: a line feed stands for each carriage return, and for one with a
line feed after it. -/
def withFeeds : List Char → List Char
  | [] => []
  | '\r' :: '\n' :: rest => '\n' :: withFeeds rest
  | c :: rest => (if c = '\r' then '\n' else c) :: withFeeds rest

@[simp] theorem lines_nil : lines [] = [] := rfl

theorem lines_feed (rest : List Char) : lines ('\n' :: rest) = [] :: lines rest := by
  simp [lines, isLineBreak]

theorem lines_return_feed (rest : List Char) : lines ('\r' :: '\n' :: rest) = [] :: lines rest := by
  simp [lines]

end MoveSkeleton.Text
