import MoveSkeleton.Text.Digit
import MoveSkeleton.Text.Quoted

/-! The words of a command line, told apart into options and arguments, and assigned to the places
that a command has for them. -/
namespace MoveSkeleton.CommandLine

structure Flag where
  names : List Text
  takesValue : Bool
  deriving DecidableEq

def Flag.title (f : Flag) : Text :=
  Text.intercalate "/" f.names

structure Slot where
  name : Text
  required : Bool
  deriving DecidableEq

/-- What may follow a command. Arguments fill the slots in order, and options stand anywhere between
them. -/
structure Grammar where
  flags : List Flag
  slots : List Slot

inductive Misuse where
  | ambiguous (word : Text) (candidates : List Text)
  | noValue (flag : Flag)
  | needlessValue (flag : Flag) (value : Text)
  | missing (slots : List Text)
  | badChoice (slot given : Text) (choices : List Text)
  | unrecognized (words : List Text)
  deriving DecidableEq

def Misuse.message : Misuse → Text
  | .ambiguous word candidates =>
    "ambiguous option: " ++ word ++ " could match " ++ Text.intercalate ", " candidates
  | .noValue flag => "argument " ++ flag.title ++ ": expected one argument"
  | .needlessValue flag value =>
    "argument " ++ flag.title ++ ": ignored explicit argument " ++ value.quoted
  | .missing slots => "the following arguments are required: " ++ Text.intercalate ", " slots
  | .badChoice slot given choices =>
    "argument " ++ slot ++ ": invalid choice: " ++ given.quoted ++ " (choose from " ++
      Text.intercalate ", " (choices.map fun choice => Text.ofString choice.quoted) ++ ")"
  | .unrecognized words => "unrecognized arguments: " ++ Text.intercalate " " words

/-- A word that begins like an option: it names one, by a short or a long name, or is unknown. Text
may be attached to the name, after an equals sign or, if the name is short, directly. -/
inductive Named where
  | unknown
  | known (flag : Flag) (isLong : Bool) (attached : Option (List CodePoint))

inductive Word where
  | argument (text : Text)
  | separator
  | option (text : Text) (named : Named)

def separator : Text := "--"

def Word.text : Word → Text
  | .argument text | .option text _ => text
  | .separator => CommandLine.separator

/-- A minus sign before digits, with a point before the last of them or without one. A line feed
may end it. -/
def looksNegative (ps : List CodePoint) : Bool :=
  let isDigit := fun (p : CodePoint) => match p with
    | .char c => (Text.digitValue? c).isSome
    | .surrogate _ => false
  let isDigits := fun (ds : List CodePoint) => !ds.isEmpty && ds.all isDigit
  match ps with
  | .char '-' :: body =>
    let number := if body.getLast? = some '\n' then body.dropLast else body
    let whole := number.takeWhile isDigit
    match number.drop whole.length with
    | [] => isDigits whole
    | .char '.' :: places => isDigits places
    | _ => false
  | _ => false

namespace Grammar

def find? (g : Grammar) (name : List CodePoint) : Option Flag :=
  g.flags.find? fun f => f.names.contains ⟨name⟩

def splitValue (ps : List CodePoint) : List CodePoint × Option (List CodePoint) :=
  let name := ps.takeWhile (· ≠ .char '=')
  match ps.drop name.length with
  | [] => (name, none)
  | _ :: value => (name, some value)

def expansions (g : Grammar) (name : List CodePoint) : List (Text × Flag) :=
  g.flags.flatMap fun f => (f.names.filter fun n => name.isPrefixOf n.points).map fun n => (n, f)

/-- Reads one word. An exact name comes first, then a name before an equals sign, then the
beginning of exactly one long name, or a letter with text after it. What names no option is an
argument if it looks like a negative number or has a space in it. -/
def classify (g : Grammar) (word : Text) : Except Misuse Word :=
  let unnamed : Word :=
    if looksNegative word.points || word.points.contains ' ' then .argument word
    else .option word .unknown
  let known := fun f isLong attached => (.ok (.option word (.known f isLong attached)) :
    Except Misuse Word)
  match word.points with
  | .char '-' :: second :: rest =>
    let isLong := second == .char '-'
    match g.find? word.points, splitValue word.points with
    | some f, _ => known f isLong none
    | none, (name, attached) =>
      match attached.bind fun _ => g.find? name with
      | some f => known f isLong attached
      | none =>
        if isLong then
          match g.expansions name with
          | [] => .ok unnamed
          | [(_, f)] => known f true attached
          | several => .error (.ambiguous word (several.map (·.1)))
        else
          match g.find? [.char '-', second] with
          | some f => known f false (some rest)
          | none => .ok unnamed
  | _ => .ok (.argument word)

def words (g : Grammar) : List Text → Except Misuse (List Word)
  | [] => .ok []
  | w :: rest => do
    if w = separator then return .separator :: rest.map .argument
    let word ← g.classify w
    return word :: (← words g rest)

def operand (text : Text) : Option Text :=
  if text = separator then none else some text

structure Setting where
  given : List (Flag × Option Text)
  usesNext : Bool

def alone (next : Option Text) (f : Flag) : Except Misuse Setting :=
  if f.takesValue then
    match next with
    | some value => .ok ⟨[(f, operand value)], true⟩
    | none => .error (.noValue f)
  else .ok ⟨[(f, none)], false⟩

/-- An option with attached text, which is its value. If a short option takes none, the text is
the letter of another one, with more text attached or none. -/
def combined (g : Grammar) (next : Option Text) (f : Flag) (isLong : Bool) :
    List CodePoint → Except Misuse Setting
  | [] => if f.takesValue then .ok ⟨[(f, some "")], false⟩ else .error (.needlessValue f "")
  | p :: rest =>
    if f.takesValue then .ok ⟨[(f, operand ⟨p :: rest⟩)], false⟩
    else match if isLong then none else g.find? [.char '-', p] with
      | none => .error (.needlessValue f ⟨p :: rest⟩)
      | some f' => do
        let s ← if rest.isEmpty then alone next f' else combined g next f' false rest
        return { s with given := (f, none) :: s.given }

def settings (g : Grammar) (next : Option Text) (f : Flag) (isLong : Bool)
    (attached : Option (List CodePoint)) : Except Misuse Setting :=
  match attached with
  | none => alone next f
  | some text => combined g next f isLong text

def take? (slot : Slot) (ws : List Word) : Option (List Text × List Word) :=
  let isSeparator := fun (w : Word) => match w with
    | .separator => true
    | _ => false
  let before := ws.takeWhile isSeparator
  match ws.drop before.length with
  | .argument text :: rest =>
    let after := rest.takeWhile isSeparator
    some ((before.map Word.text) ++ text :: after.map Word.text, rest.drop after.length)
  | rest => if slot.required then none else some (before.map Word.text, rest)

/-- Fills slots with a run of arguments as far as it reaches. The first separator of a slot is left
out, even if it stands for itself, and the slot is then void. -/
def fill : List Slot → List Word → List (Slot × Option Text) × List Slot × List Word
  | [], ws => ([], [], ws)
  | slot :: slots, ws =>
    match take? slot ws with
    | none => ([], slot :: slots, ws)
    | some (texts, rest) =>
      let (filled, left, spare) := fill slots rest
      ((slot, (texts.erase separator).head?) :: filled, left, spare)

structure Reading where
  given : List (Flag × Option Text)
  filled : List (Slot × Option Text)
  left : List Slot
  extras : List Text

structure Phrase where
  named : Named
  text : Text
  run : List Word

def phrases : List Word → List Word × List Phrase
  | [] => ([], [])
  | .option text named :: rest =>
    let (run, others) := phrases rest
    ([], ⟨named, text, run⟩ :: others)
  | w :: rest =>
    let (run, others) := phrases rest
    (w :: run, others)

def Reading.addRun (r : Reading) (run : List Word) : Reading :=
  if run.isEmpty then r
  else
    let (filled, left, spare) := fill r.left run
    { r with filled := r.filled ++ filled, left, extras := r.extras ++ spare.map Word.text }

inductive Stop where
  | help
  | misuse (m : Misuse)

def helpFlag : Flag := ⟨["-h", "--help"], false⟩

def Reading.addPhrase (g : Grammar) (r : Reading) (p : Phrase) : Except Stop Reading :=
  match p.named with
  | .unknown => .ok ({ r with extras := r.extras ++ [p.text] }.addRun p.run)
  | .known f isLong attached =>
    let next := match p.run with
      | .argument text :: _ => some text
      | _ => none
    match settings g next f isLong attached with
    | .error m => .error (.misuse m)
    | .ok s =>
      if s.given.any fun e => e.1 == helpFlag then .error .help
      else
        let r := { r with given := r.given ++ s.given }
        .ok (r.addRun (if s.usesNext then p.run.drop 1 else p.run))

def read (g : Grammar) (args : List Text) : Except Stop Reading := do
  let ws ← (g.words args).mapError .misuse
  let (run, others) := phrases ws
  let r ← others.foldlM (Reading.addPhrase g) (Reading.addRun ⟨[], [], g.slots, []⟩ run)
  let missing := (r.left.filter (·.required)).map (·.name)
  if missing.isEmpty then return r else .error (.misuse (.missing missing))

end Grammar

end MoveSkeleton.CommandLine
