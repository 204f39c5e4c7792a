import MoveSkeleton.Json.Token

/-! JSON values read from text. -/
namespace MoveSkeleton.Json

/-- A container part way through, its newest member first. An object waits for the value of the
field `name`. -/
inductive Frame where
  | list (done : List Json)
  | object (done : List (Text × Json)) (name : Text)

/-- What the text so far calls for. A name or a value that follows an opening bracket may also be
the closing one. -/
inductive Awaited where
  | value
  | valueOrClose
  | name (done : List (Text × Json))
  | nameOrClose
  | colon (done : List (Text × Json)) (name : Text)
  | separator
  | nothing (read : Json)

structure Progress where
  frames : List Frame
  awaited : Awaited

namespace Progress

def lapse (p : Progress) : Lapse :=
  match p.awaited with
  | .value | .valueOrClose => .value
  | .name _ | .nameOrClose => .propertyName
  | .colon _ _ => .colon
  | .separator => .comma
  | .nothing _ => .extraData

def finish (frames : List Frame) (v : Json) : Progress :=
  match frames with
  | [] => ⟨[], .nothing v⟩
  | .list done :: outer => ⟨.list (v :: done) :: outer, .separator⟩
  | .object done name :: outer => ⟨.object ((name, v) :: done) name :: outer, .separator⟩

/-- The next state, if the symbol is one that the text calls for. Of two fields with one name the
later gives the value and the earlier the place. -/
def next? (p : Progress) (x : Symbol) : Option Progress :=
  match p.awaited, x with
  | .value, .value v | .valueOrClose, .value v => some (finish p.frames v)
  | .value, .text s | .valueOrClose, .text s => some (finish p.frames (.text s))
  | .value, .openList | .valueOrClose, .openList => some ⟨.list [] :: p.frames, .valueOrClose⟩
  | .value, .openObject | .valueOrClose, .openObject => some ⟨p.frames, .nameOrClose⟩
  | .valueOrClose, .closeList => some (finish (p.frames.drop 1) (.list []))
  | .name done, .text s => some ⟨p.frames, .colon done s⟩
  | .nameOrClose, .text s => some ⟨p.frames, .colon [] s⟩
  | .nameOrClose, .closeObject => some (finish p.frames (.object []))
  | .colon done s, .colon => some ⟨.object done s :: p.frames, .value⟩
  | .separator, x =>
    match p.frames, x with
    | .list _ :: _, .comma => some ⟨p.frames, .value⟩
    | .list done :: outer, .closeList => some (finish outer (.list done.reverse))
    | .object done _ :: outer, .comma => some ⟨outer, .name done⟩
    | .object done _ :: outer, .closeObject =>
      some (finish outer (.object (Entries.ofList done.reverse)))
    | _, _ => none
  | _, _ => none

def maxDepth : Nat := 985

def opened? : Symbol → Option Container
  | .openList => some .list
  | .openObject => some .object
  | _ => none

def step (p : Progress) (t : Token) : Except Stop Progress :=
  match p.next? t.symbol with
  | some q =>
    match opened? t.symbol with
    | some container =>
      if p.frames.length < maxDepth then .ok q else .error (.tooDeep container)
    | none => .ok q
  | none =>
    match p.awaited, t.symbol with
    | .value, .brokenValue stop | .valueOrClose, .brokenValue stop
    | .value, .brokenText stop | .valueOrClose, .brokenText stop
    | .name _, .brokenText stop | .nameOrClose, .brokenText stop => .error stop
    | _, _ => .error (.lapse p.lapse t.start)

end Progress

/-- Where and why a text is no JSON value. Lines and columns count from one, offsets from zero. -/
inductive ReadFault where
  | lapse (what : Lapse) (line column offset : Nat)
  | tooLong (digits : Nat)
  | tooDeep (container : Container)
  deriving DecidableEq

def Stop.locate (s : List CodePoint) : Stop → ReadFault
  | .tooLong digits => .tooLong digits
  | .tooDeep container => .tooDeep container
  | .lapse what rest =>
    let offset := s.length - rest.length
    let before := s.take offset
    let line := 1 + before.count (.char '\n')
    let column := 1 + (before.reverse.takeWhile (· != .char '\n')).length
    .lapse what line column offset

def read (t : Text) : Except ReadFault Json :=
  match (Token.ofPoints t.points).foldlM Progress.step ⟨[], .value⟩ with
  | .error stop => .error (stop.locate t.points)
  | .ok p =>
    match p.awaited with
    | .nothing v => .ok v
    | _ => .error (Stop.locate t.points (.lapse p.lapse []))

end MoveSkeleton.Json
