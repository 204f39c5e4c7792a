import MoveSkeleton.Proofs.Dotenv.Joining
import MoveSkeleton.Proofs.Text.Blank

/-! Files of quoted values: what is written into such a file is read from it again, however the
lines are laid out and whatever else stands between them. -/
namespace MoveSkeleton.Dotenv

open Text Entries

theorem forall_mem_of_all {p : Char → Bool} {b : Bool} {cs : List Char}
    (h : cs.all (p · == b) = true) : ∀ c ∈ cs, p c = b :=
  fun c hc => beq_iff_eq.mp (List.all_eq_true.mp h c hc)

/-- A text on one line. -/
structure Line where
  chars : List Char
  unbroken : ∀ c ∈ chars, isLineBreak c = false

/-- Blanks on one line. -/
structure Margin extends Line where
  blank : ∀ c ∈ chars, isBlank c = true

/-- A key that can be assigned to. -/
structure Key extends Line where
  ne_nil : chars ≠ []
  no_equals : '=' ∉ chars
  head : isBlank (chars.head ne_nil) = false
  last : isBlank (chars.getLast ne_nil) = false
  not_comment : chars.head ne_nil ≠ '#'
  ne_export : chars ≠ "export".toList
  not_exporting : ¬ "export ".toList <+: chars

inductive Quote where
  | single
  | double

namespace Quote

def char : Quote → Char
  | .single => '\''
  | .double => '"'

variable (q : Quote)

theorem char_eq : q.char = '\'' ∨ q.char = '"' := by
  cases q
  · exact .inl rfl
  · exact .inr rfl

theorem isBlank_char : isBlank q.char = false := by
  cases q <;> decide

theorem isLineBreak_char : isLineBreak q.char = false := by
  cases q <;> decide

/-- No blank is removed from what ends with a quote, unless it begins with one. -/
theorem stripBy_concat {front : List Char}
    (h : ∀ c ∈ (front ++ [q.char]).head?, isBlank c = false) :
    stripBy isBlank (front ++ [q.char]) = front ++ [q.char] := by
  refine stripBy_eq_self h ?_
  rw [List.getLast?_concat]
  rintro c ⟨⟩
  exact q.isBlank_char

end Quote

theorem dropExport_export (cs : List Char) : dropExport ("export ".toList ++ cs) = cs := by
  rw [dropExport, if_pos (List.isPrefixOf_iff_prefix.mpr (List.prefix_append _ _))]
  exact List.drop_left

/-- A value given to a key, and the way in which that is written. -/
structure Assignment where
  key : Key
  value : Line
  quote : Quote
  exported : Bool
  indent : Margin
  before : Margin
  after : Margin
  trailing : Margin

namespace Assignment

/-- What is assigned, between quotes. -/
def quoted (a : Assignment) : List Char :=
  a.quote.char :: (a.value.chars ++ [a.quote.char])

/-- The assignment without the word before it. -/
def body (a : Assignment) : List Char :=
  a.key.chars ++ a.before.chars ++ '=' :: (a.after.chars ++ a.quoted)

/-- The assignment from its first character to its last. -/
def core (a : Assignment) : List Char :=
  (if a.exported then "export ".toList else []) ++ a.body

def chars (a : Assignment) : List Char :=
  a.indent.chars ++ (a.core ++ a.trailing.chars)

variable (a : Assignment)

theorem unquote_quoted : unquote a.quoted = a.value.chars := by
  rw [quoted, unquote, if_pos ⟨a.quote.char_eq, List.getLast?_concat⟩, List.dropLast_concat]

theorem stripBy_quoted : stripBy isBlank (a.after.chars ++ a.quoted) = a.quoted := by
  rw [stripBy_margin_append a.after.blank, quoted, ← List.cons_append]
  refine a.quote.stripBy_concat ?_
  rintro c ⟨⟩
  exact a.quote.isBlank_char

theorem stripBy_key : stripBy isBlank (a.key.chars ++ a.before.chars) = a.key.chars := by
  rw [stripBy_append_margin a.before.blank]
  refine stripBy_eq_self ?_ ?_
  · rw [List.head?_eq_some_head a.key.ne_nil]
    rintro c ⟨⟩
    exact a.key.head
  · rw [List.getLast?_eq_some_getLast a.key.ne_nil]
    rintro c ⟨⟩
    exact a.key.last

theorem head?_core : ∀ c ∈ a.core.head?, isBlank c = false ∧ c ≠ '#' := by
  intro c hc
  cases h : a.exported with
  | true =>
    rw [core, h] at hc
    obtain rfl : 'e' = c := Option.some.inj hc
    decide
  | false =>
    have hhead : a.core.head? = some (a.key.chars.head a.key.ne_nil) := by
      simp [core, h, body, List.head?_eq_some_head a.key.ne_nil]
    obtain rfl := Option.some.inj (hhead.symm.trans hc)
    exact ⟨a.key.head, a.key.not_comment⟩

theorem stripBy_chars : stripBy isBlank a.chars = a.core := by
  obtain ⟨front, hcore⟩ : ∃ front, a.core = front ++ [a.quote.char] := by
    refine ⟨(if a.exported then "export ".toList else []) ++ (a.key.chars ++ a.before.chars ++
      '=' :: (a.after.chars ++ a.quote.char :: a.value.chars)), ?_⟩
    simp only [core, body, quoted, List.append_assoc, List.cons_append]
  rw [chars, stripBy_margin_append a.indent.blank, stripBy_append_margin a.trailing.blank, hcore]
  exact a.quote.stripBy_concat fun c hc => (a.head?_core c (hcore ▸ hc)).1

/-- The key does not make the word `export` together with what stands after it. -/
theorem not_prefix_body : ¬ "export ".toList <+: a.body := by
  rintro ⟨rest, hrest⟩
  have hword : "export ".toList ++ rest = "export".toList ++ ' ' :: rest := rfl
  rw [hword, body, List.append_assoc] at hrest
  rcases List.append_eq_append_iff.mp hrest.symm with ⟨k, hk, hrest⟩ | ⟨k, hk, hrest⟩
  -- The word goes on for `k` after the key, where only blanks and the equals sign can stand.
  · cases k with
    | nil => exact a.key.ne_export (by rw [hk, List.append_nil])
    | cons c k =>
      have hc : c ∈ "export".toList := hk ▸ List.mem_append_right _ List.mem_cons_self
      have hletters : ∀ c ∈ "export".toList, isBlank c = false := forall_mem_of_all rfl
      cases hbefore : a.before.chars with
      | nil =>
        rw [hbefore] at hrest
        exact absurd ((List.cons.inj hrest).1 ▸ hc) (by decide)
      | cons b before =>
        rw [hbefore] at hrest
        have hb := a.before.blank b (hbefore ▸ List.mem_cons_self)
        rw [(List.cons.inj hrest).1, hletters c hc] at hb
        cases hb
  -- The key goes on for `k` after the word.
  · cases k with
    | nil => exact a.key.ne_export (by rw [hk, List.append_nil])
    | cons c k =>
      refine a.key.not_exporting ⟨k, ?_⟩
      rw [hk, ← (List.cons.inj hrest).1]
      rfl

theorem dropExport_core : dropExport a.core = a.body := by
  cases h : a.exported with
  | true => rw [core, h, if_pos rfl, dropExport_export]
  | false =>
    rw [core, h, if_neg Bool.false_ne_true, List.nil_append, dropExport,
      if_neg (mt List.isPrefixOf_iff_prefix.mp a.not_prefix_body)]

theorem ne_equals : ∀ c ∈ a.key.chars ++ a.before.chars, decide (c ≠ '=') = true := by
  intro c hc
  rcases List.mem_append.mp hc with hc | hc
  · exact decide_eq_true fun he => a.key.no_equals (he ▸ hc)
  · refine decide_eq_true ?_
    rintro rfl
    exact absurd (a.before.blank _ hc) (by decide)

theorem takeWhile_body : a.body.takeWhile (· ≠ '=') = a.key.chars ++ a.before.chars := by
  rw [body, List.takeWhile_append_of_pos a.ne_equals, List.takeWhile_cons_of_neg (by simp),
    List.append_nil]

theorem dropWhile_body : a.body.dropWhile (· ≠ '=') = '=' :: (a.after.chars ++ a.quoted) := by
  rw [body, List.dropWhile_append_of_pos a.ne_equals, List.dropWhile_cons_of_neg (by simp)]

/-- What is assigned is read as it was meant. -/
theorem assignment?_chars : assignment? a.chars = some (a.key.chars, a.value.chars) := by
  have hline : ¬ (a.core.head? = some '#' ∨ '=' ∉ a.core) := by
    rintro (hhead | hequals)
    · exact (a.head?_core _ hhead).2 rfl
    · exact hequals (List.mem_append_right _ (List.mem_append_right _ List.mem_cons_self))
  have hkey : ¬ a.key.chars.isEmpty = true := mt List.isEmpty_iff.mp a.key.ne_nil
  simp only [assignment?, stripBy_chars, dropExport_core, takeWhile_body, dropWhile_body,
    stripBy_key, List.drop_succ_cons, List.drop_zero, stripBy_quoted, unquote_quoted, if_neg hline,
    if_neg hkey]

theorem unbroken : ∀ c ∈ a.chars, isLineBreak c = false := by
  have hquote := a.quote.isLineBreak_char
  have hword : ∀ c ∈ "export ".toList, isLineBreak c = false := forall_mem_of_all rfl
  have hcore : ∀ c ∈ a.core, isLineBreak c = false := by
    have hbody : ∀ c ∈ a.body, isLineBreak c = false := by
      simp only [body, quoted, List.forall_mem_append, List.forall_mem_cons]
      exact ⟨⟨a.key.unbroken, a.before.unbroken⟩, by decide, a.after.unbroken, hquote,
        a.value.unbroken, hquote, nofun⟩
    rw [core, List.forall_mem_append]
    refine ⟨?_, hbody⟩
    split
    · exact hword
    · exact fun c hc => absurd hc List.not_mem_nil
  simp only [chars, List.forall_mem_append]
  exact ⟨a.indent.unbroken, hcore, a.trailing.unbroken⟩

end Assignment

/-- A line of a file: an assignment, or one of those that are passed over. A blank line is one
without an equals sign. -/
inductive Row where
  | assigns (a : Assignment)
  | comment (indent : Margin) (text : Line)
  | other (text : Line) (no_equals : '=' ∉ text.chars)

namespace Row

def chars : Row → List Char
  | .assigns a => a.chars
  | .comment indent text => indent.chars ++ '#' :: text.chars
  | .other text _ => text.chars

/-- The key and the value that were meant. -/
def entry? : Row → Option (List Char × List Char)
  | .assigns a => some (a.key.chars, a.value.chars)
  | .comment .. | .other .. => none

theorem unbroken (r : Row) : ∀ c ∈ r.chars, isLineBreak c = false := by
  cases r with
  | assigns a => exact a.unbroken
  | comment indent text =>
    rw [chars, List.forall_mem_append, List.forall_mem_cons]
    exact ⟨indent.unbroken, by decide, text.unbroken⟩
  | other text no_equals => exact text.unbroken

theorem assignment?_chars (r : Row) : assignment? r.chars = r.entry? := by
  cases r with
  | assigns a => exact a.assignment?_chars
  | comment indent text =>
    have hhead : (stripBy isBlank ('#' :: text.chars)).head? = some '#' :=
      head?_stripBy_cons (by decide)
    rw [chars, assignment?, stripBy_margin_append indent.blank]
    exact if_pos (.inl hhead)
  | other text no_equals => exact if_pos (.inr (mt mem_of_mem_stripBy no_equals))

end Row

/-- What ends a line: one of the breaks, or a carriage return and a line feed. -/
inductive Ending where
  | single (c : Char) (isBreak : isLineBreak c = true)
  | returnFeed

def Ending.chars : Ending → List Char
  | .single c _ => [c]
  | .returnFeed => ['\r', '\n']

/-- Lines with their endings, and perhaps a last line without one. -/
def written (last : Option Row) : List (Row × Ending) → List Char
  | [] => (last.map Row.chars).getD []
  | (row, ending) :: rows => row.chars ++ (ending.chars ++ written last rows)

/-- The entries that were meant, in the order of their lines. -/
def entries (last : Option Row) (rows : List (Row × Ending)) : List (List Char × List Char) :=
  (rows.map (·.1) ++ last.toList).filterMap Row.entry?

variable {last : Option Row} {rows : List (Row × Ending)}

theorem assigned_row (r : Row) : assigned r.chars = r.entry?.toList := by
  rw [assigned_of_unbroken r.unbroken, r.assignment?_chars]

theorem assigned_row_append (r : Row) (e : Ending) (t : List Char) :
    assigned (r.chars ++ (e.chars ++ t)) = r.entry?.toList ++ assigned t := by
  cases e with
  | single c hc =>
    change assigned (r.chars ++ c :: t) = _
    rw [assigned_append hc, assigned_row]
  | returnFeed =>
    change assigned (r.chars ++ '\r' :: ([] ++ '\n' :: t)) = _
    rw [assigned_append rfl, assigned_append rfl, assigned_row]
    rfl

theorem assigned_written : assigned (written last rows) = entries last rows := by
  induction rows with
  | nil =>
    cases last with
    | none => rfl
    | some row =>
      rw [written, Option.map_some, Option.getD_some, assigned_row]
      cases h : row.entry? <;> simp [entries, h]
  | cons e rows ih =>
    obtain ⟨row, ending⟩ := e
    rw [written, assigned_row_append, ih]
    cases h : row.entry? <;> simp [entries, h]

end MoveSkeleton.Dotenv

namespace MoveSkeleton.Token

open Dotenv Entries

variable {access : Access} {d : Disk} {f : Path} {last : Option Row} {rows : List (Row × Ending)}

/-- A file of quoted values assigns to each key the value of its last entry, and has the keys in the
order in which they first come. -/
theorem assignments_of_written (hf : d.HoldsText access f (written last rows)) :
    ∃ r, assignments access d f = .ok r ∧ keys r = ((entries last rows).map (·.1)).eraseDups ∧
      ∀ k v, get? r k = some v ↔ ∃ before after,
        entries last rows = before ++ (k, v) :: after ∧ k ∉ after.map (·.1) := by
  refine ⟨_, assignments_of_holdsText hf, ?_, fun k v => ?_⟩
  · rw [load_eq_ofList, assigned_written, keys_ofList]
  · rw [load_eq_ofList, assigned_written]
    exact get?_ofList_eq_some_iff

namespace Sample

def name : Key where
  chars := "A".toList
  unbroken := forall_mem_of_all rfl
  ne_nil := by decide
  no_equals := by decide
  head := by decide
  last := by decide
  not_comment := by decide
  ne_export := by decide
  not_exporting := by decide

def blanks : Margin := ⟨⟨" \t".toList, forall_mem_of_all rfl⟩, forall_mem_of_all rfl⟩

/-- An assignment to the one key, with blanks wherever they can stand. -/
def assigning (value : Line) (quote : Quote) (exported : Bool) : Row :=
  .assigns ⟨name, value, quote, exported, blanks, blanks, blanks, blanks⟩

/-- Two values for the key, the first quoted itself and the second empty, with a comment between
them and a line that is passed over at the end. -/
def twice : List (Row × Ending) :=
  [(assigning ⟨"'#a=b '".toList, forall_mem_of_all rfl⟩ .single true, .returnFeed),
    (.comment blanks ⟨"A=1".toList, forall_mem_of_all rfl⟩, .single '\x0b' rfl),
    (assigning ⟨[], forall_mem_of_all rfl⟩ .double false, .single '\u2028' rfl)]

def rest : Row := .other ⟨"'".toList, forall_mem_of_all rfl⟩ (by decide)

end Sample

theorem assignments_of_written_twice :
    let d := Disk.ofTexts [("f", written (some Sample.rest) Sample.twice)]
    let es := entries (some Sample.rest) Sample.twice
    d.HoldsText {} ⟨.here, ["f"]⟩ (written (some Sample.rest) Sample.twice) ∧
      es = [("A".toList, "'#a=b '".toList), ("A".toList, [])] ∧
      ∃ r, assignments {} d ⟨.here, ["f"]⟩ = .ok r ∧ keys r = (es.map (·.1)).eraseDups ∧
        ∀ k v, get? r k = some v ↔ ∃ before after,
          es = before ++ (k, v) :: after ∧ k ∉ after.map (·.1) :=
  ⟨rfl, rfl, assignments_of_written rfl⟩

end MoveSkeleton.Token
