import MoveSkeleton.Proofs.Text.Sections

/-! Lines and line breaks: the lines of a text are what stands between its breaks, but for empty
ones, and it does not matter which of the breaks end them. -/
namespace MoveSkeleton.Text

variable {cs rest : List Char} {c : Char}

theorem lines_of_isLineBreak (hc : isLineBreak c) (h : c = '\r' → rest.head? ≠ some '\n') :
    lines (c :: rest) = [] :: lines rest := by
  rw [lines, if_pos hc]
  rintro rest rfl rfl
  exact h rfl rfl

theorem lines_of_not_isLineBreak (hc : isLineBreak c = false) :
    lines (c :: rest) = (c :: (lines rest).headD []) :: (lines rest).tail := by
  rw [lines, if_neg (by simp [hc])]
  · cases lines rest <;> rfl
  · rintro rest rfl -
    exact absurd hc (by decide)

/-- The pieces are the lines, but for pieces of which `f` makes nothing. An empty first piece stands
for no line. -/
def SamePieces {β : Type} (f : List Char → Option β) (pieces ls : List (List Char)) : Prop :=
  ∃ others, pieces = ls.headD [] :: others ∧ others.filterMap f = ls.tail.filterMap f

section
variable {β : Type} {f : List Char → Option β} {pieces ls : List (List Char)}

theorem SamePieces.filterMap_eq (h : SamePieces f pieces ls) (hf : f [] = none) :
    pieces.filterMap f = ls.filterMap f := by
  obtain ⟨others, rfl, hothers⟩ := h
  cases ls with
  | nil => rwa [List.headD_nil, List.filterMap_cons_none hf]
  | cons line ls => rw [List.headD_cons, List.filterMap_cons, List.filterMap_cons, hothers]; rfl

theorem samePieces_lines (hf : f [] = none) (cs : List Char) :
    SamePieces f (sections isLineBreak cs) (lines cs) := by
  have hextend : ∀ {c : Char} {rest : List Char}, isLineBreak c = false →
      SamePieces f (sections isLineBreak rest) (lines rest) →
      SamePieces f (sections isLineBreak (c :: rest)) (lines (c :: rest)) := by
    rintro c rest hc ⟨others, hrest, hothers⟩
    refine ⟨others, ?_, ?_⟩
    · simp [sections, hc, hrest, lines_of_not_isLineBreak hc]
    · rw [hothers, lines_of_not_isLineBreak hc, List.tail_cons]
  induction cs using lines.induct with
  | case1 => exact ⟨[], rfl, rfl⟩
  | case2 rest ih =>
    refine ⟨[] :: sections isLineBreak rest, by simp [sections, lines, isLineBreak], ?_⟩
    rw [List.filterMap_cons_none hf, ih.filterMap_eq hf, lines_return_feed, List.tail_cons]
  | case3 c rest hnot hc ih =>
    have hlines : lines (c :: rest) = [] :: lines rest :=
      lines_of_isLineBreak hc fun hr hfeed => by
        obtain ⟨rest, rfl⟩ := List.head?_eq_some_iff.mp hfeed
        exact hnot rest hr rfl
    refine ⟨sections isLineBreak rest, by simp [sections, hlines, hc], ?_⟩
    rw [ih.filterMap_eq hf, hlines, List.tail_cons]
  | case4 c rest _ hc _ ih => exact hextend (eq_false_of_ne_true hc) ih
  | case5 c rest _ hc _ _ _ ih => exact hextend (eq_false_of_ne_true hc) ih

/-- Whatever is made of the lines one by one, but nothing of an empty one, is made of what stands
between the breaks. -/
theorem filterMap_lines (hf : f [] = none) (cs : List Char) :
    (lines cs).filterMap f = (sections isLineBreak cs).filterMap f :=
  ((samePieces_lines hf cs).filterMap_eq hf).symm

end

/-- A text that is read with its line breaks made equal has the lines that it had. -/
theorem lines_withFeeds (cs : List Char) : lines (withFeeds cs) = lines cs := by
  induction cs using withFeeds.induct with
  | case1 => rfl
  | case2 rest ih => rw [withFeeds, lines_feed, lines_return_feed, ih]
  | case3 c rest hnot ih =>
    have hhead : rest.head? = some '\n' → c ≠ '\r' := fun hfeed hc => by
      obtain ⟨rest, rfl⟩ := List.head?_eq_some_iff.mp hfeed
      exact hnot rest hc rfl
    rw [withFeeds.eq_3 _ _ hnot]
    by_cases hc : c = '\r'
    · rw [if_pos hc, lines_feed, ih, lines_of_isLineBreak (hc ▸ rfl) fun h hfeed => hhead hfeed h]
    · rw [if_neg hc]
      by_cases hb : isLineBreak c = true
      · rw [lines_of_isLineBreak hb fun h => absurd h hc, ih,
          lines_of_isLineBreak hb fun h => absurd h hc]
      · rw [lines_of_not_isLineBreak (eq_false_of_ne_true hb), ih,
          lines_of_not_isLineBreak (eq_false_of_ne_true hb)]

end MoveSkeleton.Text
