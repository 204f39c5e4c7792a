import Mathlib.Data.List.TakeWhile
import MoveSkeleton.Text.Blank

/-! What is left of a text when the blanks at its ends are removed. -/
namespace MoveSkeleton.Text

variable {α : Type}

/-- Neither the first member nor the last satisfies `p`. -/
structure Bare (p : α → Bool) (cs : List α) : Prop where
  head : ∀ c ∈ cs.head?, p c = false
  last : ∀ c ∈ cs.getLast?, p c = false

/-- `core` is `cs` without the members at its ends that satisfy `p`. -/
structure Strips (p : α → Bool) (cs core : List α) : Prop extends Bare p core where
  whole : ∃ before after, cs = before ++ (core ++ after) ∧ (∀ c ∈ before, p c = true) ∧
    ∀ c ∈ after, p c = true

variable {p : α → Bool} {margin cs core : List α}

theorem stripBy_margin_append (h : ∀ c ∈ margin, p c = true) :
    stripBy p (margin ++ cs) = stripBy p cs := by
  rw [stripBy, List.dropWhile_append_of_pos h, stripBy]

theorem stripBy_append_margin (h : ∀ c ∈ margin, p c = true) :
    stripBy p (cs ++ margin) = stripBy p cs := by
  have hdrop : margin.dropWhile p = [] := List.dropWhile_eq_nil_iff.mpr h
  by_cases hcs : (cs.dropWhile p).isEmpty = true
  · have hnil : cs.dropWhile p = [] := List.isEmpty_iff.mp hcs
    simp [stripBy, List.dropWhile_append, hnil, hdrop]
  · have hreverse : ∀ c ∈ margin.reverse, p c = true := fun c hc => h c (List.mem_reverse.mp hc)
    rw [stripBy, List.dropWhile_append, if_neg hcs, List.reverse_append,
      List.dropWhile_append_of_pos hreverse, stripBy]

/-- A text that neither begins nor ends with a blank stays as it is. -/
theorem stripBy_eq_self (hhead : ∀ c ∈ cs.head?, p c = false)
    (hlast : ∀ c ∈ cs.getLast?, p c = false) : stripBy p cs = cs := by
  have hdrop : ∀ {cs : List α}, (∀ c ∈ cs.head?, p c = false) → cs.dropWhile p = cs := by
    intro cs h
    cases cs with
    | nil => rfl
    | cons c cs => exact List.dropWhile_cons_of_neg (by simp [h c rfl])
  rw [stripBy, hdrop hhead, hdrop (by rwa [List.head?_reverse]), List.reverse_reverse]

theorem head?_stripBy_cons {c : α} (h : p c = false) : (stripBy p (c :: cs)).head? = some c := by
  rw [stripBy, List.dropWhile_cons_of_neg (by simp [h]), List.reverse_cons, List.dropWhile_append]
  split
  · simp [h]
  · simp

private theorem head?_dropWhile (p : α → Bool) (cs : List α) :
    ∀ c ∈ (cs.dropWhile p).head?, p c = false := by
  intro c hc
  have h := List.head?_dropWhile_not p cs
  rwa [Option.mem_def.mp hc] at h

theorem strips_stripBy (p : α → Bool) (cs : List α) : Strips p cs (stripBy p cs) := by
  have hright : cs.dropWhile p =
      stripBy p cs ++ ((cs.dropWhile p).reverse.takeWhile p).reverse := by
    rw [stripBy, ← List.reverse_append, List.takeWhile_append_dropWhile, List.reverse_reverse]
  refine ⟨⟨?_, ?_⟩, cs.takeWhile p, ((cs.dropWhile p).reverse.takeWhile p).reverse, ?_, ?_, ?_⟩
  · intro c hc
    refine head?_dropWhile p cs c ?_
    rw [hright, List.head?_append, Option.mem_def.mp hc]
    rfl
  · rw [stripBy, List.getLast?_reverse]
    exact head?_dropWhile p _
  · rw [← hright, List.takeWhile_append_dropWhile]
  · exact fun c hc => List.mem_takeWhile_imp hc
  · exact fun c hc => List.mem_takeWhile_imp (List.mem_reverse.mp hc)

theorem stripBy_eq_iff : stripBy p cs = core ↔ Strips p cs core := by
  constructor
  · rintro rfl
    exact strips_stripBy p cs
  · rintro ⟨⟨hhead, hlast⟩, before, after, rfl, hbefore, hafter⟩
    rw [stripBy_margin_append hbefore, stripBy_append_margin hafter, stripBy_eq_self hhead hlast]

theorem stripBy_eq_nil_iff : stripBy p cs = [] ↔ ∀ c ∈ cs, p c = true := by
  constructor
  · intro h
    obtain ⟨before, after, hcs, hbefore, hafter⟩ := (stripBy_eq_iff.mp h).whole
    rw [hcs, List.nil_append, List.forall_mem_append]
    exact ⟨hbefore, hafter⟩
  · intro h
    exact stripBy_eq_iff.mpr ⟨⟨by simp, by simp⟩, cs, [], by simp, h, by simp⟩

theorem mem_of_mem_stripBy {c : α} (h : c ∈ stripBy p cs) : c ∈ cs := by
  have hdrop := (List.dropWhile_sublist p).subset (List.mem_reverse.mp h)
  exact (List.dropWhile_sublist p).subset (List.mem_reverse.mp hdrop)

end MoveSkeleton.Text
