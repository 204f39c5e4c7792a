/-! The distinct members of a list. -/
namespace MoveSkeleton.Resolution

variable {α : Type} [DecidableEq α]

def distinct : List α → List α
  | [] => []
  | a :: rest => if a ∈ distinct rest then distinct rest else a :: distinct rest

@[simp] theorem mem_distinct {a : α} {l : List α} : a ∈ distinct l ↔ a ∈ l := by
  induction l with
  | nil => simp [distinct]
  | cons b rest ih =>
    by_cases hb : b ∈ distinct rest
    · simp only [distinct, hb, if_true, List.mem_cons, ih]
      exact ⟨.inr, fun h => h.elim (fun e => e ▸ ih.mp (by simpa [e] using hb)) id⟩
    · simp [distinct, hb, ih]

theorem nodup_distinct (l : List α) : (distinct l).Nodup := by
  induction l with
  | nil => simp [distinct]
  | cons b rest ih =>
    by_cases hb : b ∈ distinct rest
    · simpa [distinct, hb] using ih
    · rw [distinct, if_neg hb]
      exact List.nodup_cons.mpr ⟨hb, ih⟩

theorem length_le_of_nodup_of_subset {l m : List α} (hl : l.Nodup) (h : ∀ a ∈ l, a ∈ m) :
    l.length ≤ m.length := by
  induction l generalizing m with
  | nil => simp
  | cons a rest ih =>
    rw [List.nodup_cons] at hl
    have ha : a ∈ m := h a (by simp)
    have hr : ∀ b ∈ rest, b ∈ m.erase a := fun b hb =>
      (List.mem_erase_of_ne (by rintro rfl; exact hl.1 hb)).mpr (h b (by simp [hb]))
    have := ih hl.2 hr
    have := List.length_erase_of_mem ha
    have := List.length_pos_of_mem ha
    simp only [List.length_cons]
    omega

theorem length_distinct_le {l m : List α} (h : ∀ a ∈ l, a ∈ m) :
    (distinct l).length ≤ (distinct m).length :=
  length_le_of_nodup_of_subset (nodup_distinct l) (by simpa using h)

theorem length_distinct_lt {l m : List α} {x : α} (h : ∀ a ∈ l, a ∈ m) (hx : x ∈ m) (hn : x ∉ l) :
    (distinct l).length < (distinct m).length := by
  have hnodup : (x :: distinct l).Nodup := by
    simpa only [List.nodup_cons, mem_distinct] using ⟨hn, nodup_distinct l⟩
  have hsub : ∀ a ∈ x :: distinct l, a ∈ distinct m := by
    intro a ha
    rw [mem_distinct]
    rcases List.mem_cons.mp ha with rfl | ha
    · exact hx
    · exact h a (mem_distinct.mp ha)
  exact length_le_of_nodup_of_subset hnodup hsub

end MoveSkeleton.Resolution
