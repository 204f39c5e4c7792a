import Mathlib.Data.List.Forall2
import MoveSkeleton.Results

/-! Lists that are read item by item: the results of the items when that of the list is known. -/
namespace MoveSkeleton

variable {ε α β : Type} {f : α → Except ε β} {xs : List α} {ys : List β} {e : ε}

/-- A list is read item by item. -/
theorem mapM_eq_ok_iff : xs.mapM f = .ok ys ↔ List.Forall₂ (fun x y => f x = .ok y) xs ys := by
  induction xs generalizing ys with
  | nil =>
    rw [List.mapM_nil, List.forall₂_nil_left_iff]
    exact ⟨fun h => (Except.ok.inj h).symm, fun h => h ▸ rfl⟩
  | cons x xs ih =>
    simp only [List.mapM_cons, bind_eq_ok_iff, ih, List.forall₂_cons_left_iff]
    constructor
    · rintro ⟨y, hy, ys, hys, h⟩
      exact ⟨y, ys, hy, hys, (Except.ok.inj h).symm⟩
    · rintro ⟨y, ys, hy, hys, rfl⟩
      exact ⟨y, hy, ys, hys, rfl⟩

theorem exists_forall₂_iff {R : α → β → Prop} :
    (∃ ys, List.Forall₂ R xs ys) ↔ ∀ x ∈ xs, ∃ y, R x y := by
  induction xs with
  | nil => exact ⟨fun _ _ h => absurd h List.not_mem_nil, fun _ => ⟨[], .nil⟩⟩
  | cons x xs ih =>
    rw [List.forall_mem_cons, ← ih]
    constructor
    · rintro ⟨ys, h⟩
      obtain ⟨y, ys, hy, hys, rfl⟩ := List.forall₂_cons_left_iff.mp h
      exact ⟨⟨y, hy⟩, ys, hys⟩
    · rintro ⟨⟨y, hy⟩, ys, hys⟩
      exact ⟨y :: ys, .cons hy hys⟩

/-- A list is read if every item is, and then of each it is known what is known of the items. -/
theorem exists_mapM {Q : β → Prop} (h : ∀ x ∈ xs, ∃ y, f x = .ok y ∧ Q y) :
    ∃ ys, xs.mapM f = .ok ys ∧ ∀ y ∈ ys, Q y := by
  induction xs with
  | nil => exact ⟨[], rfl, nofun⟩
  | cons x xs ih =>
    rw [List.forall_mem_cons] at h
    obtain ⟨⟨y, hy, hq⟩, hxs⟩ := h
    obtain ⟨ys, hys, hall⟩ := ih hxs
    refine ⟨y :: ys, ?_, List.forall_mem_cons.mpr ⟨hq, hall⟩⟩
    rw [List.mapM_cons, hy, hys]
    rfl

/-- A fold fails at the first member where a step does. -/
theorem foldlM_eq_error_iff {σ : Type} {g : σ → α → Except ε σ} {s : σ} :
    xs.foldlM g s = .error e ↔ ∃ before x after t,
      xs = before ++ x :: after ∧ before.foldlM g s = .ok t ∧ g t x = .error e := by
  induction xs generalizing s with
  | nil =>
    refine ⟨nofun, ?_⟩
    rintro ⟨before, x, after, t, hxs, -⟩
    exact absurd hxs (by simp)
  | cons x xs ih =>
    rw [List.foldlM_cons, bind_eq_error_iff]
    constructor
    · rintro (h | ⟨t, hx, h⟩)
      · exact ⟨[], x, xs, s, rfl, rfl, h⟩
      · obtain ⟨before, y, after, u, rfl, hbefore, hy⟩ := ih.mp h
        exact ⟨x :: before, y, after, u, rfl, bind_eq_ok_iff.mpr ⟨t, hx, hbefore⟩, hy⟩
    · rintro ⟨before, y, after, u, hxs, hbefore, hy⟩
      cases before with
      | nil =>
        obtain ⟨rfl, rfl⟩ := List.cons.inj hxs
        obtain rfl := Except.ok.inj hbefore
        exact .inl hy
      | cons z before =>
        obtain ⟨rfl, rfl⟩ := List.cons.inj hxs
        obtain ⟨t, hx, hbefore⟩ := bind_eq_ok_iff.mp hbefore
        exact .inr ⟨t, hx, ih.mpr ⟨before, y, after, u, rfl, hbefore, hy⟩⟩

/-- A list is refused for one of its items. -/
theorem exists_error_of_mapM (h : xs.mapM f = .error e) :
    ∃ x ∈ xs, f x = .error e := by
  induction xs with
  | nil => cases h
  | cons x xs ih =>
    rw [List.mapM_cons] at h
    rcases bind_eq_error_iff.mp h with h | ⟨y, -, h⟩
    · exact ⟨x, List.mem_cons_self, h⟩
    · rcases bind_eq_error_iff.mp h with h | ⟨ys, -, h⟩
      · obtain ⟨z, hz, h⟩ := ih h
        exact ⟨z, List.mem_cons_of_mem _ hz, h⟩
      · cases h

theorem mapM_ne_error (h : ∀ x, f x ≠ .error e) :
    xs.mapM f ≠ .error e := by
  intro hxs
  obtain ⟨x, -, hx⟩ := exists_error_of_mapM hxs
  exact h x hx

end MoveSkeleton
