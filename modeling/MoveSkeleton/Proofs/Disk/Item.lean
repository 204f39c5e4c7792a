import Mathlib.Data.List.Induction
import Mathlib.Logic.Function.Basic
import MoveSkeleton.Disk.Basic

/-! What stands on a disk, location by location: a file with its content, or a folder. -/
namespace MoveSkeleton

/-- A location and what stands there, the content of a file or nothing for a folder. -/
abbrev DiskItem := Location × Option ByteArray

namespace Tree

def content? : Tree → Option ByteArray
  | .file content => some content
  | .folder _ => none

def item? (t : Tree) (l : Location) : Option (Option ByteArray) :=
  (t.get? l).map content?

@[simp] theorem item?_nil (t : Tree) : t.item? [] = some t.content? := by simp [item?]

@[simp] theorem item?_file_cons (content : ByteArray) (name : Text) (l : Location) :
    (Tree.file content).item? (name :: l) = none := rfl

theorem item?_folder_cons (members : List (Text × Tree)) (name : Text) (l : Location) :
    (Tree.folder members).item? (name :: l) =
      (Entries.get? members name).bind (·.item? l) := by
  simp only [item?, get?]
  cases Entries.get? members name <;> rfl

@[simp] theorem item?_empty_cons (name : Text) (l : Location) :
    empty.item? (name :: l) = none := rfl

/-- What stands below a location stands below the tree at that location. -/
theorem item?_append (t : Tree) (l k : Location) :
    t.item? (l ++ k) = (t.get? l).bind (·.item? k) := by
  induction l generalizing t with
  | nil => simp
  | cons name rest ih =>
    cases t with
    | file content => rfl
    | folder members =>
      rw [List.cons_append, item?_folder_cons, get?]
      cases Entries.get? members name with
      | none => rfl
      | some t => exact ih t

/-- Only folders have anything below them. -/
theorem item?_eq_folder_of_isSome {t : Tree} {l k : Location} (hk : k ≠ [])
    (h : (t.item? (l ++ k)).isSome) : t.item? l = some none := by
  rw [item?_append] at h
  unfold item?
  cases hl : t.get? l with
  | none => simp [hl] at h
  | some u =>
    cases u with
    | folder members => rfl
    | file content =>
      obtain ⟨name, rest, rfl⟩ := List.exists_cons_of_ne_nil hk
      simp [hl] at h

/-- Where a folder is there to hold it, what is put at a location replaces what was at and below
that location, and nothing else changes. -/
theorem item?_put {t new : Tree} {l : Location} (hl : l ≠ [])
    (hp : t.item? l.dropLast = some none) (k : Location) :
    (t.put l new).item? k = if l <+: k then new.item? (k.drop l.length) else t.item? k := by
  induction l generalizing t k with
  | nil => exact absurd rfl hl
  | cons name rest ih =>
    cases t with
    | file content => cases rest <;> simp [content?] at hp
    | folder members =>
      cases k with
      | nil => simp [put, content?]
      | cons name' k' =>
        rw [put, item?_folder_cons, Entries.get?_put, item?_folder_cons]
        by_cases hn : name' = name
        · subst hn
          simp only [if_true, Option.bind_some, List.cons_prefix_cons, true_and,
            List.length_cons, List.drop_succ_cons]
          cases rest with
          | nil => simp [put]
          | cons a rest' =>
            rw [List.dropLast_cons_of_ne_nil (by simp), item?_folder_cons] at hp
            cases hm : Entries.get? members name' with
            | none => simp [hm] at hp
            | some u =>
              rw [hm] at hp
              exact ih (by simp) hp k'
        · simp [hn, Ne.symm hn]

/-- What stands in a tree once something has been put there stood there before, lies on the way to
what was put, or belongs to it. -/
theorem isSome_of_put {t new : Tree} {l k : Location} (h : ((t.put l new).item? k).isSome) :
    (t.item? k).isSome ∨ k <+: l ∨ ∃ k', k = l ++ k' ∧ (new.item? k').isSome := by
  induction l generalizing t k with
  | nil => exact .inr (.inr ⟨k, rfl, h⟩)
  | cons name rest ih =>
    cases t with
    | file content => exact .inl h
    | folder members =>
      cases k with
      | nil => exact .inr (.inl List.nil_prefix)
      | cons name' k' =>
        rw [put, item?_folder_cons, Entries.get?_put] at h
        rw [item?_folder_cons]
        by_cases hn : name' = name
        · subst hn
          rw [if_pos rfl, Option.bind_some] at h
          rcases ih h with h | hpre | ⟨m, rfl, hm⟩
          · cases hu : Entries.get? members name' with
            | none =>
              rw [hu] at h
              cases k' with
              | nil => exact .inr (.inl (by simp))
              | cons => cases h
            | some u =>
              rw [hu] at h
              exact .inl h
          · exact .inr (.inl (List.cons_prefix_cons.mpr ⟨rfl, hpre⟩))
          · exact .inr (.inr ⟨m, rfl, hm⟩)
        · rw [if_neg hn] at h
          exact .inl h

private theorem lookup_filter (members : List (Text × Tree)) (name k : Text) :
    Entries.get? (members.filter fun e => e.1 ≠ name) k =
      if k = name then none else Entries.get? members k := by
  induction members with
  | nil => simp [Entries.get?]
  | cons e rest ih =>
    obtain ⟨key, u⟩ := e
    simp only [Entries.get?] at ih ⊢
    by_cases hk : key = name
    · subst hk
      by_cases h : k = key
      · simpa [h] using ih
      · have hb : (k == key) = false := beq_eq_false_iff_ne.mpr h
        simpa [h, hb, List.lookup_cons] using ih
    · by_cases h : k = key
      · subst h
        simp [hk]
      · have hb : (k == key) = false := beq_eq_false_iff_ne.mpr h
        simpa [hk, hb, List.lookup_cons] using ih

/-- Erasing takes away what stands at and below a location. -/
theorem item?_erase {t : Tree} {l : Location} (hl : l ≠ []) (k : Location) :
    (t.erase l).item? k = if l <+: k then none else t.item? k := by
  induction l generalizing t k with
  | nil => exact absurd rfl hl
  | cons name rest ih =>
    cases t with
    | file content =>
      cases k with
      | nil => cases rest <;> simp [erase]
      | cons name' k' => cases rest <;> simp [erase]
    | folder members =>
      cases rest with
      | nil =>
        cases k with
        | nil => simp [erase, content?]
        | cons name' k' =>
          rw [erase, item?_folder_cons, lookup_filter, item?_folder_cons]
          by_cases hn : name' = name
          · simp [hn]
          · simp [hn, Ne.symm hn]
      | cons a rest' =>
        simp only [erase]
        cases hm : Entries.get? members name with
        | none =>
          dsimp only
          split
          · next h =>
            obtain ⟨m, rfl⟩ := h
            rw [List.cons_append, item?_folder_cons, hm, Option.bind_none]
          · rfl
        | some u =>
          cases k with
          | nil => simp [content?]
          | cons name' k' =>
            dsimp only
            rw [item?_folder_cons, Entries.get?_put, item?_folder_cons]
            by_cases hn : name' = name
            · subst hn
              simp only [if_true, Option.bind_some, hm, List.cons_prefix_cons, true_and]
              exact ih (by simp) k'
            · simp [hn, Ne.symm hn]

end Tree

namespace Disk

def item? (d : Disk) (l : Location) : Option (Option ByteArray) :=
  d.root.item? l

theorem item?_eq_folder_of_isSome {d : Disk} {l k : Location} (hk : k ≠ [])
    (h : (d.item? (l ++ k)).isSome) : d.item? l = some none :=
  Tree.item?_eq_folder_of_isSome hk h

theorem get?_isSome (d : Disk) (l : Location) : (d.root.get? l).isSome = (d.item? l).isSome := by
  simp [item?, Tree.item?]

/-- What stands where, after the items of a list have been written in turn. -/
def overlay (es : List DiskItem) (f : Location → Option (Option ByteArray)) :
    Location → Option (Option ByteArray) :=
  es.foldl (fun f e => Function.update f e.1 (some e.2)) f

variable {es more : List DiskItem} {f : Location → Option (Option ByteArray)} {k : Location}

@[simp] theorem overlay_nil : overlay [] f = f := rfl

@[simp] theorem overlay_singleton (e : DiskItem) :
    overlay [e] f = Function.update f e.1 (some e.2) := rfl

theorem overlay_append : overlay (es ++ more) f = overlay more (overlay es f) :=
  List.foldl_append ..

theorem overlay_congr {g : Location → Option (Option ByteArray)} (h : f k = g k) :
    overlay es f k = overlay es g k := by
  induction es generalizing f g with
  | nil => exact h
  | cons e rest ih =>
    rw [overlay, overlay, List.foldl_cons, List.foldl_cons]
    refine ih ?_
    by_cases hk : k = e.1
    · rw [hk, Function.update_self, Function.update_self]
    · rw [Function.update_of_ne hk, Function.update_of_ne hk, h]

theorem overlay_of_notMem (h : k ∉ es.map (·.1)) : overlay es f k = f k := by
  induction es generalizing f with
  | nil => rfl
  | cons e rest ih =>
    simp only [List.map_cons, List.mem_cons, not_or] at h
    rw [overlay, List.foldl_cons]
    exact (ih h.2).trans (Function.update_of_ne h.1 _ _)

/-- What stands where something has been written does not depend on what stood there. -/
theorem overlay_eq_of_mem (h : k ∈ es.map (·.1)) (g : Location → Option (Option ByteArray)) :
    overlay es f k = overlay es g k := by
  induction es using List.reverseRecOn with
  | nil => cases h
  | append_singleton es last ih =>
    rw [overlay_append, overlay_append, overlay_singleton, overlay_singleton]
    by_cases hk : k = last.1
    · rw [hk, Function.update_self, Function.update_self]
    · rw [Function.update_of_ne hk, Function.update_of_ne hk]
      refine ih ?_
      rw [List.map_append, List.mem_append] at h
      exact h.resolve_right fun h => hk (List.mem_singleton.mp h)

/-- Each location is given one thing only. -/
def Consistent (es : List DiskItem) : Prop :=
  ∀ a ∈ es, ∀ b ∈ es, a.1 = b.1 → a = b

theorem overlay_of_mem (hc : Consistent es) {e : Option ByteArray} (h : (k, e) ∈ es) :
    overlay es f k = some e := by
  induction es using List.reverseRecOn with
  | nil => cases h
  | append_singleton es last ih =>
    rw [overlay_append, overlay_singleton]
    by_cases hk : k = last.1
    · obtain rfl : (k, e) = last := hc _ h _ (by simp) hk
      exact Function.update_self ..
    · rw [Function.update_of_ne hk]
      refine ih (fun a ha b hb => hc a (by simp [ha]) b (by simp [hb])) ?_
      rcases List.mem_append.mp h with h | h
      · exact h
      · exact absurd (congrArg Prod.fst (List.mem_singleton.mp h)) hk

/-- What stands where nothing stood before has been written. -/
theorem mem_of_overlay (hk : f k = none) {e : Option ByteArray} (h : overlay es f k = some e) :
    (k, e) ∈ es := by
  induction es using List.reverseRecOn with
  | nil =>
    rw [overlay_nil, hk] at h
    cases h
  | append_singleton es last ih =>
    rw [overlay_append, overlay_singleton] at h
    by_cases hlast : k = last.1
    · subst hlast
      rw [Function.update_self] at h
      obtain rfl := Option.some.inj h
      exact List.mem_append_right es (List.mem_singleton.mpr rfl)
    · rw [Function.update_of_ne hlast] at h
      exact List.mem_append_left _ (ih h)

/-- Written over what has nothing there, consistent items are what stands there. -/
theorem overlay_eq_some_iff (hc : Consistent es) (hk : f k = none) {e : Option ByteArray} :
    overlay es f k = some e ↔ (k, e) ∈ es :=
  ⟨mem_of_overlay hk, overlay_of_mem hc⟩

end Disk

end MoveSkeleton
