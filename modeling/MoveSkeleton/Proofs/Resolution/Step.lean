import Mathlib.Logic.Function.Iterate
import Mathlib.Logic.Relation
import MoveSkeleton.Resolution.Walk

/-! The turns of a walk as a step relation, and the whole walk as a run of steps. -/
namespace MoveSkeleton

/-- What is read at a node depends on nothing but the node. -/
theorem Client.readResources_fst_of_node {c : Client} {account : Text} {w w' : World}
    (h : w.node = w'.node) :
    (c.readResources account w).1 = (c.readResources account w').1 := by
  simp only [Client.readResources, Client.request, h]
  cases Address.fault? (c.resourcesUrl account) <;> rfl

namespace Resolution

theorem skips_iff {root : PackageId} {recorded : DependencySet} {d : Dependency} :
    skips root recorded d = true ↔
      isFramework d.account = true ∨ d.target = root ∨ d.target ∈ Entries.keys recorded := by
  simp [skips, or_assoc]

theorem skips_eq_false_iff {root : PackageId} {recorded : DependencySet} {d : Dependency} :
    skips root recorded d = false ↔ ¬ (isFramework d.account = true ∨ d.target = root ∨
      d.target ∈ Entries.keys recorded) := by
  rw [← skips_iff, Bool.not_eq_true]

theorem not_skips_iff {root : PackageId} {recorded : DependencySet} {d : Dependency} :
    skips root recorded d = false ↔
      isFramework d.account = false ∧ d.target ≠ root ∧ d.target ∉ Entries.keys recorded := by
  rw [skips_eq_false_iff, not_or, not_or, Bool.not_eq_true]

theorem readDependencies_eq (c : Client) (p : PackageId) (w : World) :
    readDependencies c p w = ((declared p (c.readResources p.account w).1).1,
      { (c.readResources p.account w).2 with
        events := (c.readResources p.account w).2.events ++
          (declared p (c.readResources p.account w).1).2 }) := by
  simp only [readDependencies]

theorem readDependencies_fst (c : Client) (p : PackageId) (w : World) :
    (readDependencies c p w).1 = (declared p (c.readResources p.account w).1).1 := by
  rw [readDependencies_eq]

/-- The world once it has been noted that a package was discovered. -/
def noteDiscovered (p : PackageId) (w : World) : World :=
  { w with events := w.events ++ [.discovered p] }

theorem readResources_noteDiscovered (c : Client) (account : Text) (p : PackageId) (w : World) :
    (c.readResources account (noteDiscovered p w)).1 = (c.readResources account w).1 :=
  Client.readResources_fst_of_node rfl

namespace Walk

/-- The edge that the next turn follows to a package not met before. -/
def following? (root : PackageId) (s : Walk) : Option Dependency :=
  match s.pending with
  | (d :: _) :: _ => if skips root s.recorded d then none else some d
  | _ => none

/-- One turn of a walk that is under way: a package without further edges is left, an edge is
passed over, or it is followed to a package that is recorded and then read. -/
inductive Step (c : Client) (root : PackageId) : Walk → Walk → Prop where
  | leave {outer recorded w f} : Step c root ⟨[] :: outer, recorded, w, f⟩ ⟨outer, recorded, w, f⟩
  | pass {d rest outer recorded w f} (hd : skips root recorded d = true) :
    Step c root ⟨(d :: rest) :: outer, recorded, w, f⟩ ⟨rest :: outer, recorded, w, f⟩
  | follow {d rest outer recorded w f own w'} (hd : skips root recorded d = false)
    (hr : readDependencies c d.target (noteDiscovered d.target w) = (.ok own, w')) :
    Step c root ⟨(d :: rest) :: outer, recorded, w, f⟩
      ⟨own :: rest :: outer, recorded ++ [(d.target, d)], w', f⟩
  | fail {d rest outer recorded w f e w'} (hd : skips root recorded d = false)
    (hr : readDependencies c d.target (noteDiscovered d.target w) = (.error e, w')) :
    Step c root ⟨(d :: rest) :: outer, recorded, w, f⟩
      ⟨[], recorded ++ [(d.target, d)], w', some e⟩

variable {c : Client} {root : PackageId}

theorem step_turn {s : Walk} (hs : s.pending ≠ []) : Step c root s (s.turn c root) := by
  obtain ⟨pending, recorded, w, f⟩ := s
  match pending with
  | [] => exact absurd rfl hs
  | [] :: outer => exact .leave
  | (d :: rest) :: outer =>
    simp only [turn]
    cases hd : skips root recorded d with
    | true => exact .pass hd
    | false =>
      simp only [Bool.false_eq_true, if_false, enter, record]
      split
      · next own w' hr => exact .follow hd hr
      · next e w' hr => exact .fail hd hr

theorem finish_of_pending_nil {s : Walk} (h : s.pending = []) : s.finish c root = s := by
  rw [finish, dif_pos h]

theorem finish_turn {s : Walk} (h : s.pending ≠ []) :
    (s.turn c root).finish c root = s.finish c root :=
  .symm (by rw [finish, dif_neg h])

theorem turn_of_pending_nil {s : Walk} (h : s.pending = []) : s.turn c root = s := by
  rw [turn, h]

/-- A walk that has nothing pending after some turns has come to its end by then. -/
theorem finish_eq_iterate {s : Walk} {n : Nat} (h : ((turn c root)^[n] s).pending = []) :
    s.finish c root = (turn c root)^[n] s := by
  induction n generalizing s with
  | zero => exact finish_of_pending_nil h
  | succ n ih =>
    rw [Function.iterate_succ_apply] at h ⊢
    rw [← ih h]
    by_cases hs : s.pending = []
    · rw [turn_of_pending_nil hs]
    · exact (finish_turn hs).symm

/-- A walk to its end is a run of steps that stops when nothing is pending. -/
theorem run_finish (s : Walk) :
    Relation.ReflTransGen (Step c root) s (s.finish c root) ∧ (s.finish c root).pending = [] := by
  induction s using finish.induct c root with
  | case1 s h =>
    rw [finish_of_pending_nil h]
    exact ⟨.refl, h⟩
  | case2 s h ih =>
    rw [← finish_turn h]
    exact ⟨.head (step_turn h) ih.1, ih.2⟩

end Walk

end Resolution

end MoveSkeleton
