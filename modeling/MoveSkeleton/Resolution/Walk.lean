import MoveSkeleton.Resolution.Distinct
import MoveSkeleton.Resolution.Horizon

/-! The walk over the packages that a package depends on, depth first. -/
namespace MoveSkeleton.Resolution

abbrev DependencySet := Entries PackageId Dependency

/-- A walk under way. `pending` holds the edges still to follow: those of the package entered last
come first. A walk that failed follows none. -/
structure Walk where
  pending : List (List Dependency)
  recorded : DependencySet
  world : World
  failure : Option Failure := none

/-- An edge is not followed to the framework, to the root itself, or to a package that is
recorded already. -/
def skips (root : PackageId) (recorded : DependencySet) (d : Dependency) : Bool :=
  isFramework d.account || d.target == root || (Entries.keys recorded).contains d.target

namespace Walk

def enter (c : Client) (p : PackageId) (s : Walk) : Walk :=
  match readDependencies c p s.world with
  | (.ok edges, w) => { s with pending := edges :: s.pending, world := w }
  | (.error e, w) => { s with pending := [], world := w, failure := some e }

def record (d : Dependency) (s : Walk) : Walk :=
  { s with
    recorded := s.recorded ++ [(d.target, d)]
    world := { s.world with events := s.world.events ++ [.discovered d.target] } }

/-- One turn: follows the next edge, or leaves a package that has no more. An edge is recorded
before the edges of its target are read, so that a cycle ends. -/
def turn (c : Client) (root : PackageId) (s : Walk) : Walk :=
  match s.pending with
  | [] => s
  | [] :: outer => { s with pending := outer }
  | (d :: rest) :: outer =>
    let after := { s with pending := rest :: outer }
    if skips root s.recorded d then after
    else (after.record d).enter c d.target

def start (c : Client) (root : PackageId) (recorded : DependencySet) (w : World) : Walk :=
  enter c root ⟨[], recorded, w, none⟩

def horizon (s : Walk) : List PackageId :=
  (s.pending.flatten ++ s.world.node.dependencies).map (·.target)

/-- How many packages may still be recorded. -/
def unseen (s : Walk) : Nat :=
  (distinct (s.horizon.filter fun p => !(Entries.keys s.recorded).contains p)).length

def weight (s : Walk) : Nat :=
  s.pending.foldr (fun edges n => edges.length + 1 + n) 0

private theorem unseen_le {s t : Walk} (hr : s.recorded = t.recorded)
    (h : ∀ p ∈ s.horizon, p ∈ t.horizon) : s.unseen ≤ t.unseen := by
  apply length_distinct_le
  simp only [List.mem_filter, hr]
  exact fun p hp => ⟨h p hp.1, hp.2⟩

private theorem unseen_lt {s t : Walk} {x : PackageId}
    (hr : ∀ p ∈ Entries.keys t.recorded, p ∈ Entries.keys s.recorded)
    (h : ∀ p ∈ s.horizon, p ∈ t.horizon) (hx : x ∈ t.horizon)
    (hs : x ∈ Entries.keys s.recorded) (ht : x ∉ Entries.keys t.recorded) :
    s.unseen < t.unseen := by
  refine length_distinct_lt (x := x) ?_ ?_ ?_
  · intro p hp
    simp only [List.mem_filter, Bool.not_eq_true', List.contains_eq_mem,
      decide_eq_false_iff_not] at hp ⊢
    exact ⟨h p hp.1, fun hm => hp.2 (hr p hm)⟩
  · simp only [List.mem_filter, Bool.not_eq_true', List.contains_eq_mem, decide_eq_false_iff_not]
    exact ⟨hx, ht⟩
  · simp only [List.mem_filter, Bool.not_eq_true', List.contains_eq_mem, decide_eq_false_iff_not]
    exact fun h => h.2 hs

private theorem mem_horizon {s : Walk} {p : PackageId} :
    p ∈ s.horizon ↔ ∃ d, ((∃ edges ∈ s.pending, d ∈ edges) ∨ d ∈ s.world.node.dependencies) ∧
      d.target = p := by
  simp only [horizon, List.mem_map, List.mem_append, List.mem_flatten]

/-- Entering a package brings nothing new into sight. -/
private theorem horizon_enter {c : Client} {p x : PackageId} {s : Walk}
    (h : x ∈ (s.enter c p).horizon) : x ∈ s.horizon := by
  rw [mem_horizon] at h ⊢
  obtain ⟨d, hd, rfl⟩ := h
  refine ⟨d, ?_, rfl⟩
  have hnode : ∀ w, (readDependencies c p s.world).2 = w → d ∈ w.node.dependencies →
      d ∈ s.world.node.dependencies := by
    rintro w rfl hw
    exact readDependencies_dependencies_subset hw
  unfold enter at hd
  split at hd
  · next edges w he =>
    rcases hd with ⟨l, hl, hdl⟩ | hd
    · rcases List.mem_cons.mp hl with rfl | hl
      · exact .inr (mem_dependencies_of_readDependencies (congrArg Prod.fst he) hdl)
      · exact .inl ⟨l, hl, hdl⟩
    · exact .inr (hnode w (congrArg Prod.snd he) hd)
  · next e w he =>
    rcases hd with ⟨l, hl, -⟩ | hd
    · simp at hl
    · exact .inr (hnode w (congrArg Prod.snd he) hd)

theorem recorded_enter (c : Client) (p : PackageId) (s : Walk) :
    (s.enter c p).recorded = s.recorded := by
  unfold enter
  split <;> rfl

/-- A turn records a package that was in sight, or at least gets on with the edges at hand. -/
theorem turn_decreases {c : Client} {root : PackageId} {s : Walk} (hs : s.pending ≠ []) :
    Prod.Lex (· < ·) (· < ·) ((s.turn c root).unseen, (s.turn c root).weight)
      (s.unseen, s.weight) := by
  have later : ∀ t : Walk, t.unseen ≤ s.unseen → t.weight < s.weight →
      Prod.Lex (· < ·) (· < ·) (t.unseen, t.weight) (s.unseen, s.weight) := by
    intro t hu hw
    rcases Nat.lt_or_eq_of_le hu with hu | hu
    · exact .left _ _ hu
    · rw [hu]
      exact .right _ hw
  unfold turn
  split
  · contradiction
  · next outer hp =>
    refine later _ (unseen_le rfl fun p h => ?_) ?_
    · simpa [horizon, hp] using h
    · simp [weight, hp]
  · next d rest outer hp =>
    simp only
    split
    · refine later _ (unseen_le rfl fun p h => ?_) ?_
      · simp only [mem_horizon, hp, List.mem_cons] at h ⊢
        grind
      · simp [weight, hp]
    · next hskip =>
      refine .left _ _ (unseen_lt (x := d.target) ?_ ?_ ?_ ?_ ?_)
      · intro p h
        simpa [recorded_enter, record, Entries.keys] using .inl (by simpa [Entries.keys] using h)
      · intro p h
        have := horizon_enter h
        simp only [mem_horizon, record, hp, List.mem_cons] at this ⊢
        grind
      · simp only [mem_horizon, hp, List.mem_cons]
        exact ⟨d, .inl ⟨d :: rest, .inl rfl, by simp⟩, rfl⟩
      · simp [recorded_enter, record, Entries.keys]
      · intro h
        simp [skips, h] at hskip

def finish (c : Client) (root : PackageId) (s : Walk) : Walk :=
  if _h : s.pending = [] then s
  else (s.turn c root).finish c root
termination_by (s.unseen, s.weight)
decreasing_by exact turn_decreases _h

end Walk

/-- Every package that the root depends on, directly or not, but those of the framework and the
root itself. What is recorded from before comes first and is not entered again. -/
def resolveFrom (c : Client) (root : PackageId) (recorded : DependencySet) (w : World) : Walk :=
  (Walk.start c root recorded w).finish c root

def resolve (c : Client) (root : PackageId) : Activity DependencySet :=
  ExceptT.mk fun w =>
    let s := resolveFrom c root [] w
    match s.failure with
    | none => (.ok s.recorded, s.world)
    | some e => (.error e, s.world)

end MoveSkeleton.Resolution
