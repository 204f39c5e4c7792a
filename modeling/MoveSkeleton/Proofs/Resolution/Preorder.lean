import MoveSkeleton.Proofs.Resolution.Step

/-! The plain recursive walk, and that the walk with pending edges is the same. -/
namespace MoveSkeleton.Resolution

/-- What is recorded, the world, and the failure, if one ended it, of a recursive walk. -/
structure Visit where
  recorded : DependencySet
  world : World
  failure : Option Failure := none

def Walk.visit (s : Walk) : Visit :=
  ⟨s.recorded, s.world, s.failure⟩

/-- The recursive walk along the edges of a package in their order. An edge to the framework, to
the root or to a package that is recorded is passed over. Any other is recorded, and the edges of
its target are walked before the rest. Once a package could not be read nothing more is done. -/
inductive Preorder (c : Client) (root : PackageId) : List Dependency → Visit → Visit → Prop where
  | done {v} : Preorder c root [] v v
  | halt {l v e} (hf : v.failure = some e) : Preorder c root l v v
  | pass {d rest v t} (hf : v.failure = none)
    (hd : isFramework d.account = true ∨ d.target = root ∨ d.target ∈ Entries.keys v.recorded)
    (hrest : Preorder c root rest v t) : Preorder c root (d :: rest) v t
  | descend {d rest v own w u t} (hf : v.failure = none)
    (hd : ¬ (isFramework d.account = true ∨ d.target = root ∨
      d.target ∈ Entries.keys v.recorded))
    (hr : readDependencies c d.target (noteDiscovered d.target v.world) = (.ok own, w))
    (hown : Preorder c root own ⟨v.recorded ++ [(d.target, d)], w, none⟩ u)
    (hrest : Preorder c root rest u t) : Preorder c root (d :: rest) v t
  | fail {d rest v e w} (hf : v.failure = none)
    (hd : ¬ (isFramework d.account = true ∨ d.target = root ∨
      d.target ∈ Entries.keys v.recorded))
    (hr : readDependencies c d.target (noteDiscovered d.target v.world) = (.error e, w)) :
    Preorder c root (d :: rest) v ⟨v.recorded ++ [(d.target, d)], w, some e⟩

/-- The recursive walk from a root: its edges are read and then walked. -/
inductive PreorderFrom (c : Client) (root : PackageId) (recorded : DependencySet) (w : World) :
    Visit → Prop where
  | walk {own w' t} (hr : readDependencies c root w = (.ok own, w'))
    (h : Preorder c root own ⟨recorded, w', none⟩ t) : PreorderFrom c root recorded w t
  | fail {e w'} (hr : readDependencies c root w = (.error e, w')) :
    PreorderFrom c root recorded w ⟨recorded, w', some e⟩

variable {c : Client} {root : PackageId} {recorded : DependencySet} {w : World}

theorem Preorder.eq_of_failure {l : List Dependency} {v t : Visit} {e : Failure}
    (h : Preorder c root l v t) (hf : v.failure = some e) : t = v := by
  cases h with
  | done | halt => rfl
  | pass hf' | descend hf' | fail hf' => rw [hf] at hf'; cases hf'

/-- The recursive walk has one outcome. -/
theorem Preorder.unique {l : List Dependency} {v t t' : Visit} (h : Preorder c root l v t)
    (h' : Preorder c root l v t') : t = t' := by
  induction h generalizing t' with
  | done =>
    cases h' with
    | done | halt => rfl
  | halt hf => exact (h'.eq_of_failure hf).symm
  | pass hf hd hrest ih =>
    cases h' with
    | halt hf' => rw [hf] at hf'; cases hf'
    | pass _ _ hrest' => exact ih hrest'
    | descend _ hd' => exact absurd hd hd'
    | fail _ hd' => exact absurd hd hd'
  | descend hf hd hr hown hrest ihown ihrest =>
    cases h' with
    | halt hf' => rw [hf] at hf'; cases hf'
    | pass _ hd' => exact absurd hd' hd
    | descend _ _ hr' hown' hrest' =>
      obtain ⟨he, rfl⟩ := Prod.mk.inj (hr.symm.trans hr')
      obtain rfl := Except.ok.inj he
      obtain rfl := ihown hown'
      exact ihrest hrest'
    | fail _ _ hr' => rw [hr] at hr'; cases hr'
  | fail hf hd hr =>
    cases h' with
    | halt hf' => rw [hf] at hf'; cases hf'
    | pass _ hd' => exact absurd hd' hd
    | descend _ _ hr' => rw [hr] at hr'; cases hr'
    | fail _ _ hr' =>
      obtain ⟨he, rfl⟩ := Prod.mk.inj (hr.symm.trans hr')
      obtain rfl := Except.error.inj he
      rfl

theorem PreorderFrom.unique {t t' : Visit} (h : PreorderFrom c root recorded w t)
    (h' : PreorderFrom c root recorded w t') : t = t' := by
  cases h with
  | walk hr h =>
    cases h' with
    | walk hr' h' =>
      obtain ⟨he, rfl⟩ := Prod.mk.inj (hr.symm.trans hr')
      obtain rfl := Except.ok.inj he
      exact h.unique h'
    | fail hr' => rw [hr] at hr'; cases hr'
  | fail hr =>
    cases h' with
    | walk hr' => rw [hr] at hr'; cases hr'
    | fail hr' =>
      obtain ⟨he, rfl⟩ := Prod.mk.inj (hr.symm.trans hr')
      obtain rfl := Except.error.inj he
      rfl

/-- Recursive walks along several lists of edges, one after the other: what is left to a recursive
walk that has descended through as many packages. -/
def PreorderAll (c : Client) (root : PackageId) : List (List Dependency) → Visit → Visit → Prop
  | [], v, t => t = v
  | l :: outer, v, t => ∃ u, Preorder c root l v u ∧ PreorderAll c root outer u t

theorem PreorderAll.halt {pending : List (List Dependency)} {v : Visit} {e : Failure}
    (hf : v.failure = some e) : PreorderAll c root pending v v := by
  induction pending with
  | nil => rfl
  | cons l outer ih => exact ⟨v, .halt hf, ih⟩

/-- The pending edges are what is left to the recursion, and a step does the next of it. -/
theorem PreorderAll.of_step {s t : Walk} {u : Visit} (hst : Walk.Step c root s t)
    (hs : s.failure = none) (h : t.failure = none → PreorderAll c root t.pending t.visit u)
    (he : t.pending = [] → u = t.visit) : PreorderAll c root s.pending s.visit u := by
  cases hst with
  | leave => exact ⟨_, .done, h hs⟩
  | pass hd =>
    obtain ⟨x, hrest, houter⟩ := h hs
    exact ⟨x, .pass hs (skips_iff.mp hd) hrest, houter⟩
  | @follow d rest outer r w f own w' hd hr =>
    obtain rfl : f = none := hs
    obtain ⟨x, hown, y, hrest, houter⟩ := h rfl
    exact ⟨y, .descend rfl (skips_eq_false_iff.mp hd) hr hown hrest, houter⟩
  | fail hd hr =>
    rw [he rfl]
    exact ⟨_, .fail hs (skips_eq_false_iff.mp hd) hr, .halt rfl⟩

/-- A walk under way does to its end what the recursion still has to do. -/
theorem preorderAll_finish (c : Client) (root : PackageId) (s : Walk) (hs : s.failure = none) :
    PreorderAll c root s.pending s.visit (s.finish c root).visit := by
  induction s using Walk.finish.induct c root with
  | case1 s h =>
    rw [Walk.finish_of_pending_nil h, h]
    rfl
  | case2 s h ih =>
    refine .of_step (Walk.step_turn h) hs (fun ht => ?_) (fun ht => ?_)
    · rw [← Walk.finish_turn h]
      exact ih ht
    · rw [← Walk.finish_turn h, Walk.finish_of_pending_nil ht]

theorem preorderFrom_resolveFrom (c : Client) (root : PackageId) (recorded : DependencySet)
    (w : World) : PreorderFrom c root recorded w (resolveFrom c root recorded w).visit := by
  unfold resolveFrom Walk.start Walk.enter
  split
  · next own w' hr =>
    obtain ⟨u, h, hu⟩ := preorderAll_finish c root ⟨[own], recorded, w', none⟩ rfl
    exact .walk hr (hu ▸ h)
  · next e w' hr =>
    rw [Walk.finish_of_pending_nil rfl]
    exact .fail hr

/-- The walk with pending edges is the recursive walk: it records the same packages in the same
order, leaves the same world with the same requests in it, and fails or returns alike, whatever
the node answers. -/
theorem preorderFrom_iff_resolveFrom (c : Client) (root : PackageId) (recorded : DependencySet)
    (w : World) (t : Visit) :
    PreorderFrom c root recorded w t ↔
      t.recorded = (resolveFrom c root recorded w).recorded ∧
      t.world = (resolveFrom c root recorded w).world ∧
      t.failure = (resolveFrom c root recorded w).failure := by
  have hrun := preorderFrom_resolveFrom c root recorded w
  constructor
  · intro h
    obtain rfl := h.unique hrun
    exact ⟨rfl, rfl, rfl⟩
  · rintro ⟨hr, hw, hf⟩
    obtain ⟨r, w', f⟩ := t
    obtain rfl : r = _ := hr
    obtain rfl : w' = _ := hw
    obtain rfl : f = _ := hf
    exact hrun

end MoveSkeleton.Resolution
