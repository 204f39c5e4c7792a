import MoveSkeleton.Proofs.Resolution.Steady

/-! Two resolutions side by side. Where each reading yields the same edges in both, they record the
same. -/
namespace MoveSkeleton.Resolution

/-- Reading a package that satisfies `P` in two related worlds yields the same edges and leaves
related worlds. Edges off the framework lead to packages that satisfy `P` again. -/
structure ReadsTogether (c : Client) (P : PackageId → Prop) (R : World → World → Prop) : Prop where
  note : ∀ p w v, R w v → R (noteDiscovered p w) (noteDiscovered p v)
  read : ∀ p w v, P p → R w v → (readDependencies c p w).1 = (readDependencies c p v).1 ∧
    R (readDependencies c p w).2 (readDependencies c p v).2
  leads : ∀ p w v own, R w v → (readDependencies c p w).1 = .ok own →
    ∀ d ∈ own, isFramework d.account = false → P d.target

/-- Two walks that are equally far, in related worlds, and are still to follow edges to packages that
satisfy `P`. -/
structure Walk.Together (P : PackageId → Prop) (R : World → World → Prop) (s t : Walk) : Prop where
  pending : s.pending = t.pending
  recorded : s.recorded = t.recorded
  failure : s.failure = t.failure
  world : R s.world t.world
  leads : ∀ l ∈ s.pending, ∀ d ∈ l, isFramework d.account = false → P d.target

variable {c : Client} {root : PackageId} {P : PackageId → Prop} {R : World → World → Prop}
  {w v : World} {s t : Walk}

theorem Walk.Together.record (hR : ReadsTogether c P R) (h : Walk.Together P R s t)
    (d : Dependency) : Walk.Together P R (s.record d) (t.record d) where
  pending := h.pending
  recorded := by simp only [Walk.record, h.recorded]
  failure := h.failure
  world := hR.note d.target _ _ h.world
  leads := h.leads

theorem Walk.Together.enter (hR : ReadsTogether c P R) (h : Walk.Together P R s t)
    {p : PackageId} (hp : P p) : Walk.Together P R (s.enter c p) (t.enter c p) := by
  obtain ⟨hread, hworld⟩ := hR.read p _ _ hp h.world
  unfold Walk.enter
  rcases hs : readDependencies c p s.world with ⟨r, w⟩
  rcases ht : readDependencies c p t.world with ⟨r', v⟩
  rw [hs, ht] at hread hworld
  obtain rfl : r = r' := hread
  cases r with
  | ok own =>
    refine ⟨congrArg (own :: ·) h.pending, h.recorded, h.failure, hworld, ?_⟩
    exact List.forall_mem_cons.mpr ⟨hR.leads p _ _ own h.world (congrArg Prod.fst hs), h.leads⟩
  | error e => exact ⟨rfl, h.recorded, rfl, hworld, by simp⟩

/-- Walks that are equally far take the same turn. -/
theorem Walk.Together.turn (hR : ReadsTogether c P R) (h : Walk.Together P R s t) :
    Walk.Together P R (s.turn c root) (t.turn c root) := by
  obtain ⟨pending, recorded, w, f⟩ := s
  obtain ⟨_, _, v, _⟩ := t
  obtain ⟨rfl, rfl, rfl, hworld, hleads⟩ := h
  match pending with
  | [] => exact ⟨rfl, rfl, rfl, hworld, hleads⟩
  | [] :: outer => exact ⟨rfl, rfl, rfl, hworld, (List.forall_mem_cons.mp hleads).2⟩
  | (d :: rest) :: outer =>
    obtain ⟨hedges, houter⟩ := List.forall_mem_cons.mp hleads
    obtain ⟨hd, hrest⟩ := List.forall_mem_cons.mp hedges
    have hafter : Walk.Together P R ⟨rest :: outer, recorded, w, f⟩
        ⟨rest :: outer, recorded, v, f⟩ :=
      ⟨rfl, rfl, rfl, hworld, List.forall_mem_cons.mpr ⟨hrest, houter⟩⟩
    dsimp only [Walk.turn]
    split
    · exact hafter
    · next hskip =>
      exact (hafter.record hR d).enter hR (hd (not_skips_iff.mp (Bool.not_eq_true _ ▸ hskip)).1)

theorem Walk.Together.finish (hR : ReadsTogether c P R) (h : Walk.Together P R s t) :
    Walk.Together P R (s.finish c root) (t.finish c root) := by
  induction s using Walk.finish.induct c root generalizing t with
  | case1 s hs =>
    have ht : t.pending = [] := h.pending ▸ hs
    rwa [finish_of_pending_nil hs, finish_of_pending_nil ht]
  | case2 s hs ih =>
    have ht : t.pending ≠ [] := h.pending ▸ hs
    rw [← finish_turn hs, ← finish_turn ht]
    exact ih (h.turn hR)

/-- Resolutions from related worlds end the same way. -/
theorem resolveFrom_together (root : PackageId) (recorded : DependencySet)
    (hR : ReadsTogether c P R) (hroot : P root) (h : R w v) :
    Walk.Together P R (resolveFrom c root recorded w) (resolveFrom c root recorded v) := by
  have hstart : Walk.Together P R ⟨[], recorded, w, none⟩ ⟨[], recorded, v, none⟩ :=
    ⟨rfl, rfl, rfl, h, by simp⟩
  exact (hstart.enter hR hroot).finish hR

end MoveSkeleton.Resolution
