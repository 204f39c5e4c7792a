import MoveSkeleton.Proofs.Resolution.Requests
import MoveSkeleton.Proofs.Returns

/-! How many turns a walk takes: one for each package that it reads, and one for each edge that it
is told of. -/
namespace MoveSkeleton.Resolution

variable {c : Client} {root p : PackageId} {recorded new : DependencySet} {w v : World}
  {s t : Walk} {n : Nat} {own : List Dependency} {lists : List (List Dependency)}

/-- The dependencies of a package, as an activity. -/
def fetchDependencies (c : Client) (p : PackageId) : Activity (List Dependency) :=
  ExceptT.mk (readDependencies c p)

/-- The dependencies of packages in turn, each of which has been discovered. -/
def fetchDiscovered (c : Client) (ps : List PackageId) : Activity (List (List Dependency)) :=
  ps.mapM fun p => do
    Activity.note (.discovered p)
    fetchDependencies c p

/-- The dependencies of a root, and then of the packages discovered from there. -/
def fetchInTurn (c : Client) (root : PackageId) (ps : List PackageId) :
    Activity (List (List Dependency)) := do
  let own ← fetchDependencies c root
  let lists ← fetchDiscovered c ps
  return own :: lists

theorem returns_fetchDependencies :
    Returns (fetchDependencies c p) w own v ↔ readDependencies c p w = (.ok own, v) :=
  Iff.rfl

theorem fetchInTurn_nil (h : readDependencies c root w = (.ok own, v)) :
    Returns (fetchInTurn c root []) w [own] v := by
  refine returns_bind.mpr ⟨own, v, returns_fetchDependencies.mpr h, ?_⟩
  exact returns_bind.mpr ⟨[], v, returns_pure.mpr ⟨rfl, rfl⟩, returns_pure.mpr ⟨rfl, rfl⟩⟩

/-- One more package is discovered and read. -/
theorem fetchInTurn_concat {ps : List PackageId} {u : World}
    (h : Returns (fetchInTurn c root ps) w lists u)
    (hr : readDependencies c p (noteDiscovered p u) = (.ok own, v)) :
    Returns (fetchInTurn c root (ps ++ [p])) w (lists ++ [own]) v := by
  obtain ⟨first, u₀, hfirst, h⟩ := returns_bind.mp h
  obtain ⟨rest, u', hrest, h⟩ := returns_bind.mp h
  obtain ⟨rfl, rfl⟩ := returns_pure.mp h
  refine returns_bind.mpr ⟨first, u₀, hfirst, ?_⟩
  refine returns_bind.mpr ⟨rest ++ [own], v, ?_, returns_pure.mpr ⟨rfl, rfl⟩⟩
  have hlast : Returns (fetchDiscovered c [p]) u [own] v := by
    unfold fetchDiscovered
    rw [List.mapM_cons, returns_bind]
    refine ⟨own, v, Activity.returns_note_bind.mpr hr, ?_⟩
    exact returns_bind.mpr ⟨[], v, returns_pure.mpr ⟨rfl, rfl⟩, returns_pure.mpr ⟨rfl, rfl⟩⟩
  unfold fetchDiscovered at hrest hlast ⊢
  rw [List.mapM_append]
  refine returns_bind.mpr ⟨rest, u, hrest, ?_⟩
  exact returns_bind.mpr ⟨[own], v, hlast, returns_pure.mpr ⟨rfl, rfl⟩⟩

/-- The turns taken so far, and those left if nothing more is discovered, are one for each package
that has been read and one for each dependency that it was told to have. -/
structure Paced (c : Client) (root : PackageId) (recorded : DependencySet) (w : World) (n : Nat)
    (s : Walk) (new : DependencySet) (made : List Request) (lists : List (List Dependency)) :
    Prop where
  kept : s.recorded = recorded ++ new
  requests : s.world.requests = w.requests ++ made
  read : Returns (fetchInTurn c root (Entries.keys new)) w lists s.world
  each : made.length = lists.length
  turns : n + s.weight = made.length + lists.flatten.length

/-- Reading a package takes one request. -/
theorem requests_of_readDependencies (h : readDependencies c p w = (.ok own, v)) :
    v.requests = w.requests ++ [c.resourcesRequest p.account] := by
  have hv := readDependencies_requests c p w
  rw [Client.resourcesRequests_of_canAsk (canAsk_of_readDependencies (congrArg Prod.fst h)), h] at hv
  exact hv

theorem Paced.start (c : Client) (root : PackageId) (recorded : DependencySet) (w : World)
    (hf : (Walk.start c root recorded w).failure = none) :
    ∃ made lists, Paced c root recorded w 0 (Walk.start c root recorded w) [] made lists := by
  unfold Walk.start Walk.enter at hf ⊢
  dsimp only at hf ⊢
  rcases hr : readDependencies c root w with ⟨e | own, u⟩
  · rw [hr] at hf
    cases hf
  · refine ⟨[c.resourcesRequest root.account], [own], ?_⟩
    exact {
      kept := (List.append_nil _).symm
      requests := requests_of_readDependencies hr
      read := fetchInTurn_nil hr
      each := rfl
      turns := by simp [Walk.weight, Nat.add_comm] }

/-- A step that fails at nothing takes one turn of those that were left, or finds as many more as it
is told of. -/
theorem Paced.step {made : List Request} (h : Paced c root recorded w n s new made lists)
    (hst : Walk.Step c root s t) (ht : t.failure = none) :
    ∃ new made lists, Paced c root recorded w (n + 1) t new made lists := by
  have hturns := h.turns
  cases hst with
  | leave | pass =>
    refine ⟨new, made, lists, h.kept, h.requests, h.read, h.each, ?_⟩
    simp only [Walk.weight, List.foldr_cons, List.length_cons, List.length_nil] at hturns ⊢
    omega
  | @follow d rest outer r u f own w' hd hr =>
    refine ⟨new ++ [(d.target, d)], made ++ [c.resourcesRequest d.target.account], lists ++ [own], ?_⟩
    have hrequests := requests_of_readDependencies hr
    have hnoted : (noteDiscovered d.target u).requests = u.requests := rfl
    exact {
      kept := (congrArg (· ++ [(d.target, d)]) h.kept).trans (List.append_assoc ..)
      requests := by rw [hrequests, hnoted, h.requests, List.append_assoc]
      read := by
        rw [Entries.keys, List.map_append]
        exact fetchInTurn_concat h.read hr
      each := by rw [List.length_append, List.length_append, h.each]; rfl
      turns := by
        simp only [Walk.weight, List.foldr_cons, List.length_cons, List.length_append,
          List.length_nil, List.flatten_append, List.flatten_cons, List.flatten_nil,
          List.append_nil] at hturns ⊢
        omega }
  | fail => cases ht

/-- A step goes on from a walk that has not failed, and fails at the end if at all. -/
theorem Walk.Step.failure_eq_none (hst : Walk.Step c root s t) (ht : t.failure = none) :
    s.failure = none := by
  cases hst with
  | leave | pass | follow => exact ht
  | fail => cases ht

/-- The walk comes to its end at one turn, and then stays there. -/
theorem Walk.exists_iterate_finish (c : Client) (root : PackageId) (s : Walk) :
    ∃ n, (turn c root)^[n] s = s.finish c root ∧
      ∀ m, ((turn c root)^[m] s).pending = [] ↔ n ≤ m := by
  induction s using finish.induct c root with
  | case1 s h =>
    refine ⟨0, (finish_of_pending_nil h).symm, fun m => iff_of_true ?_ (Nat.zero_le m)⟩
    rw [Function.iterate_fixed (turn_of_pending_nil h)]
    exact h
  | case2 s h ih =>
    obtain ⟨n, hn, hm⟩ := ih
    refine ⟨n + 1, hn.trans (finish_turn h), fun m => ?_⟩
    cases m with
    | zero => exact iff_of_false h (by omega)
    | succ m => exact (hm m).trans (by omega)

/-- Turns that are taken before the end and fail at nothing keep the pace. -/
theorem Paced.iterate (hpending : ∀ m, m < n → ((Walk.turn c root)^[m] s).pending ≠ [])
    (hs : s.failure = none → ∃ made lists, Paced c root recorded w 0 s [] made lists)
    (hf : ((Walk.turn c root)^[n] s).failure = none) :
    ∃ new made lists, Paced c root recorded w n ((Walk.turn c root)^[n] s) new made lists := by
  induction n with
  | zero => exact ⟨[], hs hf⟩
  | succ n ih =>
    have hst : Walk.Step c root _ (Walk.turn c root _) :=
      Walk.step_turn (hpending n (Nat.lt_succ_self n))
    rw [Function.iterate_succ_apply'] at hf ⊢
    obtain ⟨_, _, _, h⟩ := ih (fun m hm => hpending m (Nat.lt_succ_of_lt hm))
      (hst.failure_eq_none hf)
    exact h.step hst hf

/-- Whatever a node answers, and however its answers change, the walk comes to its end after a
number of turns. If nothing failed, it took one turn for each request, by which the list of a
package's dependencies was read, and one for each dependency in these lists. -/
theorem resolveFrom_turns (c : Client) (root : PackageId) (recorded : DependencySet) (w : World) :
    ∃ n, (Walk.turn c root)^[n] (Walk.start c root recorded w) = resolveFrom c root recorded w ∧
      (∀ m, ((Walk.turn c root)^[m] (Walk.start c root recorded w)).pending = [] ↔ n ≤ m) ∧
      ((resolveFrom c root recorded w).failure = none →
        ∃ new made lists, (resolveFrom c root recorded w).recorded = recorded ++ new ∧
          (resolveFrom c root recorded w).world.requests = w.requests ++ made ∧
          Returns (fetchInTurn c root (Entries.keys new)) w lists
            (resolveFrom c root recorded w).world ∧
          made.length = lists.length ∧ n = made.length + lists.flatten.length) := by
  obtain ⟨n, hn, hpending⟩ :=
    Walk.exists_iterate_finish c root (Walk.start c root recorded w)
  refine ⟨n, hn, hpending, fun hf => ?_⟩
  have hend := (hpending n).mpr (Nat.le_refl n)
  have hunder : ∀ m, m < n →
      ((Walk.turn c root)^[m] (Walk.start c root recorded w)).pending ≠ [] :=
    fun m hm hp => Nat.not_le_of_lt hm ((hpending m).mp hp)
  obtain ⟨new, made, lists, h⟩ := Paced.iterate hunder (Paced.start c root recorded w)
    ((congrArg Walk.failure hn).trans hf)
  have hweight : ((Walk.turn c root)^[n] (Walk.start c root recorded w)).weight = 0 := by
    rw [Walk.weight, hend, List.foldr_nil]
  have hturns := h.turns
  rw [hweight, Nat.add_zero] at hturns
  rw [hn] at h
  exact ⟨new, made, lists, h.kept, h.requests, h.read, h.each, hturns⟩

end MoveSkeleton.Resolution
