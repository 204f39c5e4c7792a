import MoveSkeleton.Proofs.Node.Later
import MoveSkeleton.Proofs.Resolution.Reached

/-! Resolutions of several roots one after the other, each with what is recorded from before. -/
namespace MoveSkeleton.Resolution

/-- Resolution as an activity, with what is recorded already. -/
def resolveOnto (c : Client) (root : PackageId) (recorded : DependencySet) :
    Activity DependencySet :=
  ExceptT.mk fun w =>
    let s := resolveFrom c root recorded w
    match s.failure with
    | none => (.ok s.recorded, s.world)
    | some e => (.error e, s.world)

theorem resolve_eq_resolveOnto (c : Client) (root : PackageId) :
    resolve c root = resolveOnto c root [] := rfl

/-- What the resolution of one root returns is handed on to that of the next. -/
def resolveEach (c : Client) : List PackageId → DependencySet → Activity DependencySet
  | [], recorded => pure recorded
  | root :: roots, recorded => do resolveEach c roots (← resolveOnto c root recorded)

/-- Whatever has been asked before, each account gives the same answer. -/
def Constant (c : Client) (n : Node) (answers : Answers) : Prop :=
  ∀ w : World, n.Later w.node → ∀ account, (c.readResources account w).1 = answers account

/-- The roots are done: no edge off the framework leaves them and what is recorded, and all that is
recorded is reached from them. -/
structure Gathered (answers : Answers) (done : List PackageId) (recorded : DependencySet) :
    Prop where
  closed : ∀ p, p ∈ Entries.keys recorded ∨ p ∈ done → ∀ q, Leads answers p q →
    q ∈ Entries.keys recorded ∨ q ∈ done
  reached : ∀ p ∈ Entries.keys recorded, ∃ r ∈ done, Reached answers r p

/-- All that the roots reach answers, or fails in a way that resolution passes over. -/
def ReachSoftly (answers : Answers) (roots : List PackageId) : Prop :=
  ∀ r ∈ roots, ∀ p, Reached answers r p → ∀ e, answers p.account = .error e → e.isOfNode = true

variable {c : Client} {root : PackageId} {roots done : List PackageId} {w v v' : World}
  {recorded dependencies new : DependencySet} {answers : Answers}

theorem returns_resolveOnto : Returns (resolveOnto c root recorded) v dependencies v' ↔
    (resolveFrom c root recorded v).failure = none ∧
      dependencies = (resolveFrom c root recorded v).recorded ∧
        v' = (resolveFrom c root recorded v).world := by
  unfold Returns resolveOnto
  simp only [ExceptT.run_mk, StateT.run]
  constructor
  · intro h
    cases hf : (resolveFrom c root recorded v).failure with
    | none =>
      rw [hf] at h
      cases h
      exact ⟨rfl, rfl, rfl⟩
    | some e =>
      rw [hf] at h
      cases h
  · rintro ⟨hf, rfl, rfl⟩
    rw [hf]

theorem Constant.later {n m : Node} (h : Constant c n answers) (hm : n.Later m) :
    Constant c m answers :=
  fun w hw => h w (hm.trans hw)

theorem Constant.of_steady (h : w.node.Steady) : Constant c w.node (answersAt c w) :=
  fun _ hw _ => Client.readResources_fst_of_alike (h.later hw)

theorem Constant.consults (h : Constant c w.node answers) :
    Consults c root recorded w answers where
  first := h w (.refl _) root.account
  later s hs d _ := by
    refine h s.world (.trans ?_ (Walk.later_of_run hs)) d.account
    rw [Walk.world_start]
    exact readDependencies_later c root w

/-- One root: what is new is what it reaches off the framework, itself and what was recorded. -/
theorem resolveOnto_returns (hc : Constant c v.node answers)
    (hs : ∀ p, Reached answers root p → ∀ e, answers p.account = .error e → e.isOfNode = true) :
    ∃ new v', Returns (resolveOnto c root recorded) v (recorded ++ new) v' ∧
      v.node.Later v'.node ∧
        ∀ p, p ∈ Entries.keys new ↔ Relation.TransGen (LeadsOn answers root recorded) root p := by
  obtain ⟨hrun, hp⟩ : Relation.ReflTransGen (Walk.Step c root) (Walk.start c root recorded v)
      (resolveFrom c root recorded v) ∧ (resolveFrom c root recorded v).pending = [] :=
    Walk.run_finish _
  have hf := unfailed_of_softly hc.consults (fun p hp => hs p (reflTransGen_leads hp)) hrun
  obtain ⟨new, hx⟩ := explored_of_unfailed hc.consults hrun hf
  refine ⟨new, _, returns_resolveOnto.mpr ⟨hf, hx.kept.symm, rfl⟩, ?_, fun p => hx.mem_keys_iff hp⟩
  exact later_resolveFrom c root recorded v

/-- After one more root no edge leaves the roots that are done and what is recorded. An edge back to
a root that was done before is passed over, or leads to what is recorded then. -/
theorem Gathered.step (h : Gathered answers done recorded)
    (hnew : ∀ p, p ∈ Entries.keys new ↔
      Relation.TransGen (LeadsOn answers root recorded) root p) :
    Gathered answers (done ++ [root]) (recorded ++ new) := by
  have hmem : ∀ p, p ∈ Entries.keys (recorded ++ new) ∨ p ∈ done ++ [root] ↔
      (p ∈ Entries.keys recorded ∨ p ∈ done) ∨ p ∈ Entries.keys new ∨ p = root := by
    intro p
    rw [mem_keys_append, List.mem_append, List.mem_singleton]
    exact or_or_or_comm
  constructor
  · intro p hp q hq
    rw [hmem] at hp ⊢
    by_cases hold : q ∈ Entries.keys recorded ∨ q = root
    · exact hold.imp .inl .inr
    obtain ⟨hk, hr⟩ := not_or.mp hold
    have hon : LeadsOn answers root recorded p q := ⟨hq, hr, hk⟩
    rcases hp with hp | hp | rfl
    · exact .inl (h.closed p hp q hq)
    · exact .inr (.inl ((hnew q).mpr (((hnew p).mp hp).tail hon)))
    · exact .inr (.inl ((hnew q).mpr (.single hon)))
  · intro p hp
    rcases mem_keys_append.mp hp with hp | hp
    · obtain ⟨r, hr, hreach⟩ := h.reached p hp
      exact ⟨r, List.mem_append_left _ hr, hreach⟩
    · exact ⟨root, by simp, reflTransGen_leads ((hnew p).mp hp).to_reflTransGen⟩

/-- All the roots in turn: what was recorded stays, and nothing in it is recorded again. -/
theorem Gathered.resolveEach (h : Gathered answers done recorded) (hc : Constant c v.node answers)
    (hs : ReachSoftly answers roots) :
    ∃ more v', Returns (resolveEach c roots recorded) v (recorded ++ more) v' ∧
      v.node.Later v'.node ∧ Gathered answers (done ++ roots) (recorded ++ more) ∧
        ∀ p ∈ Entries.keys more, p ∉ Entries.keys recorded := by
  induction roots generalizing done recorded v with
  | nil =>
    refine ⟨[], v, ?_, .refl _, ?_, by simp [Entries.keys]⟩
    · exact returns_pure.mpr ⟨List.append_nil _, rfl⟩
    · simpa using h
  | cons root roots ih =>
    obtain ⟨hroot, hroots⟩ := List.forall_mem_cons.mp hs
    obtain ⟨new, u, hone, hu, hnew⟩ := @resolveOnto_returns c root v recorded answers hc hroot
    obtain ⟨more, v', hrest, hv', hg, hfresh⟩ := ih (h.step hnew) (hc.later hu) hroots
    refine ⟨new ++ more, v', ?_, hu.trans hv', ?_, ?_⟩
    · rw [← List.append_assoc]
      exact returns_bind.mpr ⟨_, u, hone, hrest⟩
    · simpa using hg
    · intro p hp
      rcases mem_keys_append.mp hp with hp | hp
      · obtain ⟨q, -, hlast⟩ := Relation.TransGen.tail'_iff.mp ((hnew p).mp hp)
        exact hlast.2.2
      · exact fun hm => hfresh p hp (mem_keys_append.mpr (.inl hm))

/-- With the roots themselves, what is recorded is all that the roots reach. -/
theorem Gathered.mem_iff (h : Gathered answers roots recorded) {p : PackageId} :
    p ∈ Entries.keys recorded ∨ p ∈ roots ↔ ∃ r ∈ roots, Reached answers r p := by
  constructor
  · rintro (hp | hp)
    · exact h.reached p hp
    · exact ⟨p, hp, .refl⟩
  · rintro ⟨r, hr, hp⟩
    induction hp with
    | refl => exact .inr hr
    | tail _ hq ih => exact h.closed _ ih _ hq

theorem Gathered.nil : Gathered answers [] [] := by
  constructor <;> simp [Entries.keys]

/-- Where each account gives one answer, roots that are resolved one after the other record, with
the roots themselves, all that the roots reach. In another order they record the same but for the
roots, and once more they record nothing new but roots. -/
theorem resolveEach_records_reached (hc : Constant c w.node answers)
    (hs : ReachSoftly answers roots) :
    ∃ dependencies w', Returns (resolveEach c roots []) w dependencies w' ∧
      Constant c w'.node answers ∧
      (∀ p, p ∈ Entries.keys dependencies ∨ p ∈ roots ↔ ∃ r ∈ roots, Reached answers r p) ∧
      (∀ roots' v, roots'.Perm roots → Constant c v.node answers →
        ∃ dependencies' v', Returns (resolveEach c roots' []) v dependencies' v' ∧
          ∀ p, p ∉ roots → (p ∈ Entries.keys dependencies' ↔ p ∈ Entries.keys dependencies)) ∧
      ∀ v, Constant c v.node answers →
        ∃ more v', Returns (resolveEach c roots dependencies) v (dependencies ++ more) v' ∧
          ∀ p ∈ Entries.keys more, p ∈ roots := by
  obtain ⟨dependencies, w', hrun, hw', hg, -⟩ := Gathered.nil.resolveEach hc hs
  rw [List.nil_append] at hrun
  rw [List.nil_append, List.nil_append] at hg
  refine ⟨dependencies, w', hrun, hc.later hw', fun p => hg.mem_iff, ?_, ?_⟩
  · intro roots' v hperm hv
    have hs' : ReachSoftly answers roots' := fun r hr => hs r (hperm.mem_iff.mp hr)
    obtain ⟨dependencies', v', hrun', -, hg', -⟩ := Gathered.nil.resolveEach hv hs'
    rw [List.nil_append] at hrun'
    rw [List.nil_append, List.nil_append] at hg'
    refine ⟨dependencies', v', hrun', fun p hp => ?_⟩
    have hp' : p ∉ roots' := fun h => hp (hperm.mem_iff.mp h)
    calc p ∈ Entries.keys dependencies' ↔ ∃ r ∈ roots', Reached answers r p := by
          rw [← hg'.mem_iff, or_iff_left hp']
      _ ↔ ∃ r ∈ roots, Reached answers r p := by simp only [hperm.mem_iff]
      _ ↔ p ∈ Entries.keys dependencies := by rw [← hg.mem_iff, or_iff_left hp]
  · intro v hv
    obtain ⟨more, v', hagain, -, hall, hfresh⟩ := hg.resolveEach hv hs
    refine ⟨more, v', hagain, fun p hp => ?_⟩
    obtain ⟨r, hr, hreach⟩ := hall.reached p (mem_keys_append.mpr (.inr hp))
    have hr : r ∈ roots := (List.mem_append.mp hr).elim id id
    exact (hg.mem_iff.mpr ⟨r, hr, hreach⟩).resolve_left (hfresh p hp)

namespace Sample

open MoveSkeleton.Sample

theorem leads_q : Leads (answersAt client world) ⟨"0xa", "P"⟩ ⟨"0xb", "Q"⟩ := by
  refine ⟨by decide, ⟨"0xb", "Q"⟩, ?_, rfl⟩
  rw [edges_of_record record_p]
  exact List.mem_cons_self

/-- An account that the node knows nothing of. -/
def strayAccount : Text := "0xd"

theorem answersAt_stray : answersAt client world strayAccount =
    .error (.status 404 (client.resourcesUrl strayAccount)) :=
  eq_error (by decide +kernel)

theorem eq_stray_of_reached {name : Text} {p : PackageId}
    (h : Reached (answersAt client world) ⟨strayAccount, name⟩ p) : p = ⟨strayAccount, name⟩ := by
  have hedges : edges (answersAt client world) ⟨strayAccount, name⟩ = [] := by
    unfold edges recordOf
    rw [answersAt_stray]
    rfl
  refine List.mem_singleton.mp
    (mem_of_reflTransGen_leads (List.mem_singleton.mpr rfl) (fun q hq d hd _ => ?_) h)
  rw [List.mem_singleton.mp hq, hedges] at hd
  cases hd

theorem reachSoftly : ReachSoftly (answersAt client world)
    [⟨"0xb", "Q"⟩, ⟨"0xa", "P"⟩, ⟨strayAccount, "S"⟩] := by
  have hrecord : ∀ p, Reached (answersAt client world) ⟨"0xa", "P"⟩ p →
      ∀ e, answersAt client world p.account = .error e → e.isOfNode = true := by
    intro p hp e he
    obtain ⟨record, hr⟩ := record_of_reached hp
    obtain ⟨rs, hrs, -⟩ := recordOf_eq_ok_iff.mp hr
    cases hrs.symm.trans he
  intro r hr p hp e he
  simp only [List.mem_cons, List.not_mem_nil, or_false] at hr
  rcases hr with rfl | rfl | rfl
  · exact hrecord p (.head leads_q hp) e he
  · exact hrecord p hp e he
  · rw [eq_stray_of_reached hp, answersAt_stray] at he
    obtain rfl := Except.error.inj he
    rfl

end Sample

/-- For two packages that need each other and one of an account that is not there. -/
theorem resolveEach_records_reached_in_cycle :
    let c := Sample.client
    let w := Sample.world
    let answers := answersAt c w
    let roots : List PackageId := [⟨"0xb", "Q"⟩, ⟨"0xa", "P"⟩, ⟨Sample.strayAccount, "S"⟩]
    Constant c w.node answers ∧ ReachSoftly answers roots ∧
    ∃ dependencies w', Returns (resolveEach c roots []) w dependencies w' ∧
      Constant c w'.node answers ∧
      (∀ p, p ∈ Entries.keys dependencies ∨ p ∈ roots ↔ ∃ r ∈ roots, Reached answers r p) ∧
      (∀ roots' v, roots'.Perm roots → Constant c v.node answers →
        ∃ dependencies' v', Returns (resolveEach c roots' []) v dependencies' v' ∧
          ∀ p, p ∉ roots → (p ∈ Entries.keys dependencies' ↔ p ∈ Entries.keys dependencies)) ∧
      ∀ v, Constant c v.node answers →
        ∃ more v', Returns (resolveEach c roots dependencies) v (dependencies ++ more) v' ∧
          ∀ p ∈ Entries.keys more, p ∈ roots := by
  intro c w answers roots
  have hc : Constant c w.node answers := .of_steady MoveSkeleton.Sample.node_steady
  exact ⟨hc, Sample.reachSoftly, resolveEach_records_reached hc Sample.reachSoftly⟩

end MoveSkeleton.Resolution
