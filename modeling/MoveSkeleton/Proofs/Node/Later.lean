import Mathlib.Logic.Relation
import MoveSkeleton.Proofs.Resolution.Steady

/-! What requests leave of a node: answers that it held before, whatever was asked. -/
namespace MoveSkeleton

/-- Every package that an answer lists, whatever is asked for. -/
def Answer.packages (a : Answer) : List Package :=
  match a.resources "" with
  | .error _ => []
  | .ok rs => rs.flatMap fun r => (r.registry.map (·.packages)).getD []

theorem Answer.mem_dependencies_iff {a : Answer} {d : Dependency} :
    d ∈ a.dependencies ↔ ∃ q ∈ a.packages, d ∈ q.dependencies := by
  unfold dependencies packages
  cases a.resources "" with
  | error e => simp
  | ok rs =>
    simp only [List.mem_flatMap]
    constructor
    · rintro ⟨r, hr, hd⟩
      cases hg : r.registry with
      | none => simp [hg] at hd
      | some g =>
        simp only [hg, Option.map_some, Option.getD_some, List.mem_flatMap] at hd
        obtain ⟨q, hq, hd⟩ := hd
        exact ⟨q, ⟨r, hr, by simpa [hg] using hq⟩, hd⟩
    · rintro ⟨q, ⟨r, hr, hq⟩, hd⟩
      cases hg : r.registry with
      | none => simp [hg] at hq
      | some g =>
        refine ⟨r, hr, ?_⟩
        simp only [hg, Option.map_some, Option.getD_some, List.mem_flatMap] at hq ⊢
        exact ⟨q, hq, hd⟩

theorem Answer.mem_packages {a : Answer} {url : Text} {rs : List Resource} {g : Registry}
    {q : Package} (hr : a.resources url = .ok rs) (hg : Resource.registryOf rs = some g)
    (hq : q ∈ g.packages) : q ∈ a.packages := by
  obtain ⟨r, hf, hrg⟩ := Option.bind_eq_some_iff.mp hg
  rw [packages, resources_eq_ok_of_url hr]
  refine List.mem_flatMap.mpr ⟨r, List.mem_of_find?_eq_some hf, ?_⟩
  simpa [hrg] using hq

namespace Node

variable {n m k : Node} {url : Text} {a : Answer}

/-- The answer is among those to come at some address. -/
def Holds (n : Node) (a : Answer) : Prop :=
  ∃ e ∈ n, a ∈ e.2

/-- Every package that some answer of the node lists. -/
def packages (n : Node) : List Package :=
  n.flatMap fun e => e.2.flatMap Answer.packages

theorem mem_packages {q : Package} : q ∈ n.packages ↔ ∃ a, n.Holds a ∧ q ∈ a.packages := by
  simp only [packages, Holds, List.mem_flatMap]
  constructor
  · rintro ⟨e, he, a, ha, hq⟩
    exact ⟨a, ⟨e, he, ha⟩, hq⟩
  · rintro ⟨a, ⟨e, he, ha⟩, hq⟩
    exact ⟨e, he, a, ha, hq⟩

theorem mem_dependencies_iff {d : Dependency} :
    d ∈ n.dependencies ↔ ∃ q ∈ n.packages, d ∈ q.dependencies := by
  simp only [mem_dependencies, Answer.mem_dependencies_iff, mem_packages, Holds]
  constructor
  · rintro ⟨e, he, a, ha, q, hq, hd⟩
    exact ⟨q, ⟨a, ⟨e, he, ha⟩, hq⟩, hd⟩
  · rintro ⟨q, ⟨a, ⟨e, he, ha⟩, hq⟩, hd⟩
    exact ⟨e, he, a, ha, q, hq, hd⟩

/-- A request is answered by what the node held at its address, if it held anything. -/
theorem ask_fst (n : Node) (url : Text) : (n.ask url).1 = .notFound ∨ n.Holds (n.ask url).1 := by
  unfold ask
  split
  · next a b rest hg => exact .inr ⟨_, Entries.mem_of_get? hg, by simp⟩
  · next a hg => exact .inr ⟨_, Entries.mem_of_get? hg, by simp⟩
  all_goals exact .inl rfl

theorem holds_of_ask (h : (n.ask url).2.Holds a) : n.Holds a := by
  unfold ask at h
  split at h
  · next b b' rest hg =>
    obtain ⟨e, he, ha⟩ := h
    rcases Entries.mem_put he with rfl | he
    · exact ⟨_, Entries.mem_of_get? hg, List.mem_cons_of_mem _ ha⟩
    · exact ⟨e, he, ha⟩
  all_goals exact h

/-- The second node is what some requests leave of the first. -/
def Later (n m : Node) : Prop :=
  Relation.ReflTransGen (fun n m => ∃ url, m = (n.ask url).2) n m

theorem Later.refl (n : Node) : n.Later n :=
  Relation.ReflTransGen.refl

theorem Later.trans (h : n.Later m) (h' : m.Later k) : n.Later k :=
  Relation.ReflTransGen.trans h h'

theorem later_ask (n : Node) (url : Text) : n.Later (n.ask url).2 :=
  .single ⟨url, rfl⟩

theorem Later.holds (h : n.Later m) (ha : m.Holds a) : n.Holds a := by
  induction h with
  | refl => exact ha
  | tail _ hstep ih =>
    obtain ⟨url, rfl⟩ := hstep
    exact ih (holds_of_ask ha)

theorem Later.packages (h : n.Later m) {q : Package} (hq : q ∈ m.packages) : q ∈ n.packages := by
  obtain ⟨a, ha, hq⟩ := mem_packages.mp hq
  exact mem_packages.mpr ⟨a, h.holds ha, hq⟩

theorem Later.dependencies (h : n.Later m) {d : Dependency} (hd : d ∈ m.dependencies) :
    d ∈ n.dependencies := by
  obtain ⟨q, hq, hdq⟩ := mem_dependencies_iff.mp hd
  exact mem_dependencies_iff.mpr ⟨q, h.packages hq, hdq⟩

theorem Steady.later (hn : n.Steady) (h : n.Later m) : n.Alike m := by
  induction h with
  | refl => exact hn.alike
  | tail _ hstep ih =>
    obtain ⟨url, rfl⟩ := hstep
    exact ih.ask url

end Node

namespace Client

variable {c : Client} {w : World}

theorem request_later (c : Client) (url account : Text) (w : World) :
    w.node.Later (c.request url account w).2.node := by
  unfold request
  cases Address.fault? url with
  | some fault => exact .refl _
  | none => exact Node.later_ask ..

theorem readResources_later (c : Client) (account : Text) (w : World) :
    w.node.Later (c.readResources account w).2.node := by
  rw [readResources_snd]
  exact request_later ..

theorem readInterface_later (c : Client) (account module : Text) (w : World) :
    w.node.Later (c.readInterface account module w).2.node := by
  rw [readInterface_snd]
  exact request_later ..

theorem readResources_disk (c : Client) (account : Text) (w : World) :
    (c.readResources account w).2.disk = w.disk := by
  rw [readResources_snd, request_disk]

theorem readInterface_disk (c : Client) (account module : Text) (w : World) :
    (c.readInterface account module w).2.disk = w.disk := by
  rw [readInterface_snd, request_disk]

/-- Resources that are read stand in an answer that the node held. -/
theorem resources_of_readResources {account : Text} {rs : List Resource}
    (h : (c.readResources account w).1 = .ok rs) :
    ∃ a, (a = .notFound ∨ w.node.Holds a) ∧ a.resources (c.resourcesUrl account) = .ok rs := by
  unfold readResources request at h
  cases hf : Address.fault? (c.resourcesUrl account) with
  | some fault => simp [hf, Except.bind] at h
  | none =>
    simp only [hf] at h
    exact ⟨_, w.node.ask_fst _, Answer.resources_of_valueAt h⟩

/-- A package of which the record is found is listed by the node. -/
theorem mem_packages_of_requirePackage {p : PackageId} {rs : List Resource} {record : Package}
    (h : (c.readResources p.account w).1 = .ok rs)
    (hrec : Resource.requirePackage p rs = .ok record) : record ∈ w.node.packages := by
  obtain ⟨a, ha, hr⟩ := resources_of_readResources h
  rcases ha with rfl | ha
  · cases hr
  unfold Resource.requirePackage at hrec
  cases hg : Resource.registryOf rs with
  | none => simp [hg] at hrec
  | some g =>
    cases hq : g.find? p.name with
    | none => simp [hg, hq] at hrec
    | some q =>
      simp only [hg, hq, Except.ok.injEq] at hrec
      have hm : record ∈ g.packages := hrec ▸ List.mem_of_find?_eq_some hq
      exact Node.mem_packages.mpr ⟨a, ha, Answer.mem_packages hr hg hm⟩

end Client

namespace Resolution

variable {c : Client} {root : PackageId} {w : World} {s t : Walk}

theorem readDependencies_later (c : Client) (p : PackageId) (w : World) :
    w.node.Later (readDependencies c p w).2.node := by
  rw [readDependencies_eq]
  exact c.readResources_later p.account w

theorem Walk.Step.later (hst : Walk.Step c root s t) : s.world.node.Later t.world.node := by
  cases hst with
  | leave | pass => exact .refl _
  | @follow d _ _ _ w _ _ _ _ hr | @fail d _ _ _ w _ _ _ _ hr =>
    have hl := readDependencies_later c d.target (noteDiscovered d.target w)
    rw [hr] at hl
    exact hl

theorem Walk.later_of_run (h : Relation.ReflTransGen (Walk.Step c root) s t) :
    s.world.node.Later t.world.node := by
  induction h with
  | refl => exact .refl _
  | tail _ hst ih => exact ih.trans hst.later

theorem later_resolveFrom (c : Client) (root : PackageId) (recorded : DependencySet) (w : World) :
    w.node.Later (resolveFrom c root recorded w).world.node := by
  refine .trans ?_ (Walk.later_of_run (Walk.run_finish (Walk.start c root recorded w)).1)
  rw [Walk.world_start]
  exact readDependencies_later c root w

/-- All edges at hand were declared by answers that the node held, and so were those that are
recorded, which lead off the framework. -/
structure Walk.Declared (n : Node) (s : Walk) : Prop where
  node : n.Later s.world.node
  pending : ∀ l ∈ s.pending, ∀ d ∈ l, d ∈ n.dependencies
  recorded : ∀ e ∈ s.recorded, e.2 ∈ n.dependencies ∧ isFramework e.2.account = false

theorem Walk.Declared.of_start (c : Client) (root : PackageId) (w : World) :
    Walk.Declared w.node (Walk.start c root [] w) := by
  have hnode := readDependencies_later c root w
  unfold Walk.start Walk.enter
  dsimp only
  rcases hr : readDependencies c root w with ⟨e | own, u⟩
  · rw [hr] at hnode
    exact ⟨hnode, by simp, by simp⟩
  · rw [hr] at hnode
    refine ⟨hnode, ?_, by simp⟩
    simp only [List.forall_mem_singleton]
    exact fun d hd => mem_dependencies_of_readDependencies (congrArg Prod.fst hr) hd

theorem Walk.Declared.step {n : Node} (h : Walk.Declared n s) (hst : Walk.Step c root s t) :
    Walk.Declared n t := by
  have hnode := h.node.trans hst.later
  cases hst with
  | leave => exact ⟨hnode, (List.forall_mem_cons.mp h.pending).2, h.recorded⟩
  | pass =>
    obtain ⟨hedges, houter⟩ := List.forall_mem_cons.mp h.pending
    exact ⟨hnode, List.forall_mem_cons.mpr ⟨(List.forall_mem_cons.mp hedges).2, houter⟩, h.recorded⟩
  | @follow d _ _ _ w _ own _ hd hr =>
    obtain ⟨hedges, houter⟩ := List.forall_mem_cons.mp h.pending
    obtain ⟨hdecl, hrest⟩ := List.forall_mem_cons.mp hedges
    have hread : (readDependencies c d.target (noteDiscovered d.target w)).1 = .ok own :=
      congrArg Prod.fst hr
    have hown : ∀ d ∈ own, d ∈ n.dependencies := by
      intro x hx
      have hmem := mem_dependencies_of_readDependencies hread hx
      rw [noteDiscovered] at hmem
      exact h.node.dependencies hmem
    refine ⟨hnode, List.forall_mem_cons.mpr ⟨hown, List.forall_mem_cons.mpr ⟨hrest, houter⟩⟩, ?_⟩
    exact List.forall_mem_append.mpr ⟨h.recorded, List.forall_mem_singleton.mpr
      ⟨hdecl, (not_skips_iff.mp hd).1⟩⟩
  | fail hd hr =>
    obtain ⟨hdecl, -⟩ := List.forall_mem_cons.mp (List.forall_mem_cons.mp h.pending).1
    refine ⟨hnode, by simp, ?_⟩
    exact List.forall_mem_append.mpr ⟨h.recorded, List.forall_mem_singleton.mpr
      ⟨hdecl, (not_skips_iff.mp hd).1⟩⟩

theorem Walk.Declared.run {n : Node} (h : Walk.Declared n s)
    (hrun : Relation.ReflTransGen (Walk.Step c root) s t) : Walk.Declared n t := by
  induction hrun with
  | refl => exact h
  | tail _ hst ih => exact ih.step hst

/-- What a resolution records was declared by answers that the node held. -/
theorem declared_resolveFrom (c : Client) (root : PackageId) (w : World) :
    ∀ e ∈ (resolveFrom c root [] w).recorded,
      e.2 ∈ w.node.dependencies ∧ isFramework e.2.account = false :=
  ((Walk.Declared.of_start c root w).run (Walk.run_finish _).1).recorded

end Resolution

end MoveSkeleton
