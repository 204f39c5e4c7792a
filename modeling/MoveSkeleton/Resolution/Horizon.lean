import MoveSkeleton.Resolution.Declared
import MoveSkeleton.Results

/-! No request leads beyond the dependencies that a node's answers declare from the start. -/
namespace MoveSkeleton

theorem Answer.resources_eq_ok_of_url {a : Answer} {url url' : Text} {rs : List Resource}
    (h : a.resources url = .ok rs) : a.resources url' = .ok rs := by
  obtain ⟨v, hv, hrs⟩ := bind_eq_ok_iff.mp h
  refine bind_eq_ok_iff.mpr ⟨v, ?_, ?_⟩
  · cases a with
    | failure lapse message => cases hv
    | reply status body =>
      simp only [value] at hv ⊢
      split at hv
      · next hs =>
        rw [if_pos hs]
        exact mapError_eq_ok_iff.mpr (mapError_eq_ok_iff.mp hv)
      · cases hv
  · cases v with
    | list items => exact mapError_eq_ok_iff.mpr (mapError_eq_ok_iff.mp hrs)
    | _ => cases hrs

/-- What is learnt from an answer at an address stands in the answer. -/
theorem Answer.resources_of_valueAt {a : Answer} {url : Text} {rs : List Resource}
    (h : (a.valueAt url).bind (resourcesOf url) = .ok rs) : a.resources url = .ok rs := by
  unfold valueAt at h
  split at h
  · simp [Except.bind] at h
  · exact h

theorem Answer.mem_dependencies {a : Answer} {url : Text} {rs : List Resource} {g : Registry}
    {q : Package} {d : Dependency} (hr : a.resources url = .ok rs)
    (hg : Resource.registryOf rs = some g) (hq : q ∈ g.packages) (hd : d ∈ q.dependencies) :
    d ∈ a.dependencies := by
  obtain ⟨r, hf, hrg⟩ := Option.bind_eq_some_iff.mp hg
  have hm := List.mem_of_find?_eq_some hf
  rw [dependencies, resources_eq_ok_of_url hr]
  refine List.mem_flatMap.mpr ⟨r, hm, ?_⟩
  simpa [hrg] using ⟨q, hq, hd⟩

namespace Node

theorem mem_dependencies {n : Node} {d : Dependency} :
    d ∈ n.dependencies ↔ ∃ e ∈ n, ∃ a ∈ e.2, d ∈ a.dependencies := by
  simp [dependencies, List.mem_flatMap]

/-- The answer to a request declares nothing that the node did not hold. -/
theorem mem_dependencies_of_ask {n : Node} {url : Text} {d : Dependency}
    (h : d ∈ (n.ask url).1.dependencies) : d ∈ n.dependencies := by
  rw [mem_dependencies]
  unfold ask at h
  split at h
  · next a b rest hg => exact ⟨_, Entries.mem_of_get? hg, a, by simp, h⟩
  · next a hg => exact ⟨_, Entries.mem_of_get? hg, a, by simp, h⟩
  all_goals simp [Answer.notFound, Answer.dependencies, Answer.resources, Answer.value, bind,
    Except.bind] at h

/-- A request leaves the node with answers that it held before. -/
theorem ask_dependencies_subset {n : Node} {url : Text} {d : Dependency}
    (h : d ∈ (n.ask url).2.dependencies) : d ∈ n.dependencies := by
  unfold ask at h
  split at h
  · next a b rest hg =>
    rw [mem_dependencies] at h ⊢
    obtain ⟨e, he, x, hx, hd⟩ := h
    rcases Entries.mem_put he with rfl | he
    · exact ⟨_, Entries.mem_of_get? hg, x, List.mem_cons_of_mem _ hx, hd⟩
    · exact ⟨e, he, x, hx, hd⟩
  all_goals exact h

end Node

namespace Resolution

private theorem readDependencies_of_fault {c : Client} {p : PackageId} {w : World}
    {fault : Address.Fault} (h : Address.fault? (c.resourcesUrl p.account) = some fault) :
    readDependencies c p w = (.error (.address fault), { w with events := w.events ++ [] }) := by
  simp only [readDependencies, Client.readResources, Client.request, h]
  rfl

private theorem node_readDependencies_of_sound {c : Client} {p : PackageId} {w : World}
    (h : Address.fault? (c.resourcesUrl p.account) = none) :
    (readDependencies c p w).2.node = (w.node.ask (c.resourcesUrl p.account)).2 := by
  simp only [readDependencies, Client.readResources, Client.request, h]

private theorem readDependencies_fst_of_sound {c : Client} {p : PackageId} {w : World}
    (h : Address.fault? (c.resourcesUrl p.account) = none) :
    (readDependencies c p w).1 =
      (declared p (((w.node.ask (c.resourcesUrl p.account)).1.valueAt
        (c.resourcesUrl p.account)).bind (Answer.resourcesOf (c.resourcesUrl p.account)))).1 := by
  simp only [readDependencies, Client.readResources, Client.request, h]

/-- Reading leaves the node with answers that it held before. -/
theorem readDependencies_dependencies_subset {c : Client} {p : PackageId} {w : World}
    {d : Dependency} (h : d ∈ (readDependencies c p w).2.node.dependencies) :
    d ∈ w.node.dependencies := by
  cases hf : Address.fault? (c.resourcesUrl p.account) with
  | some fault => rwa [readDependencies_of_fault hf] at h
  | none =>
    rw [node_readDependencies_of_sound hf] at h
    exact Node.ask_dependencies_subset h

/-- What is read was declared by some answer of the node. -/
theorem mem_dependencies_of_readDependencies {c : Client} {p : PackageId} {w : World}
    {edges : List Dependency} {d : Dependency} (h : (readDependencies c p w).1 = .ok edges)
    (hd : d ∈ edges) : d ∈ w.node.dependencies := by
  cases hf : Address.fault? (c.resourcesUrl p.account) with
  | some fault => simp [readDependencies_of_fault hf] at h
  | none =>
    rw [readDependencies_fst_of_sound hf] at h
    obtain ⟨l, g, q, hr, hg, hq, hdq⟩ := mem_declared h hd
    exact Node.mem_dependencies_of_ask
      (Answer.mem_dependencies (Answer.resources_of_valueAt hr) hg hq hdq)

end Resolution

end MoveSkeleton
