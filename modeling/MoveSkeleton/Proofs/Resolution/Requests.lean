import MoveSkeleton.Proofs.Package.Folder
import MoveSkeleton.Proofs.Resolution.Reachability

/-! The requests of a resolution: one for each package that it records, in the order in which they
are recorded. -/
namespace MoveSkeleton

namespace Client

/-- The resources of the account can be asked for. -/
def CanAsk (c : Client) (account : Text) : Prop :=
  Address.fault? (c.resourcesUrl account) = none

instance (c : Client) : DecidablePred c.CanAsk :=
  fun account => inferInstanceAs (Decidable (Address.fault? (c.resourcesUrl account) = none))

/-- The request for the resources of an account. -/
def resourcesRequest (c : Client) (account : Text) : Request :=
  ⟨c.resourcesUrl account, c.authorization (c.resourcesUrl account)⟩

/-- The requests for the resources of packages in turn, of those that can be asked for. -/
def resourcesRequests (c : Client) (ps : List PackageId) : List Request :=
  (ps.filter fun p => c.CanAsk p.account).map fun p => c.resourcesRequest p.account

variable {c : Client} {account : Text} {p : PackageId}

theorem resourcesRequests_append (c : Client) (ps qs : List PackageId) :
    c.resourcesRequests (ps ++ qs) = c.resourcesRequests ps ++ c.resourcesRequests qs := by
  simp only [resourcesRequests, List.filter_append, List.map_append]

theorem resourcesRequests_of_canAsk (h : c.CanAsk p.account) :
    c.resourcesRequests [p] = [c.resourcesRequest p.account] := by
  simp [resourcesRequests, h]

theorem resourcesRequests_of_not_canAsk (h : ¬ c.CanAsk p.account) :
    c.resourcesRequests [p] = [] := by
  simp [resourcesRequests, h]

/-- A resources address has a single slash after the account, and an interface address has two at
least after the same beginning. -/
theorem resourcesUrl_ne_interfaceUrl (c : Client) (h : account.SlashFree) (account' module : Text) :
    c.resourcesUrl account ≠ c.interfaceUrl account' module := by
  intro he
  have hcount := congrArg (fun url : Text => url.points.count (.char '/')) he
  have hfree : account.points.count (.char '/') = 0 := List.count_eq_zero.mpr fun hm => h _ hm rfl
  have hresources : (Text.ofString "/resources").points.count (.char '/') = 1 := by decide
  have hmodule : (Text.ofString "/module/").points.count (.char '/') = 2 := by decide
  simp only [resourcesUrl, interfaceUrl, Text.points_append, List.count_append] at hcount
  omega

/-- At one account the addresses part behind it. -/
theorem resourcesUrl_ne_interfaceUrl_same (c : Client) (account module : Text) :
    c.resourcesUrl account ≠ c.interfaceUrl account module := by
  intro he
  have hpoints := congrArg Text.points he
  simp only [resourcesUrl, interfaceUrl, Text.points_append, List.append_assoc,
    List.append_cancel_left_eq] at hpoints
  have hsecond := congrArg (·[1]?) hpoints
  cases hsecond

/-- Reading the resources of an account makes one request for them, if it can be made. -/
theorem readResources_requests (c : Client) (p : PackageId) (w : World) :
    (c.readResources p.account w).2.requests = w.requests ++ c.resourcesRequests [p] := by
  rw [readResources_snd]
  unfold request
  cases hf : Address.fault? (c.resourcesUrl p.account) with
  | some fault => rw [resourcesRequests_of_not_canAsk (by simp [CanAsk, hf]), List.append_nil]
  | none =>
    rw [resourcesRequests_of_canAsk hf]
    rfl

end Client

namespace Resolution

variable {c : Client} {root p : PackageId} {recorded new : DependencySet} {w v : World}
  {s t : Walk} {e : Failure}

theorem readDependencies_requests (c : Client) (p : PackageId) (w : World) :
    (readDependencies c p w).2.requests = w.requests ++ c.resourcesRequests [p] := by
  rw [readDependencies_eq]
  exact c.readResources_requests p w

/-- A package that cannot be asked for ends the resolution. -/
theorem readDependencies_of_not_canAsk (h : ¬ c.CanAsk p.account) :
    ∃ fault, (readDependencies c p w).1 = .error (.address fault) := by
  obtain ⟨fault, hf⟩ := Option.ne_none_iff_exists'.mp h
  refine ⟨fault, ?_⟩
  rw [readDependencies_fst]
  simp only [Client.readResources, Client.request, hf]
  rfl

theorem canAsk_of_readDependencies {own : List Dependency}
    (h : (readDependencies c p w).1 = .ok own) : c.CanAsk p.account := by
  by_contra hc
  obtain ⟨fault, hf⟩ := readDependencies_of_not_canAsk (w := w) hc
  cases hf.symm.trans h

/-- Reading the last of the packages `ps` ended a resolution that began with `before` requests, and
those ahead of it were all asked for. -/
def EndedBy (c : Client) (before : List Request) (ps : List PackageId) (e : Failure)
    (w : World) : Prop :=
  ∃ earlier p v, ps = earlier ++ [p] ∧ (∀ q ∈ earlier, c.CanAsk q.account) ∧
    v.requests = before ++ c.resourcesRequests earlier ∧ readDependencies c p v = (.error e, w) ∧
    (c.CanAsk p.account ∨ ∃ fault, e = .address fault)

/-- The requests of a walk are those for the root and then for what it recorded anew. -/
structure Accounted (c : Client) (root : PackageId) (recorded : DependencySet)
    (before : List Request) (s : Walk) (new : DependencySet) : Prop where
  kept : s.recorded = recorded ++ new
  nodup : (Entries.keys new).Nodup
  fresh : ∀ p ∈ Entries.keys new, p ∉ Entries.keys recorded
  requests : s.world.requests = before ++ c.resourcesRequests (root :: Entries.keys new)
  asked : s.failure = none → ∀ p ∈ root :: Entries.keys new, c.CanAsk p.account
  ended : ∀ e, s.failure = some e →
    s.pending = [] ∧ EndedBy c before (root :: Entries.keys new) e s.world

/-- What is read after the packages `ps`, all of which were asked for, ends the resolution if it
cannot be read. -/
theorem EndedBy.of_read {before : List Request} {ps : List PackageId}
    (hps : ∀ q ∈ ps, c.CanAsk q.account) (hv : v.requests = before ++ c.resourcesRequests ps)
    (hr : readDependencies c p v = (.error e, w)) : EndedBy c before (ps ++ [p]) e w := by
  refine ⟨ps, p, v, rfl, hps, hv, hr, ?_⟩
  by_cases hc : c.CanAsk p.account
  · exact .inl hc
  · obtain ⟨fault, hf⟩ := readDependencies_of_not_canAsk (w := v) hc
    rw [hr] at hf
    exact .inr ⟨fault, Except.error.inj hf⟩

theorem Accounted.start (c : Client) (root : PackageId) (recorded : DependencySet) (w : World) :
    Accounted c root recorded w.requests (Walk.start c root recorded w) [] := by
  have hrequests := readDependencies_requests c root w
  unfold Walk.start Walk.enter
  dsimp only
  rcases hr : readDependencies c root w with ⟨e | own, u⟩
  · rw [hr] at hrequests
    refine ⟨by simp, by simp [Entries.keys], by simp [Entries.keys], hrequests, by simp, ?_⟩
    intro e' he
    obtain rfl := Option.some.inj he
    have hnone : w.requests = w.requests ++ c.resourcesRequests [] := (List.append_nil _).symm
    have hnone' : ∀ q ∈ ([] : List PackageId), c.CanAsk q.account := by simp
    exact ⟨rfl, EndedBy.of_read hnone' hnone hr⟩
  · rw [hr] at hrequests
    refine ⟨by simp, by simp [Entries.keys], by simp [Entries.keys], hrequests, ?_, by simp⟩
    intro _ p hp
    rw [List.mem_singleton.mp hp]
    exact canAsk_of_readDependencies (congrArg Prod.fst hr)

private theorem fresh_record {d : Dependency}
    (hf : ∀ p ∈ Entries.keys new, p ∉ Entries.keys recorded)
    (hd : skips root (recorded ++ new) d = false) :
    ∀ p ∈ Entries.keys (new ++ [(d.target, d)]), p ∉ Entries.keys recorded := by
  intro p hp
  rcases mem_keys_record.mp hp with hp | rfl
  · exact hf p hp
  · exact fun hm => (not_skips_iff.mp hd).2.2 (mem_keys_append.mpr (.inl hm))

private theorem root_keys_record (root : PackageId) (new : DependencySet) (d : Dependency) :
    root :: Entries.keys (new ++ [(d.target, d)]) = (root :: Entries.keys new) ++ [d.target] := by
  simp [Entries.keys]

/-- Once the target of an edge has been recorded and read, its request is the last. -/
private theorem requests_record {before : List Request} {d : Dependency}
    {r : Except Failure (List Dependency)}
    (hw : w.requests = before ++ c.resourcesRequests (root :: Entries.keys new))
    (hr : readDependencies c d.target (noteDiscovered d.target w) = (r, v)) :
    v.requests = before ++
      c.resourcesRequests (root :: Entries.keys (new ++ [(d.target, d)])) := by
  have hv := readDependencies_requests c d.target (noteDiscovered d.target w)
  rw [hr] at hv
  have hnote : (noteDiscovered d.target w).requests = w.requests := rfl
  rw [root_keys_record, Client.resourcesRequests_append, ← List.append_assoc, ← hw, ← hnote]
  exact hv

/-- One step asks for what it records, and for nothing else. -/
theorem Accounted.step {before : List Request} (h : Accounted c root recorded before s new)
    (hst : Walk.Step c root s t) : ∃ new', Accounted c root recorded before t new' := by
  cases hst with
  | leave | pass =>
    exact ⟨new, h.kept, h.nodup, h.fresh, h.requests, h.asked,
      fun e he => absurd (h.ended e he).1 (by simp)⟩
  | @follow d rest outer r w f own w' hd hr =>
    obtain rfl : r = recorded ++ new := h.kept
    refine ⟨new ++ [(d.target, d)], List.append_assoc .., nodup_keys_record h.nodup hd,
      fresh_record h.fresh hd, requests_record h.requests hr, ?_,
      fun e he => absurd (h.ended e he).1 (by simp)⟩
    intro hf p hp
    rw [root_keys_record] at hp
    rcases List.mem_append.mp hp with hp | hp
    · exact h.asked hf p hp
    · rw [List.mem_singleton.mp hp]
      exact canAsk_of_readDependencies (congrArg Prod.fst hr)
  | @fail d rest outer r w f e w' hd hr =>
    obtain rfl : r = recorded ++ new := h.kept
    have hf : f = none := by
      cases f with
      | none => rfl
      | some e => exact absurd (h.ended e rfl).1 (by simp)
    refine ⟨new ++ [(d.target, d)], List.append_assoc .., nodup_keys_record h.nodup hd,
      fresh_record h.fresh hd, requests_record h.requests hr, by simp, ?_⟩
    intro e' he
    obtain rfl := Option.some.inj he
    have hasked : ∀ p ∈ root :: Entries.keys new, c.CanAsk p.account := h.asked hf
    have hw : (noteDiscovered d.target w).requests = _ := h.requests
    rw [root_keys_record]
    exact ⟨rfl, .of_read hasked hw hr⟩

theorem Accounted.run {before : List Request} (h : Accounted c root recorded before s new)
    (hrun : Relation.ReflTransGen (Walk.Step c root) s t) :
    ∃ new', Accounted c root recorded before t new' := by
  induction hrun with
  | refl => exact ⟨new, h⟩
  | tail _ hst ih =>
    obtain ⟨_, ih⟩ := ih
    exact ih.step hst

/-- Whatever a node answers, resolution asks for the resources of the root and then of each package
that it records, in the order in which they are recorded after what was recorded before. If it fails,
then on the package recorded last, or on the root with nothing recorded; only that one may be one
that cannot be asked for at all. An account without slashes has no resources address that is the
address of an interface. -/
theorem resolveFrom_requests (c : Client) (root : PackageId) (recorded : DependencySet)
    (w : World) :
    ∃ new, (resolveFrom c root recorded w).recorded = recorded ++ new ∧
      (Entries.keys new).Nodup ∧ (∀ p ∈ Entries.keys new, p ∉ Entries.keys recorded) ∧
      (resolveFrom c root recorded w).world.requests =
        w.requests ++ c.resourcesRequests (root :: Entries.keys new) ∧
      ((resolveFrom c root recorded w).failure = none →
        ∀ p ∈ root :: Entries.keys new, c.CanAsk p.account) ∧
      (∀ e, (resolveFrom c root recorded w).failure = some e →
        EndedBy c w.requests (root :: Entries.keys new) e
          (resolveFrom c root recorded w).world) ∧
      ∀ p ∈ root :: Entries.keys new, p.account.SlashFree →
        ∀ account module, (c.resourcesRequest p.account).url ≠ c.interfaceUrl account module := by
  obtain ⟨new, h⟩ := (Accounted.start c root recorded w).run (Walk.run_finish _).1
  exact ⟨new, h.kept, h.nodup, h.fresh, h.requests, h.asked, fun e he => (h.ended e he).2,
    fun p _ hp => c.resourcesUrl_ne_interfaceUrl hp⟩

namespace Sample

open MoveSkeleton.Sample

/-- One package that needs another, and nothing else. -/
def needing (account : Text) : World where
  node := [(client.resourcesUrl "0xa", [answer (resources [package "P" [(account, "Q")] []])])]
  disk := Disk.blank ["w"]

end Sample

/-- No request is made for an account with a control character, although its package is recorded.
The resources of an account whose name ends in `/module` are asked for where the interface of a
module `resources` would be. -/
theorem control_character_makes_no_request :
    let c := MoveSkeleton.Sample.client
    let root : PackageId := ⟨"0xa", "P"⟩
    let refused := resolveFrom c root [] (Sample.needing "0xb\u0001")
    let slashed := resolveFrom c root [] (Sample.needing "0xa/module")
    (refused.world.requests ≠
      (root :: Entries.keys refused.recorded).map fun p => c.resourcesRequest p.account) ∧
    ∃ r ∈ slashed.world.requests, r.url = c.interfaceUrl "0xa" "resources" := by
  intro c root refused slashed
  obtain ⟨hp, hrequests⟩ :
      ((Walk.turn c root)^[1] (Walk.start c root [] (Sample.needing "0xb\u0001"))).pending = [] ∧
      ((Walk.turn c root)^[1] (Walk.start c root [] (Sample.needing "0xb\u0001"))).world.requests ≠
        (root :: Entries.keys ((Walk.turn c root)^[1]
          (Walk.start c root [] (Sample.needing "0xb\u0001"))).recorded).map
            fun p => c.resourcesRequest p.account := by
    decide +kernel
  obtain ⟨hp', hslashed⟩ :
      ((Walk.turn c root)^[3] (Walk.start c root [] (Sample.needing "0xa/module"))).pending = [] ∧
      ∃ r ∈ ((Walk.turn c root)^[3]
        (Walk.start c root [] (Sample.needing "0xa/module"))).world.requests,
          r.url = c.interfaceUrl "0xa" "resources" := by
    decide +kernel
  constructor
  · rw [show refused = _ from Walk.finish_eq_iterate hp]
    exact hrequests
  · rw [show slashed = _ from Walk.finish_eq_iterate hp']
    exact hslashed

end Resolution

end MoveSkeleton
