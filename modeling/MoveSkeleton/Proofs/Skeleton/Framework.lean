import MoveSkeleton.Proofs.Resolution.Isolation
import MoveSkeleton.Proofs.Skeleton.Creation
import MoveSkeleton.Proofs.Text.Apart
import MoveSkeleton.Proofs.Together

/-! The accounts of the framework are left alone: nothing is asked of them, nothing of theirs is
written, and what a node holds at their addresses makes no difference. -/
namespace MoveSkeleton

/-- An account off the framework that stands between the same slashes in an address as it does. -/
structure Ordinary (account : Text) : Prop where
  ofNode : isFramework account = false
  slashFree : account.SlashFree

namespace Client

variable {c : Client} {account account' module url : Text}

/-- An address below an account. -/
def Below (c : Client) (account url : Text) : Prop :=
  ∃ rest, url.points = c.base.points ++ (Text.ofString "/v1/accounts/").points ++
    (account.points ++ .char '/' :: rest)

/-- An address at which the resources or a module of a framework account are asked for. -/
def IsFrameworkUrl (c : Client) (url : Text) : Prop :=
  ∃ account ∈ frameworkAccounts,
    url = c.resourcesUrl account ∨ ∃ module, url = c.interfaceUrl account module

theorem below_resourcesUrl (c : Client) (account : Text) :
    c.Below account (c.resourcesUrl account) :=
  ⟨_, by simp [resourcesUrl]; rfl⟩

theorem below_interfaceUrl (c : Client) (account module : Text) :
    c.Below account (c.interfaceUrl account module) :=
  ⟨_, by simp [interfaceUrl]; rfl⟩

/-- An address is below one account only. -/
theorem Below.unique (h : c.Below account url) (h' : c.Below account' url)
    (hfree : account.SlashFree) (hfree' : account'.SlashFree) : account = account' := by
  obtain ⟨rest, hurl⟩ := h
  obtain ⟨rest', hurl'⟩ := h'
  have hslash : Text.Apart (fun l => Text.SlashFree ⟨l⟩) (· = .char '/') :=
    Text.apart_of_notMem fun u a hu ha hm => hu a hm ha
  exact Text.ext_points (hslash.append_inj hfree hfree' (Text.stopsAt_cons rfl)
    (Text.stopsAt_cons rfl) (List.append_cancel_left (hurl.symm.trans hurl'))).1

theorem Below.not_isFrameworkUrl (h : c.Below account url) (ha : Ordinary account) :
    ¬ c.IsFrameworkUrl url := by
  rintro ⟨account', hmem, hurl⟩
  have hfree : ∀ x ∈ frameworkAccounts, x.SlashFree := by
    unfold Text.SlashFree
    decide
  have hbelow : c.Below account' url := by
    rcases hurl with rfl | ⟨module, rfl⟩
    · exact below_resourcesUrl ..
    · exact below_interfaceUrl ..
  obtain rfl := h.unique hbelow ha.slashFree (hfree _ hmem)
  have hframework := ha.ofNode
  simp only [isFramework, List.contains_eq_mem, hmem, decide_true, Bool.true_eq_false] at hframework

end Client

/-- Two worlds that differ at most in what their nodes hold at the addresses of the framework. Since
the world `a` none of these was asked for, and no package of the framework was written. -/
structure Shielded (c : Client) (a w v : World) : Prop where
  same : v = { w with node := v.node }
  node : ∀ url, ¬ c.IsFrameworkUrl url → Entries.get? v.node url = Entries.get? w.node url
  later : a.node.Later w.node
  requests : ∃ made, w.requests = a.requests ++ made ∧ ∀ r ∈ made, ¬ c.IsFrameworkUrl r.url
  events : ∃ noted, w.events = a.events ++ noted ∧
    ∀ p, .downloading p ∈ noted → isFramework p.account = false

section
variable {c : Client} {a w v : World} {account module url : Text} {e : Event} {root p : PackageId}
  {recorded : DependencySet}

theorem Shielded.start {n : Node}
    (hn : ∀ url, ¬ c.IsFrameworkUrl url → Entries.get? n url = Entries.get? w.node url) :
    Shielded c w w { w with node := n } where
  same := rfl
  node := hn
  later := .refl _
  requests := ⟨[], by simp, by simp⟩
  events := ⟨[], by simp, by simp⟩

/-- Events are noted in both worlds alike. -/
theorem Shielded.noteAll (h : Shielded c a w v) (noted : List Event)
    (he : ∀ p, .downloading p ∈ noted → isFramework p.account = false) :
    Shielded c a { w with events := w.events ++ noted } { v with events := v.events ++ noted } := by
  obtain ⟨before, hbefore, hdownloading⟩ := h.events
  refine ⟨?_, h.node, h.later, h.requests, before ++ noted, ?_, fun p hp => ?_⟩
  · have hevents := congrArg World.events h.same
    rw [h.same]
  · dsimp only
    rw [hbefore, List.append_assoc]
  · exact (List.mem_append.mp hp).elim (hdownloading p) (he p)

theorem Shielded.withDisk (h : Shielded c a w v) (d : Disk) :
    Shielded c a { w with disk := d } { v with disk := d } := by
  refine ⟨?_, h.node, h.later, h.requests, h.events⟩
  rw [h.same]

/-- An address off the framework is answered alike in both worlds. -/
theorem Shielded.request (account : Text) (h : Shielded c a w v) (hurl : ¬ c.IsFrameworkUrl url) :
    (c.request url account w).1 = (c.request url account v).1 ∧
      Shielded c a (c.request url account w).2 (c.request url account v).2 := by
  obtain ⟨n, rfl⟩ : ∃ n, v = { w with node := n } := ⟨_, h.same⟩
  obtain ⟨made, hmade, hoff⟩ := h.requests
  obtain ⟨noted, hnoted, hdownloading⟩ := h.events
  have hlater := h.later.trans (c.request_later url account w)
  obtain ⟨hanswer, hleft⟩ := Node.ask_of_get? (h.node url hurl)
  unfold Client.request at hlater ⊢
  cases hf : Address.fault? url with
  | some fault => exact ⟨rfl, h⟩
  | none =>
    rw [hf] at hlater
    dsimp only at hanswer hleft hlater ⊢
    rw [hanswer]
    refine ⟨rfl, rfl, fun url' hurl' => ?_, hlater,
      ⟨made ++ [⟨url, c.authorization url⟩], ?_, ?_⟩,
      noted ++ Client.refusals account ((w.node.ask url).1.valueAt url), ?_, fun p hp => ?_⟩
    · by_cases hsame : url' = url
      · subst hsame
        exact hleft
      · dsimp only
        rw [Node.get?_ask_of_ne hsame, Node.get?_ask_of_ne hsame]
        exact h.node url' hurl'
    · rw [hmade, List.append_assoc]
    · exact List.forall_mem_append.mpr ⟨hoff, List.forall_mem_singleton.mpr hurl⟩
    · rw [hnoted, List.append_assoc]
    · refine (List.mem_append.mp hp).elim (hdownloading p) fun hp => ?_
      unfold Client.refusals at hp
      split at hp
      · cases List.mem_singleton.mp hp
      · cases hp

theorem Shielded.readResources (h : Shielded c a w v) (ha : Ordinary account) :
    (c.readResources account w).1 = (c.readResources account v).1 ∧
      Shielded c a (c.readResources account w).2 (c.readResources account v).2 := by
  obtain ⟨hvalue, hworld⟩ := h.request account
    ((c.below_resourcesUrl account).not_isFrameworkUrl ha)
  rw [c.readResources_fst, c.readResources_fst, c.readResources_snd, c.readResources_snd, hvalue]
  exact ⟨rfl, hworld⟩

theorem Shielded.readInterface (h : Shielded c a w v) (ha : Ordinary account) :
    (c.readInterface account module w).1 = (c.readInterface account module v).1 ∧
      Shielded c a (c.readInterface account module w).2 (c.readInterface account module v).2 := by
  obtain ⟨hvalue, hworld⟩ := h.request account
    ((c.below_interfaceUrl account module).not_isFrameworkUrl ha)
  rw [c.readInterface_fst, c.readInterface_fst, c.readInterface_snd, c.readInterface_snd, hvalue]
  exact ⟨rfl, hworld⟩

/-- Off the framework, all dependencies that a node declares are of accounts without slashes. -/
def Node.DependsOnOrdinary (n : Node) : Prop :=
  ∀ d ∈ n.dependencies, isFramework d.account = false → d.account.SlashFree

namespace Resolution

/-- Of reading a package nothing is noted but why it has no dependencies. -/
theorem downloading_notMem_declared (p q : PackageId) (r : Except Failure (List Resource)) :
    .downloading q ∉ (declared p r).2 := by
  unfold declared
  split
  · split <;> simp
  · split
    · simp
    · split <;> simp

theorem readsTogether_shielded (hfree : a.node.DependsOnOrdinary) :
    ReadsTogether c (fun p => Ordinary p.account) (Shielded c a) where
  note p _ _ h := h.noteAll [.discovered p] (by simp)
  read p w v hp h := by
    obtain ⟨hread, hworld⟩ := h.readResources hp
    rw [readDependencies_eq, readDependencies_eq, hread]
    exact ⟨rfl, hworld.noteAll _ fun q hq => absurd hq (downloading_notMem_declared p q _)⟩
  leads p w v own h hown d hd ho :=
    ⟨ho, hfree d (h.later.dependencies (mem_dependencies_of_readDependencies hown hd)) ho⟩

/-- Whatever is recorded from before, no more of the framework is. -/
theorem Walk.Step.recorded_ordinary {s t : Walk} (hst : Walk.Step c root s t)
    (h : ∀ p ∈ Entries.keys s.recorded, isFramework p.account = false) :
    ∀ p ∈ Entries.keys t.recorded, isFramework p.account = false := by
  cases hst with
  | leave | pass => exact h
  | follow hd hr | fail hd hr =>
    intro p hp
    rcases mem_keys_record.mp hp with hp | rfl
    · exact h p hp
    · exact (not_skips_iff.mp hd).1

theorem recorded_ordinary (h : ∀ p ∈ Entries.keys recorded, isFramework p.account = false) :
    ∀ p ∈ Entries.keys (resolveFrom c root recorded w).recorded, isFramework p.account = false := by
  have hrun : ∀ {s t : Walk}, Relation.ReflTransGen (Walk.Step c root) s t →
      (∀ p ∈ Entries.keys s.recorded, isFramework p.account = false) →
      ∀ p ∈ Entries.keys t.recorded, isFramework p.account = false := by
    intro s t hrun hs
    induction hrun with
    | refl => exact hs
    | tail _ hst ih => exact hst.recorded_ordinary ih
  refine hrun (Walk.run_finish _).1 ?_
  rw [Walk.start, Walk.recorded_enter]
  exact h

end Resolution

/-- Two runs of an activity end the same way, in worlds that are shielded still. -/
abbrev RunShielded (c : Client) (a : World) {α : Type} (f : Activity α) : Prop :=
  Together (Shielded c a) f f (fun x y w v => x = y ∧ Shielded c a w v) (Shielded c a)

namespace Skeleton

open Activity Resolution

variable {folder target : Path} {ms : List Text} {ds : List Dependency} {isRoot : Bool}

theorem shielded_note (he : ∀ p, e = .downloading p → isFramework p.account = false) :
    RunShielded c a (note e) :=
  together_note fun _ _ h => ⟨rfl, h.noteAll [e] fun p hp => he p (List.mem_singleton.mp hp).symm⟩

theorem shielded_ofResult {α : Type} (r : Except Failure α) : RunShielded c a (ofResult r) :=
  together_ofResult fun _ _ h => .of_fst_eq rfl h

theorem shielded_onDisk {α : Type} (x : Disk.Action α) : RunShielded c a (onDisk x) := by
  intro w v h
  have hdisk : v.disk = w.disk := by rw [h.same]
  have hrun : ∀ u : World, (onDisk x).run.run u =
      ((x.run.run u.disk).1.mapError .disk, { u with disk := (x.run.run u.disk).2 }) := fun _ => rfl
  rw [hrun, hrun, hdisk]
  exact .of_fst_eq rfl (h.withDisk _)

theorem shielded_writeText (file : Path) (t : Text) : RunShielded c a (writeText file t) := by
  unfold writeText
  cases t.toUtf8 with
  | ok content => exact shielded_onDisk _
  | error fault => exact (shielded_onDisk _).bind_of fun _ _ _ => .throw fun _ _ h => h

theorem shielded_fetchResources (ha : Ordinary account) :
    RunShielded c a (c.fetchResources account) := by
  intro w v h
  obtain ⟨hread, hworld⟩ := h.readResources ha
  exact .of_fst_eq hread hworld

theorem shielded_fetchInterface (ha : Ordinary account) :
    RunShielded c a (c.fetchInterface account module) := by
  intro w v h
  obtain ⟨hread, hworld⟩ := h.readInterface ha
  exact .of_fst_eq hread hworld

theorem shielded_writeModules (ha : Ordinary account) :
    RunShielded c a (writeModules c account folder ms) := by
  induction ms with
  | nil => exact .pure fun _ _ h => ⟨rfl, h⟩
  | cons m ms ih =>
    refine (shielded_fetchInterface ha).bind_of fun i _ hi => hi ▸ ?_
    refine (shielded_writeText _ _).bind_of fun _ _ _ => ?_
    exact (shielded_note (by simp)).bind_of fun _ _ _ => ih

theorem shielded_writePackage (ha : Ordinary p.account) :
    RunShielded c a (writePackage c p folder isRoot) := by
  have hfiles : RunShielded c a (writeFiles c p folder isRoot) := by
    refine (shielded_fetchResources ha).bind_of fun rs _ hrs => hrs ▸ ?_
    refine (shielded_ofResult _).bind_of fun record _ hrecord => hrecord ▸ ?_
    refine (shielded_onDisk _).bind_of fun _ _ _ => ?_
    refine (shielded_writeModules ha).bind_of fun _ _ _ => ?_
    refine (shielded_writeText _ _).bind_of fun _ _ _ => ?_
    exact (shielded_note (by simp)).bind_of fun _ _ _ => .pure fun _ _ h => ⟨rfl, h⟩
  refine (shielded_note fun q hq => ?_).bind_of fun _ _ _ => ?_
  · rw [← Event.downloading.inj hq]
    exact ha.ofNode
  · exact together_notingFailure hfiles fun w v e h => h.noteAll _ (by simp)

theorem shielded_writeDependencies (hds : ∀ d ∈ ds, Ordinary d.account) :
    RunShielded c a (writeDependencies c folder ds) := by
  induction ds with
  | nil => exact .pure fun _ _ h => ⟨rfl, h⟩
  | cons d ds ih =>
    obtain ⟨hd, hds⟩ := List.forall_mem_cons.mp hds
    exact (shielded_writePackage hd).bind_of fun _ _ _ => ih hds

theorem shielded_clear : RunShielded c a (clear folder) := by
  refine .get_bind fun w v h => ?_
  have hdisk : v.disk = w.disk := by rw [h.same]
  rw [hdisk]
  refine ((shielded_ofResult _).bind_of fun found _ hfound => hfound ▸ ?_) w v h
  cases found with
  | true => exact (shielded_note (by simp)).bind_of fun _ _ _ => shielded_onDisk _
  | false => exact .pure fun _ _ h => ⟨rfl, h⟩

/-- What is resolved is off the framework, and all of it may be asked. -/
theorem shielded_resolve (hroot : Ordinary root.account) (hfree : a.node.DependsOnOrdinary) :
    Together (Shielded c a) (resolve c root) (resolve c root)
      (fun x y w v => (x = y ∧ (∀ p ∈ Entries.keys x, isFramework p.account = false) ∧
        ∀ d ∈ x.map (·.2), Ordinary d.account) ∧ Shielded c a w v) (Shielded c a) := by
  intro w v h
  have hend := resolveFrom_together root [] (readsTogether_shielded hfree) hroot h
  have hkeys : ∀ p ∈ Entries.keys (resolveFrom c root [] w).recorded,
      isFramework p.account = false := recorded_ordinary (by simp [Entries.keys])
  have hordinary : ∀ d ∈ (resolveFrom c root [] w).recorded.map (·.2), Ordinary d.account := by
    intro d hd
    obtain ⟨e, he, rfl⟩ := List.mem_map.mp hd
    obtain ⟨hmem, ho⟩ := declared_resolveFrom c root w e he
    exact ⟨ho, hfree _ (h.later.dependencies hmem) ho⟩
  unfold resolve
  simp only [ExceptT.run_mk, StateT.run]
  rw [← hend.failure]
  cases (resolveFrom c root [] w).failure with
  | none => exact .returned ⟨⟨hend.recorded, hkeys, hordinary⟩, hend.world⟩
  | some e => exact .failed hend.world

theorem shielded_create (target : Path) (hroot : Ordinary root.account)
    (hfree : a.node.DependsOnOrdinary) :
    Together (Shielded c a) (create c root target) (create c root target)
      (fun x y w v => (x = y ∧ ∀ p ∈ Entries.keys x.dependencies, isFramework p.account = false) ∧
        Shielded c a w v) (Shielded c a) := by
  refine shielded_clear.bind_of fun _ _ _ => ?_
  refine (shielded_resolve hroot hfree).bind_of fun dependencies _ h => h.1 ▸ ?_
  obtain ⟨-, hkeys, hordinary⟩ := h
  refine (shielded_note (by simp)).bind_of fun _ _ _ => ?_
  refine (shielded_writePackage hroot).bind_of fun _ _ _ => ?_
  refine (shielded_onDisk _).bind_of fun _ _ _ => ?_
  exact (shielded_writeDependencies hordinary).bind_of fun _ _ _ =>
    .pure fun _ _ h => ⟨⟨rfl, hkeys⟩, h⟩

/-- For a root off the framework, and accounts without slashes, neither a resolution nor a run asks
for anything of the framework, whatever the node answers and when. None of its packages is recorded
or written. A node with anything else at the addresses of the framework, and nowhere else, makes no
difference to what is recorded or returned, to how it ends, and to what it leaves behind. -/
theorem framework_untouched {n : Node} (hroot : isFramework root.account = false)
    (hfree : root.account.SlashFree) (hnode : w.node.DependsOnOrdinary)
    (hn : ∀ url, ¬ c.IsFrameworkUrl url → Entries.get? n url = Entries.get? w.node url) :
    let v : World := { w with node := n }
    (∀ recorded : DependencySet, (∀ p ∈ Entries.keys recorded, isFramework p.account = false) →
      let s := resolveFrom c root recorded w
      let t := resolveFrom c root recorded v
      Shielded c w s.world t.world ∧
        (∀ p ∈ Entries.keys s.recorded, isFramework p.account = false) ∧
        s.recorded = t.recorded ∧ s.failure = t.failure) ∧
    ∀ target,
      let run := (create c root target).run.run
      Shielded c w (run w).2 (run v).2 ∧ (run w).1 = (run v).1 ∧
        ∀ s, (run w).1 = .ok s →
          ∀ p ∈ Entries.keys s.dependencies, isFramework p.account = false := by
  intro v
  have hstart : Shielded c w w v := .start hn
  refine ⟨fun recorded hrecorded => ?_, fun target => ?_⟩
  · have hend := resolveFrom_together root recorded (readsTogether_shielded hnode)
      ⟨hroot, hfree⟩ hstart
    exact ⟨hend.world, recorded_ordinary hrecorded, hend.recorded, hend.failure⟩
  · have hend := shielded_create target ⟨hroot, hfree⟩ hnode w v hstart
    have hsame : EndTogether (fun x y s t => x = y ∧ Shielded c w s t) (Shielded c w) _ _ :=
      hend.mono (fun _ _ _ _ h => ⟨h.1.1, h.2⟩) fun _ _ h => h
    obtain ⟨houtcome, hworld⟩ := hsame.fst_eq
    refine ⟨hworld, houtcome, fun s hs => ?_⟩
    generalize (create c root target).run.run w = r, (create c root target).run.run v = r' at *
    cases hend with
    | returned h =>
      obtain rfl := Except.ok.inj hs
      exact h.1.2
    | failed h => cases hs

namespace Sample

open MoveSkeleton.Sample

/-- A node that serves a framework package as well, which needs a package off the framework. -/
def framed : Node :=
  Entries.put node (client.resourcesUrl "0x1")
    [answer (resources [package "AptosStdlib" [("0xf", "F")] ["table"]])]

end Sample

/-- For two packages that need each other, one of which needs a framework package. -/
theorem framework_untouched_framed :
    let c := MoveSkeleton.Sample.client
    let w := MoveSkeleton.Sample.world
    let v : World := { w with node := Sample.framed }
    let root : PackageId := ⟨"0xa", "P"⟩
    let run := (create c root (Path.ofText "out")).run.run
    isFramework root.account = false ∧ root.account.SlashFree ∧ w.node.DependsOnOrdinary ∧
    (∀ url, ¬ c.IsFrameworkUrl url → Entries.get? v.node url = Entries.get? w.node url) ∧
    (resolveFrom c root [] w).recorded = (resolveFrom c root [] v).recorded ∧
    Shielded c w (run w).2 (run v).2 ∧ (run w).1 = (run v).1 := by
  intro c w v root run
  have hroot : isFramework root.account = false := by decide
  have hfree : root.account.SlashFree := by
    unfold Text.SlashFree
    decide
  have hnode : w.node.DependsOnOrdinary := by
    unfold Node.DependsOnOrdinary Text.SlashFree
    decide +kernel
  have hn : ∀ url, ¬ c.IsFrameworkUrl url →
      Entries.get? v.node url = Entries.get? w.node url := by
    intro url hurl
    refine (Entries.get?_put ..).trans (if_neg ?_)
    rintro rfl
    exact hurl ⟨"0x1", by decide, .inl rfl⟩
  obtain ⟨hresolve, hcreate⟩ := framework_untouched hroot hfree hnode hn
  obtain ⟨hworld, houtcome, -⟩ := hcreate (Path.ofText "out")
  exact ⟨hroot, hfree, hnode, hn, (hresolve [] (by simp [Entries.keys])).2.2.1, hworld, houtcome⟩

end Skeleton

end

end MoveSkeleton
