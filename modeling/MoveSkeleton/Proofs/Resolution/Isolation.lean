import MoveSkeleton.Proofs.Resolution.Chain
import MoveSkeleton.Proofs.Resolution.Lockstep
import MoveSkeleton.Proofs.Resolution.Requests

/-! Accounts that cannot be read take away from a resolution what is reached by way of them alone. -/
namespace MoveSkeleton

namespace Node

variable {n m n' m' : Node} {url x : Text} {answers : List Answer}

/-- A request tells, and leaves to tell, at its address what is to come there. -/
theorem ask_of_get? (h : Entries.get? n' x = Entries.get? n x) :
    (n'.ask x).1 = (n.ask x).1 ∧
      Entries.get? (n'.ask x).2 x = Entries.get? (n.ask x).2 x := by
  unfold ask
  rw [h]
  rcases hn : Entries.get? n x with _ | _ | ⟨a, _ | ⟨b, rest⟩⟩ <;>
    simp [Entries.get?_put, hn, h]

theorem get?_ask_of_ne (h : x ≠ url) : Entries.get? (n.ask url).2 x = Entries.get? n x := by
  unfold ask
  split
  · rw [Entries.get?_put, if_neg h]
  all_goals rfl

/-- Of two nodes that hold the same at an address the one can follow the other there. -/
theorem Later.mirror (h : n'.Later m') (hx : Entries.get? n' x = Entries.get? n x) :
    ∃ m, n.Later m ∧ Entries.get? m' x = Entries.get? m x := by
  induction h with
  | refl => exact ⟨n, .refl n, hx⟩
  | @tail k' m' _ hstep ih =>
    obtain ⟨url, rfl⟩ := hstep
    obtain ⟨k, hk, hget⟩ := ih
    by_cases hurl : x = url
    · subst hurl
      exact ⟨_, hk.trans (later_ask k x), (ask_of_get? hget).2⟩
    · exact ⟨k, hk, (get?_ask_of_ne hurl).trans hget⟩

/-- At an address with answers some of them are left whatever is asked. -/
theorem Later.get? (h : n.Later m) (hx : Entries.get? n x = some answers) (hne : answers ≠ []) :
    ∃ left, Entries.get? m x = some left ∧ left ≠ [] ∧ ∀ a ∈ left, a ∈ answers := by
  induction h with
  | refl => exact ⟨answers, hx, hne, fun _ ha => ha⟩
  | @tail k m _ hstep ih =>
    obtain ⟨url, rfl⟩ := hstep
    obtain ⟨left, hk, hleft, hsub⟩ := ih
    by_cases hurl : x = url
    · subst hurl
      unfold ask
      match left, hleft with
      | [a], _ => exact ⟨[a], by simp [hk], by simp, hsub⟩
      | a :: b :: rest, _ =>
        refine ⟨b :: rest, by simp [hk, Entries.get?_put], by simp, ?_⟩
        exact fun x hx => hsub x (List.mem_cons_of_mem _ hx)
    · exact ⟨left, (get?_ask_of_ne hurl).trans hk, hleft, hsub⟩

end Node

namespace Client

variable {c : Client} {account account' : Text} {w v : World}

theorem resourcesUrl_inj (h : c.resourcesUrl account = c.resourcesUrl account') :
    account = account' := by
  have hpoints := congrArg Text.points h
  simp only [resourcesUrl, Text.points_append, List.append_cancel_right_eq,
    List.append_cancel_left_eq] at hpoints
  cases account
  cases account'
  exact congrArg Text.mk hpoints

theorem readResources_fst_of_canAsk (h : c.CanAsk account) :
    (c.readResources account w).1 =
      ((w.node.ask (c.resourcesUrl account)).1.valueAt (c.resourcesUrl account)).bind
        (Answer.resourcesOf (c.resourcesUrl account)) := by
  have hf : Address.fault? (c.resourcesUrl account) = none := h
  simp only [readResources, request, hf]

theorem readResources_fst_of_not_canAsk (h : ¬ c.CanAsk account) :
    (c.readResources account w).1 = (c.readResources account v).1 := by
  obtain ⟨fault, hf⟩ := Option.ne_none_iff_exists'.mp h
  simp only [readResources, request, hf]

/-- What is read of an account depends on the answers to come at its address alone. -/
theorem readResources_fst_of_get? (h : Entries.get? w.node (c.resourcesUrl account) =
    Entries.get? v.node (c.resourcesUrl account)) :
    (c.readResources account w).1 = (c.readResources account v).1 := by
  by_cases hask : c.CanAsk account
  · rw [readResources_fst_of_canAsk hask, readResources_fst_of_canAsk hask, (Node.ask_of_get? h).1]
  · exact readResources_fst_of_not_canAsk hask

end Client

namespace Resolution

variable {c : Client} {root p q : PackageId} {recorded : DependencySet} {w v w' : World}
  {n n' : Node} {answers : Answers} {F : Text → Prop} {account : Text}
  {P : Except Failure (List Resource) → Prop} {r : Except Failure (List Resource)}

/-- The second node has other answers than the first for the resources of the accounts in `F` alone.
Whatever has been asked before, each of these accounts that can be asked for at all then reads as
something that satisfies `P`. -/
structure Replaced (c : Client) (F : Text → Prop) (P : Except Failure (List Resource) → Prop)
    (n n' : Node) : Prop where
  rest : ∀ url, (∀ account, F account → url ≠ c.resourcesUrl account) →
    Entries.get? n' url = Entries.get? n url
  read : ∀ w : World, n'.Later w.node → ∀ account, F account → c.CanAsk account →
    P (c.readResources account w).1

/-- A failure that resolution passes over. -/
def IsSoftFailure (r : Except Failure (List Resource)) : Prop :=
  ∃ e, r = .error e ∧ e.isOfNode = true

/-- Other answers at the address of one account. -/
theorem Replaced.put {told : List Answer} (hne : told ≠ [])
    (h : ∀ a ∈ told, P ((a.valueAt (c.resourcesUrl account)).bind
      (Answer.resourcesOf (c.resourcesUrl account)))) :
    Replaced c (· = account) P n (Entries.put n (c.resourcesUrl account) told) where
  rest url hurl := by rw [Entries.get?_put, if_neg (hurl account rfl)]
  read w hw x hx hask := by
    subst hx
    have hput : Entries.get? (Entries.put n (c.resourcesUrl x) told) (c.resourcesUrl x) =
        some told := by rw [Entries.get?_put, if_pos rfl]
    obtain ⟨left, hget, hleft, hsub⟩ := hw.get? hput hne
    rw [Client.readResources_fst_of_canAsk hask]
    refine h _ (hsub _ ?_)
    unfold Node.ask
    rw [hget]
    match left, hleft with
    | [a], _ => exact List.mem_singleton.mpr rfl
    | a :: _ :: _, _ => exact List.mem_cons_self

/-- An account outside of `F` reads as it may read at the first node. -/
theorem Replaced.readResources (h : Replaced c F P n n') (hn : n'.Later w.node)
    (ha : ¬ F account) :
    ∃ v : World, n.Later v.node ∧ (c.readResources account w).1 = (c.readResources account v).1 := by
  have hurl : ∀ x, F x → c.resourcesUrl account ≠ c.resourcesUrl x := by
    intro x hx hu
    exact ha (Client.resourcesUrl_inj hu ▸ hx)
  obtain ⟨m, hm, hget⟩ := hn.mirror (h.rest _ hurl)
  exact ⟨{ w with node := m }, hm, Client.readResources_fst_of_get? hget⟩

/-- Whatever has been asked before, the node declares the edges that the answers declare. -/
def Declares (c : Client) (n : Node) (answers : Answers) : Prop :=
  ∀ w : World, n.Later w.node → ∀ p,
    (readDependencies c p w).1 = (declared p (answers p.account)).1

theorem Constant.declares (h : Constant c n answers) : Declares c n answers := by
  intro w hw p
  rw [readDependencies_fst, h w hw]

theorem Declares.heeds (h : Declares c w.node answers) : Heeds c root recorded w answers where
  first := h w (.refl _) root
  later s hs d _ := by
    refine h (noteDiscovered d.target s.world) (.trans ?_ (Walk.later_of_run hs)) d.target
    rw [Walk.world_start]
    exact readDependencies_later c root w

theorem declared_of_soft (h : IsSoftFailure r) : (declared p r).1 = .ok [] := by
  obtain ⟨e, rfl, he⟩ := h
  simp [declared, he]

theorem declared_nil (p : PackageId) : (declared p (.ok [])).1 = .ok [] := rfl

/-- A node with other answers declares what the first one does, if the accounts with other answers
declare nothing there and are to declare nothing. -/
theorem Replaced.declares (h : Replaced c F P n n') (hP : ∀ p r, P r → (declared p r).1 = .ok [])
    (hn : ∀ w : World, n.Later w.node → ∀ p, ¬ (F p.account ∧ c.CanAsk p.account) →
      (readDependencies c p w).1 = (declared p (answers p.account)).1)
    (hF : ∀ p : PackageId, F p.account ∧ c.CanAsk p.account →
      (declared p (answers p.account)).1 = .ok []) : Declares c n' answers := by
  intro w hw p
  by_cases hp : F p.account ∧ c.CanAsk p.account
  · rw [readDependencies_fst, hP p _ (h.read w hw _ hp.1 hp.2), hF p hp]
  · obtain ⟨v, hv, hread⟩ : ∃ v : World, n.Later v.node ∧
        (c.readResources p.account w).1 = (c.readResources p.account v).1 := by
      by_cases hFp : F p.account
      · have hask : ¬ c.CanAsk p.account := fun hc => hp ⟨hFp, hc⟩
        exact ⟨{ w with node := n }, .refl n, Client.readResources_fst_of_not_canAsk hask⟩
      · exact h.readResources hw hFp
    rw [readDependencies_fst, hread, ← readDependencies_fst, hn v hv p hp]

open Classical in
/-- The answers without those of the accounts in `F`, of which no registry is found. -/
noncomputable def impaired (c : Client) (F : Text → Prop) (answers : Answers) : Answers :=
  fun account =>
    if F account ∧ c.CanAsk account then .error (.noRegistry account) else answers account

theorem impaired_of_not (h : ¬ (F account ∧ c.CanAsk account)) :
    impaired c F answers account = answers account :=
  if_neg h

theorem isSoftFailure_impaired (answers : Answers) (h : F account ∧ c.CanAsk account) :
    IsSoftFailure (impaired c F answers account) :=
  ⟨.noRegistry account, if_pos h, rfl⟩

/-- A node with softly failing answers declares what is left without them. -/
theorem Replaced.declares_impaired (h : Replaced c F IsSoftFailure n n')
    (hc : Constant c n answers) : Declares c n' (impaired c F answers) := by
  refine h.declares (fun p r hr => declared_of_soft hr) (fun w hw p hp => ?_) fun p hp =>
    declared_of_soft (isSoftFailure_impaired answers hp)
  rw [impaired_of_not hp]
  exact hc.declares w hw p

/-- Where softly failing answers give way to empty lists, the same is declared. -/
theorem Replaced.declares_empty {G : Text → Prop} (h : Replaced c G (· = .ok []) n n')
    (hd : Declares c n answers)
    (hG : ∀ w : World, n.Later w.node → ∀ account, G account → c.CanAsk account →
      IsSoftFailure (c.readResources account w).1) : Declares c n' answers := by
  refine h.declares (fun p r hr => hr ▸ declared_nil p) (fun w hw p _ => hd w hw p) fun p hp => ?_
  have hw : n.Later ({ (default : World) with node := n } : World).node := .refl n
  rw [← hd _ hw p, readDependencies_fst]
  exact declared_of_soft (hG _ hw _ hp.1 hp.2)

theorem edges_of_error {e : Failure} (h : answers p.account = .error e) : edges answers p = [] := by
  simp only [edges, recordOf, h]
  rfl

/-- What is left are the edges from accounts outside of `F`. One that cannot be asked for has none
anyway. -/
theorem leads_impaired_iff (hc : Constant c n answers) :
    Leads (impaired c F answers) p q ↔ Leads answers p q ∧ ¬ F p.account := by
  by_cases hF : F p.account
  · have hnone : edges (impaired c F answers) p = [] := by
      by_cases hask : c.CanAsk p.account
      · obtain ⟨e, he, -⟩ := isSoftFailure_impaired answers ⟨hF, hask⟩
        exact edges_of_error he
      · obtain ⟨fault, hf⟩ := Option.ne_none_iff_exists'.mp hask
        have hw : n.Later ({ (default : World) with node := n } : World).node := .refl n
        have hread := hc _ hw p.account
        simp only [Client.readResources, Client.request, hf] at hread
        refine edges_of_error (e := .address fault) ?_
        rw [impaired_of_not fun h => hask h.2, ← hread]
        rfl
    simp [Leads, hnone, hF]
  · have hsame : edges (impaired c F answers) p = edges answers p := by
      simp only [edges, recordOf, impaired_of_not fun h : F p.account ∧ _ => hF h.1]
    simp [Leads, hsame, hF]

theorem leadsOn_impaired_le (hc : Constant c n answers) :
    LeadsOn (impaired c F answers) root recorded ≤ LeadsOn answers root recorded :=
  fun _ _ h => ⟨((leads_impaired_iff hc).mp h.1).1, h.2⟩

theorem failsSoftly_impaired (hc : Constant c n answers) (hs : FailsSoftly root recorded answers) :
    FailsSoftly root recorded (impaired c F answers) := by
  intro p hp e he
  by_cases hF : F p.account ∧ c.CanAsk p.account
  · obtain ⟨e', he', hsoft⟩ := isSoftFailure_impaired answers hF
    rw [he'] at he
    exact Except.error.inj he ▸ hsoft
  · rw [impaired_of_not hF] at he
    exact hs p (Relation.ReflTransGen.mono (leadsOn_impaired_le hc) _ _ hp) e he

/-- All that a resolution from nothing recorded asks for, told by what it records. -/
theorem requests_resolveFrom (c : Client) (root : PackageId) (w : World) :
    (resolveFrom c root [] w).world.requests = w.requests ++
      c.resourcesRequests (root :: Entries.keys (resolveFrom c root [] w).recorded) := by
  obtain ⟨new, h⟩ := (Accounted.start c root [] w).run (Walk.run_finish _).1
  have hnew : (resolveFrom c root [] w).recorded = new := h.kept
  rw [hnew]
  exact h.requests

/-- Nodes that declare the same have the same recorded, and are asked the same. -/
theorem resolveFrom_of_declares (root : PackageId) (recorded : DependencySet)
    (hw : Declares c w.node answers) (hv : Declares c v.node answers) :
    (resolveFrom c root recorded w).recorded = (resolveFrom c root recorded v).recorded ∧
      (resolveFrom c root recorded w).failure = (resolveFrom c root recorded v).failure := by
  have hR : ReadsTogether c (fun _ => True)
      fun w' v' => w.node.Later w'.node ∧ v.node.Later v'.node :=
    { note := fun _ _ _ h => h
      read := fun p w' v' _ h => ⟨(hw w' h.1 p).trans (hv v' h.2 p).symm,
        h.1.trans (readDependencies_later c p w'), h.2.trans (readDependencies_later c p v')⟩
      leads := fun _ _ _ _ _ _ _ _ _ => trivial }
  have h := resolveFrom_together root recorded hR trivial ⟨.refl w.node, .refl v.node⟩
  exact ⟨h.recorded, h.failure⟩

theorem explored_of_declares (h : Declares c w.node answers)
    (hf : (resolveFrom c root [] w).failure = none) :
    Explored answers root [] (resolveFrom c root [] w) (resolveFrom c root [] w).recorded := by
  obtain ⟨new, hx⟩ := explored_of_heeds h.heeds (Walk.run_finish _).1 hf
  have hnew : (resolveFrom c root [] w).recorded = new := hx.kept
  exact hnew ▸ hx

/-- A package stands in what is recorded with one edge only, the one that names it. -/
theorem mem_of_mem_keys {all more : DependencySet} (hall : ∀ e ∈ all, e.2.target = e.1)
    (hmore : ∀ e ∈ more, e.2.target = e.1) {e : PackageId × Dependency} (he : e ∈ more)
    (h : e.1 ∈ Entries.keys all) : e ∈ all := by
  obtain ⟨e', he', hkey⟩ := List.mem_map.mp h
  have htarget : e'.2.target = e.2.target := by rw [hall e' he', hmore e he, hkey]
  have hedge : e'.2 = e.2 := by
    obtain ⟨_, ⟨_, _⟩⟩ := e'
    obtain ⟨_, ⟨_, _⟩⟩ := e
    simpa [Dependency.target] using htarget
  have heq : e' = e := Prod.ext hkey hedge
  exact heq ▸ he'

/-- Where the resources of some accounts cannot be read any more, resolution still returns. What it
records was recorded before. It is all that edges off the framework lead to which start at accounts
that can be read, and nothing else. Instead of failing, the accounts may as well list nothing. -/
theorem resolveFrom_isolates_failures (hc : Constant c w.node answers)
    (hf : (resolveFrom c root [] w).failure = none)
    (h : Replaced c F IsSoftFailure w.node w'.node) :
    (resolveFrom c root [] w').failure = none ∧
    (resolveFrom c root [] w').recorded ⊆ (resolveFrom c root [] w).recorded ∧
    (∀ p, p ∈ Entries.keys (resolveFrom c root [] w').recorded ↔
      p ≠ root ∧ Relation.TransGen (fun p q => Leads answers p q ∧ ¬ F p.account) root p) ∧
    ∀ (G : Text → Prop) (w'' : World),
      (∀ v : World, w'.node.Later v.node → ∀ account, G account → c.CanAsk account →
        IsSoftFailure (c.readResources account v).1) →
      Replaced c G (· = .ok []) w'.node w''.node → w''.requests = w'.requests →
        (resolveFrom c root [] w'').failure = none ∧
        (resolveFrom c root [] w'').recorded = (resolveFrom c root [] w').recorded ∧
        (resolveFrom c root [] w'').world.requests = (resolveFrom c root [] w').world.requests := by
  have hpending : ∀ v, (resolveFrom c root [] v).pending = [] := fun v => (Walk.run_finish _).2
  have hx := explored_of_declares hc.declares hf
  have hd : Declares c w'.node (impaired c F answers) := h.declares_impaired hc
  have hf' : (resolveFrom c root [] w').failure = none :=
    unfailed_of_heeds hd.heeds (failsSoftly_impaired hc (hx.failsSoftly (hpending w)))
      (Walk.run_finish _).1
  have hx' := explored_of_declares hd hf'
  have hleads : Leads (impaired c F answers) = fun p q => Leads answers p q ∧ ¬ F p.account :=
    funext₂ fun p q => propext (leads_impaired_iff hc)
  refine ⟨hf', fun e he => ?_, fun p => ?_, fun G w'' hG hempty hrequests => ?_⟩
  · refine mem_of_mem_keys hx.target hx'.target he ((hx.mem_keys_iff (hpending w)).mpr ?_)
    have hkey := (hx'.mem_keys_iff (hpending w')).mp (List.mem_map.mpr ⟨e, he, rfl⟩)
    exact Relation.TransGen.mono (leadsOn_impaired_le hc) _ _ hkey
  · rw [hx'.mem_keys_iff (hpending w'), ← reached_iff, Reached, hleads]
    refine and_congr_right fun hp => ?_
    rw [Relation.reflTransGen_iff_eq_or_transGen, or_iff_right hp]
  · obtain ⟨hrecorded, hfailure⟩ :=
      resolveFrom_of_declares root [] (hempty.declares_empty hd hG) hd
    refine ⟨hfailure.trans hf', hrecorded, ?_⟩
    rw [requests_resolveFrom, requests_resolveFrom, hrecorded, hrequests]

namespace Sample

open MoveSkeleton.Sample

/-- Resolution of the first package comes to its end without failing. -/
theorem unfailed : (resolveFrom client ⟨"0xa", "P"⟩ [] world).failure = none := by
  obtain ⟨hp, hf⟩ :
      ((Walk.turn client ⟨"0xa", "P"⟩)^[8] (Walk.start client ⟨"0xa", "P"⟩ [] world)).pending = [] ∧
      ((Walk.turn client ⟨"0xa", "P"⟩)^[8]
        (Walk.start client ⟨"0xa", "P"⟩ [] world)).failure = none := by
    decide +kernel
  rw [resolveFrom, Walk.finish_eq_iterate hp]
  exact hf

/-- The second account cannot be reached, and then is not there. -/
def impairedNode : Node :=
  Entries.put node (client.resourcesUrl "0xb") [.failure .connect "refused", .notFound]

/-- The second account lists nothing. -/
def emptiedNode : Node :=
  Entries.put impairedNode (client.resourcesUrl "0xb") [answer (.list [])]

theorem replaced_impaired :
    Replaced client (· = "0xb") IsSoftFailure world.node impairedNode := by
  refine .put (by simp) fun a ha => ?_
  simp only [List.mem_cons, List.not_mem_nil, or_false] at ha
  rcases ha with rfl | rfl
  · exact ⟨.transport .connect "refused", eq_error (by decide +kernel), rfl⟩
  · exact ⟨.status 404 (client.resourcesUrl "0xb"), eq_error (by decide +kernel), rfl⟩

theorem eq_ok_nil {ε α : Type} {r : Except ε (List α)}
    (h : r.toOption.map List.length = some 0) : r = .ok [] := by
  cases r with
  | error e => cases h
  | ok l => rw [List.eq_nil_of_length_eq_zero (Option.some.inj h)]

theorem replaced_emptied :
    Replaced client (· = "0xb") (· = .ok []) impairedNode emptiedNode := by
  refine .put (by simp) fun a ha => ?_
  rw [List.mem_singleton.mp ha]
  exact eq_ok_nil (by decide +kernel)

end Sample

/-- For two packages that need each other, one of which cannot be read any more. -/
theorem resolveFrom_isolates_failures_in_cycle :
    let c := MoveSkeleton.Sample.client
    let w := MoveSkeleton.Sample.world
    let w' : World := { w with node := Sample.impairedNode }
    let w'' : World := { w with node := Sample.emptiedNode }
    let root : PackageId := ⟨"0xa", "P"⟩
    let answers := answersAt c w
    let F : Text → Prop := (· = "0xb")
    Constant c w.node answers ∧ (resolveFrom c root [] w).failure = none ∧
    Replaced c F IsSoftFailure w.node w'.node ∧
    (∀ v : World, w'.node.Later v.node → ∀ account, F account → c.CanAsk account →
      IsSoftFailure (c.readResources account v).1) ∧
    Replaced c F (· = .ok []) w'.node w''.node ∧
    (resolveFrom c root [] w').failure = none ∧
    (resolveFrom c root [] w').recorded ⊆ (resolveFrom c root [] w).recorded ∧
    (∀ p, p ∈ Entries.keys (resolveFrom c root [] w').recorded ↔
      p ≠ root ∧ Relation.TransGen (fun p q => Leads answers p q ∧ ¬ F p.account) root p) ∧
    (resolveFrom c root [] w'').recorded = (resolveFrom c root [] w').recorded := by
  intro c w w' w'' root answers F
  have hc : Constant c w.node answers := .of_steady MoveSkeleton.Sample.node_steady
  have hreplaced : Replaced c F IsSoftFailure w.node w'.node := Sample.replaced_impaired
  obtain ⟨hf, hsub, hkeys, hempty⟩ := resolveFrom_isolates_failures hc Sample.unfailed hreplaced
  exact ⟨hc, Sample.unfailed, hreplaced, hreplaced.read,
    Sample.replaced_emptied, hf, hsub, hkeys,
    (hempty F w'' hreplaced.read Sample.replaced_emptied rfl).2.1⟩

end Resolution

end MoveSkeleton
