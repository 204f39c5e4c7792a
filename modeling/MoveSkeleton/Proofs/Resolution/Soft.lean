import MoveSkeleton.Proofs.Node.Later
import MoveSkeleton.Proofs.Package.Overflow
import MoveSkeleton.Proofs.Resolution.Preorder
import MoveSkeleton.Proofs.Resolution.Reachability

/-! What resolution passes over: a package that cannot be read, whatever the node answers, unless
the answer lies too deep, holds an infinite number, or cannot be asked for. -/
namespace MoveSkeleton

/-- A request to the address can be sent, and its reply is looked at. -/
def Address.Sound (url : Text) : Prop :=
  Address.fault? url = none ∧ Address.relative? url = none

instance : DecidablePred Address.Sound :=
  fun url => inferInstanceAs (Decidable (Address.fault? url = none ∧ Address.relative? url = none))

namespace Answer

variable {a : Answer} {url : Text} {e : Failure}

/-- Whether a successful answer is not told as malformed although nothing is read from it: its
values lie too deep, or a package that it lists has an infinite number. -/
def ends : Answer → Bool
  | .failure _ _ => false
  | .reply status body =>
    decide (200 ≤ status ∧ status < 300) && match Json.decode body with
      | .error (.unreadable (.tooDeep _)) => true
      | .ok (.list items) => items.any Resource.overflows
      | _ => false

theorem isOfNode_of_value (h : a.value url = .error e) (ha : a.ends = false) :
    e.isOfNode = true := by
  cases a with
  | failure lapse message =>
    obtain rfl := Except.error.inj h
    rfl
  | reply status body =>
    simp only [value, ends] at h ha
    split at h
    · next hs =>
      rw [decide_eq_true hs, Bool.true_and] at ha
      cases hb : Json.decode body with
      | ok v =>
        rw [hb] at h
        cases h
      | error fault =>
        rw [hb] at h ha
        obtain rfl := Except.error.inj h
        rcases fault with _ | _ | _ | _ <;> first | rfl | cases ha
    · obtain rfl := Except.error.inj h
      rfl

theorem isOfNode_of_resourcesOf {v : Json} (hv : a.value url = .ok v)
    (h : resourcesOf url v = .error e) (ha : a.ends = false) : e.isOfNode = true := by
  cases v with
  | list items =>
    cases hm : items.mapM Resource.ofJson with
    | ok rs =>
      rw [resourcesOf, hm] at h
      cases h
    | error fault =>
      rw [resourcesOf, hm] at h
      obtain rfl := Except.error.inj h
      by_cases hf : fault = .infinite
      · obtain ⟨x, hx, hf⟩ := exists_error_of_mapM (hf ▸ hm)
        have hany : items.any Resource.overflows = true :=
          List.any_eq_true.mpr ⟨x, hx, Resource.overflows_of_ofJson hf⟩
        cases a with
        | failure lapse message => cases hv
        | reply status body =>
          simp only [value, ends] at hv ha
          split at hv
          · next hs =>
            cases hb : Json.decode body with
            | error fault =>
              rw [hb] at hv
              cases hv
            | ok v =>
              rw [hb] at hv
              obtain rfl := Except.ok.inj hv
              simp [hs, hb, hany] at ha
          · cases hv
      · cases fault <;> first | rfl | exact absurd rfl hf
  | _ =>
    obtain rfl := Except.error.inj h
    rfl

theorem valueAt_of_sound (h : Address.Sound url) : a.valueAt url = a.value url := by
  unfold valueAt
  rw [h.2]
  cases a <;> rfl

/-- All that is wrong with an answer is a failure of the node. -/
theorem isOfNode_of_resources (h : a.resources url = .error e) (ha : a.ends = false) :
    e.isOfNode = true := by
  rcases bind_eq_error_iff.mp h with h | ⟨v, hv, h⟩
  · exact isOfNode_of_value h ha
  · exact isOfNode_of_resourcesOf hv h ha

end Answer

namespace Resolution

/-- The node holds no answer that ends a resolution, and the accounts of the root and of all that
is declared off the framework can be asked. -/
structure Mild (c : Client) (root : PackageId) (n : Node) : Prop where
  answers : ∀ a, n.Holds a → a.ends = false
  root : Address.Sound (c.resourcesUrl root.account)
  targets : ∀ d ∈ n.dependencies, isFramework d.account = false →
    Address.Sound (c.resourcesUrl d.account)

/-- The recursive walk along the edges of a package in their order, in which no reading fails. An
edge to the framework, to the root or to a package that is recorded is passed over. Any other is
recorded, and the edges that its target declares at that moment are walked before the rest. -/
inductive Traverses (c : Client) (root : PackageId) :
    List Dependency → DependencySet → World → DependencySet → World → Prop where
  | done {r w} : Traverses c root [] r w r w
  | pass {d rest r w r' w'} (hd : isFramework d.account = true ∨ d.target = root ∨
      d.target ∈ Entries.keys r)
    (hrest : Traverses c root rest r w r' w') : Traverses c root (d :: rest) r w r' w'
  | descend {d rest r w r₁ w₁ r' w'} (hd : ¬ (isFramework d.account = true ∨ d.target = root ∨
      d.target ∈ Entries.keys r))
    (hown : Traverses c root (edges (answersAt c w) d.target) (r ++ [(d.target, d)])
      (readDependencies c d.target (noteDiscovered d.target w)).2 r₁ w₁)
    (hrest : Traverses c root rest r₁ w₁ r' w') : Traverses c root (d :: rest) r w r' w'

variable {c : Client} {root p : PackageId} {recorded r r' : DependencySet} {w w' : World}
  {n m : Node} {l : List Dependency}

theorem Mild.later (h : Mild c root n) (hm : n.Later m) : Mild c root m where
  answers a ha := h.answers a (hm.holds ha)
  root := h.root
  targets d hd := h.targets d (hm.dependencies hd)

/-- Whatever such a node is asked, what it answers does not end a resolution. -/
theorem Mild.ends_ask (h : Mild c root n) (url : Text) : (n.ask url).1.ends = false := by
  rcases n.ask_fst url with ha | ha
  · rw [ha]
    rfl
  · exact h.answers _ ha

/-- At such a node an account fails softly. -/
theorem Mild.isOfNode (h : Mild c root w.node) (hs : Address.Sound (c.resourcesUrl p.account)) :
    ∀ e, answersAt c w p.account = .error e → e.isOfNode = true := by
  intro e he
  unfold answersAt Client.readResources Client.request at he
  simp only [hs.1] at he
  rw [Answer.valueAt_of_sound hs] at he
  exact Answer.isOfNode_of_resources he (h.ends_ask _)

/-- A package that cannot be read yields no edges. -/
theorem Mild.readDependencies (h : Mild c root w.node)
    (hs : Address.Sound (c.resourcesUrl p.account)) :
    (readDependencies c p w).1 = .ok (edges (answersAt c w) p) := by
  rw [readDependencies_fst]
  obtain ⟨own, hown⟩ : ∃ own, (declared p (answersAt c w p.account)).1 = .ok own :=
    declared_of_softly (h.isOfNode hs)
  exact declared_eq_edges hown ▸ hown

/-- A reading leaves such a node, with answers that it held before. -/
theorem Mild.read {own : Except Failure (List Dependency)} {u : World} (h : Mild c root w.node)
    (hs : Address.Sound (c.resourcesUrl p.account))
    (hr : Resolution.readDependencies c p w = (own, u)) :
    own = .ok (edges (answersAt c w) p) ∧ w.node.Later u.node ∧
      ∀ d ∈ edges (answersAt c w) p, isFramework d.account = false →
        Address.Sound (c.resourcesUrl d.account) := by
  have hown := h.readDependencies hs
  have hlater := readDependencies_later c p w
  rw [hr] at hown hlater
  refine ⟨hown, hlater, fun d hd => h.targets d ?_⟩
  exact mem_dependencies_of_readDependencies (h.readDependencies hs) hd

theorem answersAt_noteDiscovered : answersAt c (noteDiscovered p w) = answersAt c w :=
  funext fun _ => readResources_noteDiscovered ..

/-- What was recorded before comes first. -/
theorem Traverses.isPrefix (h : Traverses c root l r w r' w') : r <+: r' := by
  induction h with
  | done => exact List.prefix_refl _
  | pass _ _ ih => exact ih
  | descend _ _ _ ihown ihrest => exact (List.prefix_append ..).trans (ihown.trans ihrest)

/-- A recursive walk at such a node does not fail. -/
theorem Preorder.traverses {v t : Visit} (h : Preorder c root l v t) (hf : v.failure = none)
    (hm : Mild c root v.world.node)
    (hl : ∀ d ∈ l, isFramework d.account = false → Address.Sound (c.resourcesUrl d.account)) :
    t.failure = none ∧ v.world.node.Later t.world.node ∧
      Traverses c root l v.recorded v.world t.recorded t.world := by
  induction h with
  | done => exact ⟨hf, .refl _, .done⟩
  | halt he => cases hf.symm.trans he
  | pass _ hd _ ih =>
    obtain ⟨ht, hlater, hrest⟩ := ih hf hm fun d hd => hl d (List.mem_cons_of_mem _ hd)
    exact ⟨ht, hlater, .pass hd hrest⟩
  | @descend d rest v own u t' t _ hd hr _ _ ihown ihrest =>
    have hsound := hl d List.mem_cons_self (Bool.eq_false_iff.mpr (not_or.mp hd).1)
    obtain ⟨hread, hu, hsounds⟩ :=
      Mild.read (p := d.target) (w := noteDiscovered d.target v.world) hm hsound hr
    rw [answersAt_noteDiscovered] at hread hsounds
    obtain rfl := Except.ok.inj hread
    obtain ⟨hf', hlater', hown⟩ := ihown rfl (hm.later hu) hsounds
    have hu' : v.world.node.Later t'.world.node := .trans hu hlater'
    obtain ⟨ht, hlater, hrest⟩ := ihrest hf' (hm.later hu') fun x hx =>
      hl x (List.mem_cons_of_mem _ hx)
    refine ⟨ht, hu'.trans hlater, .descend hd ?_ hrest⟩
    rwa [hr]
  | @fail d rest v e u _ hd hr =>
    have hsound := hl d List.mem_cons_self (Bool.eq_false_iff.mpr (not_or.mp hd).1)
    cases (Mild.read (p := d.target) (w := noteDiscovered d.target v.world) hm hsound hr).1

/-- Whatever a node answers, and however its answers change, resolution returns what was recorded
before and all that it comes across: a package that cannot be read declares nothing, and the walk
goes on. Only an answer that lies too deep or holds an infinite number, and an address at fault,
are not passed over. -/
theorem resolveFrom_traverses (h : Mild c root w.node) (recorded : DependencySet) :
    ∃ r' w', resolveFrom c root recorded w = ⟨[], r', w', none⟩ ∧ recorded <+: r' ∧
      Traverses c root (edges (answersAt c w) root) recorded (readDependencies c root w).2 r' w' := by
  have hp : (resolveFrom c root recorded w).pending = [] := (Walk.run_finish _).2
  rcases hs : resolveFrom c root recorded w with ⟨pending, r', w', f⟩
  obtain rfl : pending = [] := by
    rw [hs] at hp
    exact hp
  have hrun := preorderFrom_resolveFrom c root recorded w
  rw [hs] at hrun
  cases hrun with
  | @walk own u _ hr hwalk =>
    obtain ⟨hread, hu, hsounds⟩ := h.read h.root hr
    obtain rfl := Except.ok.inj hread
    obtain ⟨hf, -, ht⟩ := hwalk.traverses rfl (h.later hu) hsounds
    obtain rfl : f = none := hf
    exact ⟨r', w', rfl, ht.isPrefix, by rwa [hr]⟩
  | fail hr => cases (h.read h.root hr).1

namespace Sample

open MoveSkeleton.Sample

/-- The first package needs two others, of which one cannot be reached at the first request, and
what is told of the other is no JSON. -/
def fickle : Node :=
  [(client.resourcesUrl "0xa", [answer (resources [package "P" [("0xb", "Q"), ("0xc", "R")] []])]),
    (client.resourcesUrl "0xb", [.failure .connect "refused",
      answer (resources [package "Q" [] []])]),
    (client.resourcesUrl "0xc", [.reply 200 "[1".toUTF8])]

theorem fickle_mild : Mild client ⟨"0xa", "P"⟩ fickle where
  answers a ha := by
    obtain ⟨e, he, ha⟩ := ha
    have hall : ∀ e ∈ fickle, ∀ a ∈ e.2, a.ends = false := by decide +kernel
    exact hall e he a ha
  root := by decide +kernel
  targets := by decide +kernel

/-- The first package needs two others, one of which has an infinite number. -/
def boundless : World where
  node := [(client.resourcesUrl "0xa",
      [answer (resources [package "P" [("0xb", "Q"), ("0xc", "R")] []])]),
    (client.resourcesUrl "0xb", [answer (resources [.object [("name", .text "Q"),
      ("upgrade_number", .float (.infinite false))]])]),
    (client.resourcesUrl "0xc", [answer (resources [package "R" [] []])])]
  disk := Disk.blank ["w"]

end Sample

/-- For packages that cannot be read in different ways, with one more recorded before. -/
theorem resolveFrom_traverses_fickle :
    let c := Sample.client
    let w : World := { node := Sample.fickle, disk := Disk.blank ["w"] }
    let root : PackageId := ⟨"0xa", "P"⟩
    let recorded : DependencySet := [(⟨"0xe", "U"⟩, ⟨"0xe", "U"⟩)]
    Mild c root w.node ∧
    ∃ r' w', resolveFrom c root recorded w = ⟨[], r', w', none⟩ ∧ recorded <+: r' ∧
      Traverses c root (edges (answersAt c w) root) recorded (readDependencies c root w).2 r' w' :=
  ⟨Sample.fickle_mild, resolveFrom_traverses Sample.fickle_mild _⟩

/-- An infinite number where a whole one is wanted ends the resolution, and an edge that comes after
is not followed. -/
theorem infinite_number_ends_resolution :
    let c := MoveSkeleton.Sample.client
    let w := Sample.boundless
    let root : PackageId := ⟨"0xa", "P"⟩
    (resolveFrom c root [] w).failure = some .infiniteNumber ∧
      ∃ d ∈ edges (answersAt c w) root, isFramework d.account = false ∧ d.target ≠ root ∧
        d.target ∉ Entries.keys (resolveFrom c root [] w).recorded := by
  intro c w root
  -- The root is read first, and the package with the infinite number in the next turn.
  obtain ⟨hp, hf, hrecorded, hedge⟩ :
      ((Walk.turn c root)^[1] (Walk.start c root [] w)).pending = [] ∧
      ((Walk.turn c root)^[1] (Walk.start c root [] w)).failure = some .infiniteNumber ∧
      ((Walk.turn c root)^[1] (Walk.start c root [] w)).recorded =
        [(⟨"0xb", "Q"⟩, ⟨"0xb", "Q"⟩)] ∧
      (⟨"0xc", "R"⟩ : Dependency) ∈ edges (answersAt c w) root := by
    decide +kernel
  rw [resolveFrom, Walk.finish_eq_iterate hp, hrecorded]
  exact ⟨hf, ⟨"0xc", "R"⟩, hedge, by decide, by decide, by decide⟩

end Resolution

end MoveSkeleton
