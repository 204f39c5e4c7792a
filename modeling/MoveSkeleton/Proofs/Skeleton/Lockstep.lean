import MoveSkeleton.Proofs.Disk.Same
import MoveSkeleton.Proofs.Resolution.Lockstep
import MoveSkeleton.Proofs.Skeleton.Creation

/-! Two runs side by side. As long as their nodes tell them the same, as far as they look at it, they
ask for the same and write the same. -/
namespace MoveSkeleton

/-- What a run takes from the record of a package. -/
def Package.taken (p : Package) : List Dependency × List Text :=
  (p.dependencies, p.modules)

/-- What a run takes from the resources of an account for each package that it looks for. -/
def Resource.taken (rs : List Resource) (p : PackageId) :
    Except Failure (List Dependency × List Text) :=
  (requirePackage p rs).map Package.taken

/-- What a run takes from the answer to a request for resources. -/
def Answer.takenResources (url : Text) (v : Except Failure Json) :
    Except Failure (PackageId → Except Failure (List Dependency × List Text)) :=
  (v.bind (resourcesOf url)).map Resource.taken

/-- What a run takes from the answer to a request for an interface. -/
def Answer.takenInterface (url : Text) (v : Except Failure Json) : Except Failure Text :=
  (v.bind (interfaceOf url)).map Interface.source

/-- At related nodes the same is taken from the answers at the addresses that a run asks at, and
requests leave the nodes related. -/
structure Node.Indistinct (c : Client) (N : Node → Node → Prop) : Prop where
  ask : ∀ {n m} url, N n m → N (n.ask url).2 (m.ask url).2
  resources : ∀ {n m url account}, url = c.resourcesUrl account → N n m →
    Answer.takenResources url ((n.ask url).1.valueAt url) =
      Answer.takenResources url ((m.ask url).1.valueAt url)
  interface : ∀ {n m url account module}, url = c.interfaceUrl account module → N n m →
    Answer.takenInterface url ((n.ask url).1.valueAt url) =
      Answer.takenInterface url ((m.ask url).1.valueAt url)

theorem Node.Indistinct.of_same {c : Client} {N : Node → Node → Prop}
    (hask : ∀ {n m} url, N n m → N (n.ask url).2 (m.ask url).2)
    (hsame : ∀ {n m} url, N n m → (n.ask url).1 = (m.ask url).1) : Node.Indistinct c N where
  ask := hask
  resources _ h := by rw [hsame _ h]
  interface _ h := by rw [hsame _ h]

theorem Node.indistinct_eq {c : Client} : Node.Indistinct c Eq :=
  .of_same (fun _ h => h ▸ rfl) fun _ h => h ▸ rfl

/-- Results that a function maps to the same are errors alike, or values that it maps to the same. -/
private theorem cases_of_map_eq {ε α β γ : Type} {f : α → γ} {g : β → γ} {r : Except ε α}
    {r' : Except ε β} (h : r.map f = r'.map g) :
    (∃ e, r = .error e ∧ r' = .error e) ∨ ∃ x y, r = .ok x ∧ r' = .ok y ∧ f x = g y := by
  rcases r with e | x <;> rcases r' with e' | y
  · exact .inl ⟨e, rfl, congrArg Except.error (Except.error.inj h).symm⟩
  · cases h
  · cases h
  · exact .inr ⟨x, y, rfl, rfl, Except.ok.inj h⟩

/-- The edges that a package declares are among what a run takes. -/
theorem Resolution.declared_fst_of_taken {p : PackageId} {r r' : Except Failure (List Resource)}
    (h : r.map Resource.taken = r'.map Resource.taken) : (declared p r).1 = (declared p r').1 := by
  rw [declared_fst, declared_fst]
  rcases cases_of_map_eq h with ⟨e, rfl, rfl⟩ | ⟨rs, rs', rfl, rfl, htaken⟩
  · rfl
  · have hrecord : (Resource.requirePackage p rs).map Package.taken =
        (Resource.requirePackage p rs').map Package.taken := congrFun htaken p
    simp only [Except.bind]
    rcases cases_of_map_eq hrecord with ⟨e, he, he'⟩ | ⟨q, q', hq, hq', hsame⟩
    · rw [he, he']
    · rw [hq, hq']
      exact congrArg Except.ok (congrArg Prod.fst hsame)

/-- Two worlds after the same requests: disks and nodes are related, and to the requests before the
same ones have been added. -/
structure Abreast (D : Disk → Disk → Prop) (N : Node → Node → Prop) (a b : List Request)
    (w v : World) : Prop where
  disk : D w.disk v.disk
  node : N w.node v.node
  requests : ∃ made, w.requests = a ++ made ∧ v.requests = b ++ made

section
variable {D D' : Disk → Disk → Prop} {N : Node → Node → Prop} {a b : List Request}
  {E : World → World → Prop} {w v : World} {c : Client} {account module : Text} {root p : PackageId}

theorem Abreast.note (h : Abreast D N a b w v) (e e' : Event) :
    Abreast D N a b { w with events := w.events ++ [e] } { v with events := v.events ++ [e'] } :=
  ⟨h.disk, h.node, h.requests⟩

theorem Abreast.withDisk (h : Abreast D N a b w v) {d e : Disk} (hd : D' d e) :
    Abreast D' N a b { w with disk := d } { v with disk := e } :=
  ⟨hd, h.node, h.requests⟩

/-- After a request in both worlds, to which the answers come to the same in some way, they are still
abreast. -/
theorem Abreast.request (hN : Node.Indistinct c N) (h : Abreast D N a b w v) {β : Type}
    (taken : Except Failure Json → β) (url account : Text)
    (htaken : taken ((w.node.ask url).1.valueAt url) = taken ((v.node.ask url).1.valueAt url)) :
    taken (c.request url account w).1 = taken (c.request url account v).1 ∧
      Abreast D N a b (c.request url account w).2 (c.request url account v).2 := by
  unfold Client.request
  cases Address.fault? url with
  | some fault => exact ⟨rfl, h⟩
  | none =>
    obtain ⟨made, hw, hv⟩ := h.requests
    refine ⟨htaken, h.disk, hN.ask url h.node, made ++ [⟨url, c.authorization url⟩], ?_, ?_⟩
    · rw [← List.append_assoc, ← hw]
    · rw [← List.append_assoc, ← hv]

theorem Abreast.readResources (hN : Node.Indistinct c N) (h : Abreast D N a b w v)
    (account : Text) :
    (c.readResources account w).1.map Resource.taken =
        (c.readResources account v).1.map Resource.taken ∧
      Abreast D N a b (c.readResources account w).2 (c.readResources account v).2 := by
  rw [c.readResources_fst, c.readResources_fst, c.readResources_snd, c.readResources_snd]
  exact h.request hN (Answer.takenResources (c.resourcesUrl account)) (c.resourcesUrl account)
    account (hN.resources rfl h.node)

theorem Abreast.readInterface (hN : Node.Indistinct c N) (h : Abreast D N a b w v)
    (account module : Text) :
    (c.readInterface account module w).1.map Interface.source =
        (c.readInterface account module v).1.map Interface.source ∧
      Abreast D N a b (c.readInterface account module w).2 (c.readInterface account module v).2 := by
  rw [c.readInterface_fst, c.readInterface_fst, c.readInterface_snd, c.readInterface_snd]
  exact h.request hN (Answer.takenInterface (c.interfaceUrl account module))
    (c.interfaceUrl account module) account (hN.interface rfl h.node)

/-- Two runs from worlds abreast end together, in worlds abreast. -/
abbrev RunAbreast (D : Disk → Disk → Prop) (N : Node → Node → Prop) (a b : List Request)
    {α : Type} (f g : Activity α) : Prop :=
  Together (Abreast D N a b) f g (fun x y w v => x = y ∧ Abreast D N a b w v) (Abreast D N a b)

theorem together_fetchResources (hN : Node.Indistinct c N) (account : Text) :
    Together (Abreast D N a b) (c.fetchResources account) (c.fetchResources account)
      (fun rs rs' w v => Resource.taken rs = Resource.taken rs' ∧ Abreast D N a b w v)
      (Abreast D N a b) := by
  intro w v h
  obtain ⟨htaken, hworld⟩ := h.readResources (c := c) hN account
  have hrun : ∀ u, (c.fetchResources account).run.run u = c.readResources account u := fun _ => rfl
  rw [hrun, hrun]
  rcases hw : c.readResources account w with ⟨r, w'⟩
  rcases hv : c.readResources account v with ⟨r', v'⟩
  rw [hw, hv] at htaken hworld
  rcases cases_of_map_eq htaken with ⟨e, rfl, rfl⟩ | ⟨rs, rs', rfl, rfl, hsame⟩
  · exact .failed hworld
  · exact .returned ⟨hsame, hworld⟩

theorem together_fetchInterface (hN : Node.Indistinct c N) (account module : Text) :
    Together (Abreast D N a b) (c.fetchInterface account module) (c.fetchInterface account module)
      (fun i i' w v => i.source = i'.source ∧ Abreast D N a b w v) (Abreast D N a b) := by
  intro w v h
  obtain ⟨htaken, hworld⟩ := h.readInterface (c := c) hN account module
  have hrun : ∀ u, (c.fetchInterface account module).run.run u = c.readInterface account module u :=
    fun _ => rfl
  rw [hrun, hrun]
  rcases hw : c.readInterface account module w with ⟨r, w'⟩
  rcases hv : c.readInterface account module v with ⟨r', v'⟩
  rw [hw, hv] at htaken hworld
  rcases cases_of_map_eq htaken with ⟨e, rfl, rfl⟩ | ⟨i, i', rfl, rfl, hsame⟩
  · exact .failed hworld
  · exact .returned ⟨hsame, hworld⟩

namespace Resolution

theorem readsTogether_abreast (hN : Node.Indistinct c N) :
    ReadsTogether c (fun _ => True) (Abreast D N a b) where
  note _ _ _ h := h.note ..
  read p w v _ h := by
    obtain ⟨htaken, hworld⟩ := h.readResources (c := c) hN p.account
    rw [readDependencies_eq, readDependencies_eq]
    exact ⟨declared_fst_of_taken htaken, hworld.disk, hworld.node, hworld.requests⟩
  leads _ _ _ _ _ _ _ _ _ := trivial

/-- Both resolutions record the same, or fail alike. -/
theorem together_resolve (hN : Node.Indistinct c N) :
    RunAbreast D N a b (resolve c root) (resolve c root) := by
  intro w v h
  have hend := resolveFrom_together root [] (readsTogether_abreast (c := c) hN) trivial h
  unfold resolve
  simp only [ExceptT.run_mk, StateT.run]
  rw [hend.failure]
  cases (resolveFrom c root [] v).failure with
  | none => exact .returned ⟨hend.recorded, hend.world⟩
  | some e => exact .failed hend.world

end Resolution

namespace Skeleton

open Activity Resolution

variable {A : Prop} {file folder target : Path} {t : Text} {ms : List Text}
  {ds : List Dependency} {isRoot : Bool}

theorem together_noting (e e' : Event) : RunAbreast D N a b (note e) (note e') :=
  together_note fun _ _ h => ⟨rfl, h.note e e'⟩

theorem together_ensuring (hf : Disk.Fits A folder) :
    RunAbreast (Disk.Same A) N a b (onDisk (Disk.ensureFolders folder))
      (onDisk (Disk.ensureFolders folder)) :=
  together_onDisk (Disk.together_ensureFolders hf) (fun _ _ h => h.disk)
    (fun _ _ h _ _ _ _ hd => ⟨rfl, h.withDisk hd⟩) fun _ _ h _ _ hd => h.withDisk hd

theorem together_writing (hf : Disk.Fits A file) (content : ByteArray) :
    RunAbreast (Disk.Same A) N a b (onDisk (Disk.writeFile file content))
      (onDisk (Disk.writeFile file content)) :=
  together_onDisk (Disk.together_writeFile hf content) (fun _ _ h => h.disk)
    (fun _ _ h _ _ _ _ hd => ⟨rfl, h.withDisk hd⟩) fun _ _ h _ _ hd => h.withDisk hd

theorem together_writeText (hf : Disk.Fits A file) (t : Text) :
    RunAbreast (Disk.Same A) N a b (writeText file t) (writeText file t) := by
  unfold writeText
  cases t.toUtf8 with
  | ok content => exact together_writing hf content
  | error fault => exact (together_writing hf .empty).bind_of fun _ _ _ => .throw fun _ _ h => h

theorem together_writeModules (hN : Node.Indistinct c N) (hf : Disk.Fits A folder) :
    RunAbreast (Disk.Same A) N a b (writeModules c account folder ms)
      (writeModules c account folder ms) := by
  induction ms with
  | nil => exact .pure fun _ _ h => ⟨rfl, h⟩
  | cons m ms ih =>
    refine (together_fetchInterface hN account m).bind_of fun i i' hsource => ?_
    rw [hsource]
    refine (together_writeText (hf.join _) _).bind_of fun _ _ _ => ?_
    exact (together_noting _ _).bind_of fun _ _ _ => ih

/-- A package of which the same is taken is found in both lists of resources, or missed alike. -/
theorem together_requirePackage {rs rs' : List Resource}
    (h : Resource.taken rs = Resource.taken rs') :
    Together (Abreast D N a b) (ofResult (Resource.requirePackage p rs))
      (ofResult (Resource.requirePackage p rs'))
      (fun q q' w v => q.taken = q'.taken ∧ Abreast D N a b w v) (Abreast D N a b) := by
  refine together_ofResult fun w v hwv => ?_
  have hp : (Resource.requirePackage p rs).map Package.taken =
      (Resource.requirePackage p rs').map Package.taken := congrFun h p
  rcases cases_of_map_eq hp with ⟨e, he, he'⟩ | ⟨q, q', hq, hq', hsame⟩
  · rw [he, he']
    exact .failed hwv
  · rw [hq, hq']
    exact .returned ⟨hsame, hwv⟩

/-- The folder for the sources of a package is created in both worlds or in neither. Until then the
disks are related in some way, and once it is there they are the same. Where a run ends, before that
or after, the worlds stand in the relation `E`. -/
structure FoundsTogether (D : Disk → Disk → Prop) (A : Prop) (N : Node → Node → Prop)
    (a b : List Request) (E : World → World → Prop) (folder : Path) : Prop where
  ensures : Together (Abreast D N a b) (onDisk (Disk.ensureFolders (folder.join sourcesFolder)))
    (onDisk (Disk.ensureFolders (folder.join sourcesFolder)))
    (fun _ _ => Abreast (Disk.Same A) N a b) E
  before : ∀ w v, Abreast D N a b w v → E w v
  since : ∀ w v, Abreast (Disk.Same A) N a b w v → E w v
  note : ∀ w v e, E w v →
    E { w with events := w.events ++ [e] } { v with events := v.events ++ [e] }

/-- On disks that are the same the folder is created alike. -/
theorem foundsTogether_same (hf : Disk.Fits A folder) :
    FoundsTogether (Disk.Same A) A N a b (Abreast (Disk.Same A) N a b) folder where
  ensures := (together_ensuring (hf.join sourcesFolder)).mono (fun _ _ h => h)
    (fun _ _ _ _ h => h.2) fun _ _ h => h
  before _ _ h := h
  since _ _ h := h
  note _ _ e h := h.note e e

theorem together_writeFiles (hN : Node.Indistinct c N) (hf : Disk.Fits A folder)
    (hE : FoundsTogether D A N a b E folder) :
    Together (Abreast D N a b) (writeFiles c p folder isRoot) (writeFiles c p folder isRoot)
      (fun x y w v => x = y ∧ Abreast (Disk.Same A) N a b w v) E := by
  refine ((together_fetchResources hN p.account).mono (fun _ _ h => h) (fun _ _ _ _ h => h)
    hE.before).bind_of fun rs rs' hrs => ?_
  refine ((together_requirePackage hrs).mono (fun _ _ h => h) (fun _ _ _ _ h => h)
    hE.before).bind_of fun q q' hq => ?_
  have hmodules : q.modules = q'.modules := congrArg Prod.snd hq
  have htext : Manifest.text isRoot p.name q = Manifest.text isRoot p.name q' := by
    have hdependencies : q.dependencies = q'.dependencies := congrArg Prod.fst hq
    unfold Manifest.text
    rw [hdependencies]
  rw [hmodules, htext]
  refine hE.ensures.bind fun _ _ => .mono ?_ (fun _ _ h => h) (fun _ _ _ _ h => h) hE.since
  refine (together_writeModules hN (hf.join _)).bind_of fun _ _ _ => ?_
  refine (together_writeText (hf.join _) _).bind_of fun _ _ _ => ?_
  exact (together_noting _ _).bind_of fun _ _ _ => .pure fun _ _ h => ⟨rfl, h⟩

theorem together_writePackage (hN : Node.Indistinct c N) (hf : Disk.Fits A folder)
    (hE : FoundsTogether D A N a b E folder) :
    Together (Abreast D N a b) (writePackage c p folder isRoot) (writePackage c p folder isRoot)
      (fun x y w v => x = y ∧ Abreast (Disk.Same A) N a b w v) E := by
  refine ((together_noting _ _).mono (fun _ _ h => h) (fun _ _ _ _ h => h) hE.before).bind_of
    fun _ _ _ => ?_
  exact together_notingFailure (together_writeFiles hN hf hE) fun w v _ => hE.note w v _

theorem together_writeDependencies (hN : Node.Indistinct c N) (hf : Disk.Fits A folder) :
    RunAbreast (Disk.Same A) N a b (writeDependencies c folder ds)
      (writeDependencies c folder ds) := by
  induction ds with
  | nil => exact .pure fun _ _ h => ⟨rfl, h⟩
  | cons d ds ih =>
    have hd := hf.join d.folder
    exact (together_writePackage hN hd (foundsTogether_same hd)).bind_of fun _ _ _ => ih

/-- Two runs from worlds abreast, once the folder of the root package has been cleared. -/
theorem together_createCleared (hN : Node.Indistinct c N) (hf : Disk.Fits A folder)
    (hE : FoundsTogether D A N a b E folder) :
    Together (Abreast D N a b) (createCleared c root folder) (createCleared c root folder)
      (fun x y w v => x = y ∧ Abreast (Disk.Same A) N a b w v) E := by
  refine ((together_resolve hN).mono (fun _ _ h => h) (fun _ _ _ _ h => h) hE.before).bind_of
    fun dependencies _ h => h ▸ ?_
  refine ((together_noting _ _).mono (fun _ _ h => h) (fun _ _ _ _ h => h) hE.before).bind_of
    fun _ _ _ => ?_
  refine (together_writePackage hN hf hE).bind_of fun _ _ _ => ?_
  refine .mono ?_ (fun _ _ h => h) (fun _ _ _ _ h => h) hE.since
  refine (together_ensuring (hf.join _)).bind_of fun _ _ _ => ?_
  exact (together_writeDependencies hN (hf.join _)).bind_of fun _ _ _ =>
    .pure fun _ _ h => ⟨rfl, h⟩

/-- Where the same stands on both disks. -/
theorem together_createCleared_same (hN : Node.Indistinct c N) (hf : Disk.Fits A folder) :
    RunAbreast (Disk.Same A) N a b (createCleared c root folder) (createCleared c root folder) :=
  together_createCleared hN hf (foundsTogether_same hf)

end Skeleton

end

end MoveSkeleton
