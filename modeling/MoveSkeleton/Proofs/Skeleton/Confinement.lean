import MoveSkeleton.Proofs.Disk.Place
import MoveSkeleton.Proofs.Node.Later
import MoveSkeleton.Proofs.Resolution.Preorder
import MoveSkeleton.Proofs.Skeleton.Progress

/-! What a run leaves alone: all that lies outside the folder of its root package, as long as no name
that a node tells of leads out of it. -/
namespace MoveSkeleton

/-- A folder in one that is stayed in, and a way from there that leads back to that one at most. -/
theorem Path.within_stays {parts : List Text} {name t : Text} (h : within 0 parts = true)
    (hn : name ≠ "..") (ht : Stays 1 t) :
    within 0 (parts ++ [name] ++ (ofText t).parts) = true := by
  rw [List.append_assoc, List.singleton_append]
  refine within_append h ?_
  rw [within_cons_of_ne hn]
  exact ht.2

/-- No source file that the node tells of leads out of the folder that holds the folder of
sources. -/
def Node.SourcesStay (n : Node) : Prop :=
  ∀ q ∈ n.packages, ∀ m ∈ q.modules, Path.Stays 1 (Skeleton.sourceFile m)

instance : DecidablePred Node.SourcesStay :=
  fun n => inferInstanceAs (Decidable
    (∀ q ∈ n.packages, ∀ m ∈ q.modules, Path.Stays 1 (Skeleton.sourceFile m)))

theorem Node.SourcesStay.of_slashFree {n : Node}
    (h : ∀ q ∈ n.packages, ∀ m ∈ q.modules, m.SlashFree) : n.SourcesStay :=
  fun q hq m hm => (isName_sourceFile (h q hq m hm)).stays

theorem Node.SourcesStay.later {n m : Node} (h : n.SourcesStay) (hm : n.Later m) : m.SourcesStay :=
  fun q hq => h q (hm.packages hq)

namespace Skeleton

open Resolution Activity

variable {α β : Type} {c : Client} {w w' u : World} {root p : PackageId} {target folder : Path}
  {parts : List Text} {account t : Text} {ms : List Text} {ds : List Dependency} {isRoot : Bool}

/-- The second world is left by a step from the first: its node holds what it held before, and its
disk has not changed outside the place of the folder. -/
structure Tame (folder : Path) (w w' : World) : Prop where
  node : w.node.Later w'.node
  disk : w.disk.Confined folder w'.disk

/-- A relation in which a disk stands to what is left of it when folders or files are put below the
path alone. -/
structure Bounds (folder : Path) (K : Disk → Disk → Prop) : Prop where
  refl : ∀ d, K d d
  trans : ∀ {d d' d'' : Disk}, K d d' → K d' d'' → K d d''
  ensureFolders : ∀ {d : Disk} {parts}, Path.within 0 parts = true →
    K d (after (Disk.ensureFolders (folder.below parts)) d)
  writeFile : ∀ {d : Disk} {parts content}, Path.within 0 parts = true →
    K d (after (Disk.writeFile (folder.below parts) content) d)

/-- The second world is left by a step from the first: its node holds what it held before, and the
disks are related. -/
structure Keeps (K : Disk → Disk → Prop) (w w' : World) : Prop where
  node : w.node.Later w'.node
  disk : K w.disk w'.disk

theorem bounds_confined (folder : Path) : Bounds folder fun d d' => d.Confined folder d' where
  refl d := .refl d folder
  trans := Disk.Confined.trans
  ensureFolders hw := (Disk.creates_ensureFolders ..).confined hw
  writeFile := Disk.confined_writeFile

theorem Keeps.tame (h : Keeps (fun d d' => d.Confined folder d') w w') : Tame folder w w' :=
  ⟨h.node, h.disk⟩

section
variable {K : Disk → Disk → Prop} (hK : Bounds folder K)
include hK

theorem Bounds.keeps_refl (w : World) : Keeps K w w :=
  ⟨.refl _, hK.refl _⟩

/-- Such steps can be taken one after the other, whether the first returns or fails. -/
theorem Bounds.keeps_bind {a : Activity α} {f : α → Activity β} (ha : Keeps K w (after a w))
    (hf : ∀ x v, Returns a w x v → Keeps K w v → Keeps K v (after (f x) v)) :
    Keeps K w (after (a >>= f) w) :=
  after_bind (P := Keeps K w) (fun _ _ => ha) fun x hx =>
    have hrest := hf x _ hx ha
    ⟨ha.node.trans hrest.node, hK.trans ha.disk hrest.disk⟩

theorem Bounds.keeps_note (e : Event) : Keeps K w (after (note e) w) :=
  ⟨.refl _, hK.refl _⟩

theorem Bounds.keeps_ofResult (r : Except Failure α) : Keeps K w (after (ofResult r) w) :=
  hK.keeps_refl w

theorem Bounds.keeps_of_disk (hnode : w.node.Later w'.node) (hdisk : w'.disk = w.disk) :
    Keeps K w w' :=
  ⟨hnode, hdisk ▸ hK.refl _⟩

theorem Bounds.keeps_fetchResources (account : Text) :
    Keeps K w (after (c.fetchResources account) w) := by
  have hafter : after (c.fetchResources account) w = (c.readResources account w).2 := rfl
  rw [hafter]
  exact hK.keeps_of_disk (c.readResources_later account w) (c.readResources_disk account w)

theorem Bounds.keeps_fetchInterface (account module : Text) :
    Keeps K w (after (c.fetchInterface account module) w) := by
  have hafter : after (c.fetchInterface account module) w = (c.readInterface account module w).2 :=
    rfl
  rw [hafter]
  exact hK.keeps_of_disk (c.readInterface_later account module w)
    (c.readInterface_disk account module w)

theorem Bounds.keeps_writeText (hw : Path.within 0 parts = true) :
    Keeps K w (after (writeText (folder.below parts) t) w) := by
  obtain ⟨content, h⟩ := after_writeText (folder.below parts) t w
  rw [h]
  exact ⟨.refl _, hK.writeFile hw⟩

theorem Bounds.keeps_ensureFolders (hw : Path.within 0 parts = true) :
    Keeps K w (after (onDisk (Disk.ensureFolders (folder.below parts))) w) := by
  rw [after_onDisk]
  exact ⟨.refl _, hK.ensureFolders hw⟩

/-- Sources are written in the folder that holds the folder of sources. -/
theorem Bounds.keeps_writeModules (hw : Path.within 0 parts = true)
    (hms : ∀ m ∈ ms, Path.Stays 1 (sourceFile m)) :
    Keeps K w (after (writeModules c account
      (folder.below (parts ++ [Text.ofString sourcesFolder])) ms) w) := by
  induction ms generalizing w with
  | nil => exact hK.keeps_refl w
  | cons m ms ih =>
    obtain ⟨hm, hms⟩ := List.forall_mem_cons.mp hms
    refine hK.keeps_bind (hK.keeps_fetchInterface ..) fun i v _ _ => ?_
    rw [Path.join_of_here hm.1, Path.below_below]
    refine hK.keeps_bind (hK.keeps_writeText (Path.within_stays hw isName_sources.2 hm))
      fun _ v _ _ => ?_
    exact hK.keeps_bind (hK.keeps_note _) fun _ v _ _ => ih hms

/-- What is written of a package once the folder for its sources is there. -/
theorem Bounds.keeps_sources {manifest : Path} {e : Event} (hw : Path.within 0 parts = true)
    (hms : ∀ m ∈ ms, Path.Stays 1 (sourceFile m)) :
    Keeps K w (after (do
      writeModules c account (folder.below (parts ++ [Text.ofString sourcesFolder])) ms
      writeText (folder.below (parts ++ [Text.ofString Manifest.fileName])) t
      note e
      return manifest) w) := by
  refine hK.keeps_bind (hK.keeps_writeModules hw hms) fun _ v _ _ => ?_
  have hfile := Path.within_append hw isName_manifest.within
  refine hK.keeps_bind (hK.keeps_writeText hfile) fun _ v _ _ => ?_
  exact hK.keeps_bind (hK.keeps_note _) fun _ v _ _ => hK.keeps_refl v

/-- The files of a package are written in its own folder. -/
theorem Bounds.keeps_writeFiles (hw : Path.within 0 parts = true) (hn : w.node.SourcesStay) :
    Keeps K w (after (writeFiles c p (folder.below parts) isRoot) w) := by
  unfold writeFiles
  rw [join_sources, join_manifest, Path.below_below, Path.below_below]
  refine hK.keeps_bind (hK.keeps_fetchResources _) fun rs v hrs _ => ?_
  refine hK.keeps_bind (hK.keeps_ofResult _) fun record v' hrecord _ => ?_
  have hmem : record ∈ w.node.packages :=
    Client.mem_packages_of_requirePackage (congrArg Prod.fst hrs) (returns_ofResult.mp hrecord).1
  have hfile := Path.within_append hw isName_sources.within
  refine hK.keeps_bind (hK.keeps_ensureFolders hfile) fun _ v _ _ => ?_
  exact hK.keeps_sources hw (hn record hmem)

theorem Bounds.keeps_writePackage (hw : Path.within 0 parts = true) (hn : w.node.SourcesStay) :
    Keeps K w (after (writePackage c p (folder.below parts) isRoot) w) := by
  refine hK.keeps_bind (hK.keeps_note _) fun _ v _ hv => ?_
  obtain ⟨-, hnode, hdisk⟩ := run_notingFailure Failure.isExpected (.downloadFailed p)
    (writeFiles c p (folder.below parts) isRoot) v
  have h : Keeps K v (after (writeFiles c p (folder.below parts) isRoot) v) :=
    hK.keeps_writeFiles hw (hn.later hv.node)
  constructor
  · rw [hnode]
    exact h.node
  · rw [hdisk]
    exact h.disk

/-- Dependencies are written in the folder that holds the folder of dependencies. -/
theorem Bounds.keeps_writeDependencies (hn : w.node.SourcesStay)
    (hds : ∀ d ∈ ds, Path.Stays 1 d.folder) :
    Keeps K w (after (writeDependencies c
      (folder.below [Text.ofString Manifest.dependenciesFolder]) ds) w) := by
  induction ds generalizing w with
  | nil => exact hK.keeps_refl w
  | cons d ds ih =>
    obtain ⟨hd, hds⟩ := List.forall_mem_cons.mp hds
    have hw : Path.within 0 ([Text.ofString Manifest.dependenciesFolder] ++
        (Path.ofText d.folder).parts) = true :=
      @Path.within_stays [] _ _ rfl isName_dependencies.2 hd
    rw [writeDependencies, Path.join_of_here hd.1, Path.below_below]
    exact hK.keeps_bind (hK.keeps_writePackage hw hn) fun _ _ _ hv => ih (hn.later hv.node) hds

end

theorem keeps_clear {name : Text} (hn : name ≠ "..") :
    Keeps (fun d d' => d.Confined (target.below [name]) d') w
      (after (clear (target.below [name])) w) := by
  have hK := bounds_confined (target.below [name])
  unfold clear
  refine hK.keeps_bind (hK.keeps_refl w) fun v _ _ _ => ?_
  refine hK.keeps_bind (hK.keeps_ofResult _) fun found _ _ _ => ?_
  split
  · refine hK.keeps_bind (hK.keeps_note _) fun _ _ _ _ => ?_
    rw [after_onDisk]
    exact ⟨.refl _, Disk.confined_removeFolder hn⟩
  · exact hK.keeps_refl _

theorem after_resolve (c : Client) (root : PackageId) (w : World) :
    after (resolve c root) w = (resolveFrom c root [] w).world := by
  unfold resolve after
  simp only [ExceptT.run_mk, StateT.run]
  split <;> rfl

theorem Bounds.keeps_resolve {K : Disk → Disk → Prop} (hK : Bounds folder K) :
    Keeps K w (after (resolve c root) w) := by
  rw [after_resolve]
  exact hK.keeps_of_disk (later_resolveFrom c root [] w) (resolveFrom_disk ..)

/-- The dependencies are written in the folder of the root package. -/
theorem Bounds.keeps_dependencies {K : Disk → Disk → Prop} {s : Skeleton} (hK : Bounds folder K)
    (hn : w.node.SourcesStay) (hds : ∀ d ∈ ds, Path.Stays 1 d.folder) :
    Keeps K w (after (do
      onDisk (Disk.ensureFolders (folder.below [Text.ofString Manifest.dependenciesFolder]))
      writeDependencies c (folder.below [Text.ofString Manifest.dependenciesFolder]) ds
      return s) w) := by
  refine hK.keeps_bind (hK.keeps_ensureFolders isName_dependencies.within)
    fun _ x _ hx => ?_
  exact hK.keeps_bind (hK.keeps_writeDependencies (hn.later hx.node) hds) fun _ y _ _ =>
    hK.keeps_refl y

/-- Once its folder has been cleared, all that a run writes is written in it, if the folders of the
dependencies that it writes, and the source files that the node tells of, do not lead out of it. -/
theorem Bounds.keeps_createCleared {K : Disk → Disk → Prop} (hK : Bounds folder K)
    (hn : w.node.SourcesStay) (hds : ∀ u dependencies, Returns (resolve c root) w dependencies u →
      ∀ d ∈ dependencies.map (·.2), Path.Stays 1 d.folder) :
    Keeps K w (after (createCleared c root folder) w) := by
  unfold createCleared dependenciesFolder
  simp only [join_dependencies]
  refine hK.keeps_bind hK.keeps_resolve fun dependencies u hresolve hu => ?_
  refine hK.keeps_bind (hK.keeps_note _) fun _ v _ hv => ?_
  have hn := (hn.later hu.node).later hv.node
  have hroot : Keeps K v (after (writePackage c root (folder.below []) true) v) :=
    hK.keeps_writePackage rfl hn
  rw [Path.below_nil] at hroot
  exact hK.keeps_bind hroot fun _ x _ hx =>
    hK.keeps_dependencies (hn.later hx.node) (hds u dependencies hresolve)

/-- A run is tame if the folders of the dependencies that it writes, and the source files that the
node tells of, do not lead out of the folder of the root package. -/
theorem tame_create (hname : Path.IsName root.name) (hn : w.node.SourcesStay)
    (hds : ∀ u u' dependencies, Returns (clear (target.below [root.name])) w () u →
      Returns (resolve c root) u dependencies u' →
        ∀ d ∈ dependencies.map (·.2), Path.Stays 1 d.folder) :
    Tame (target.below [root.name]) w (after (create c root target) w) := by
  have hK := bounds_confined (target.below [root.name])
  rw [create_eq, Path.join_of_isPart hname.1]
  refine (hK.keeps_bind (keeps_clear hname.2) fun _ u hclear hu => ?_).tame
  exact hK.keeps_createCleared (hn.later hu.node) fun u' dependencies =>
    hds u u' dependencies hclear

/-- If no dependency that the node tells of leads out, none that is resolved does. -/
theorem stays_of_resolve {u : World} {dependencies : DependencySet}
    (hds : ∀ d ∈ w.node.dependencies, isFramework d.account = false → Path.Stays 1 d.folder)
    (h : Returns (resolve c root) w dependencies u) :
    ∀ d ∈ dependencies.map (·.2), Path.Stays 1 d.folder := by
  obtain ⟨-, rfl, -⟩ := returns_resolve.mp h
  intro d hd
  obtain ⟨e, he, rfl⟩ := List.mem_map.mp hd
  obtain ⟨hmem, hf⟩ := declared_resolveFrom c root w e he
  exact hds e.2 hmem hf

/-- Whether it returns or fails, a run changes nothing outside the folder of its root package, but
for folders that were missing on the way to it, if neither the folders of dependencies nor the
source files that the node tells of lead out of it. -/
theorem create_confined (hname : Path.IsName root.name) (hn : w.node.SourcesStay)
    (hds : ∀ d ∈ w.node.dependencies, isFramework d.account = false → Path.Stays 1 d.folder) :
    w.disk.Confined (target.join root.name) (after (create c root target) w).disk := by
  rw [Path.join_of_isPart hname.1]
  refine (tame_create hname hn fun u u' dependencies hclear hresolve => ?_).disk
  exact stays_of_resolve (clear_node hclear ▸ hds) hresolve

namespace Sample

open MoveSkeleton.Sample Resolution.Sample

/-- Names with slashes, some of which lead up, but none out of the folder of the root package. The
dependency has no record. -/
def crooked : World where
  node := [(client.resourcesUrl "0xa",
      [answer (resources [package "P" [("0xb/..", "x/../../Q")] ["../p", "sub/q"]])]),
    (client.interfaceUrl "0xa" "../p", [answer (interface "0xa" "p")]),
    (client.resourcesUrl "0xb/..", [answer (resources [])])]
  disk := Disk.blank ["w"]

/-- A module whose source file lies three folders further up. -/
def escaping : World where
  node := [(client.resourcesUrl "0xa", [answer (resources [package "P" [] ["../../../esc"]])]),
    (client.interfaceUrl "0xa" "../../../esc", [answer (interface "0xa" "esc")])]
  disk := Disk.blank ["w"]

/-- The walk from the root package after six turns. -/
def walked (w : World) : Walk :=
  (Walk.turn client rootPackage)^[6] (Walk.start client rootPackage [] w)

theorem resolve_of_walked {w : World} (hp : (walked w).pending = [])
    (hf : (walked w).failure = none) :
    Returns (resolve client rootPackage) w (walked w).recorded (walked w).world := by
  have hrun : resolveFrom client rootPackage [] w = walked w := Walk.finish_eq_iterate hp
  rw [returns_resolve, hrun]
  exact ⟨hf, rfl, rfl⟩

/-- The world in which the root package is written after that walk. -/
def beforeRoot (w : World) : World :=
  { (walked w).world with
    events := (walked w).world.events ++ [.collected (walked w).recorded.length] }

/-- The world that writing the root package leaves. -/
def afterRoot (w : World) (folder : Path) : World :=
  after (writePackage client rootPackage folder true) (beforeRoot w)

private def depsFolder (folder : Path) : Path :=
  folder.below [Text.ofString Manifest.dependenciesFolder]

/-- The world that a run leaves of a root package without dependencies. -/
def finished (w : World) (folder : Path) : World :=
  let v := afterRoot w folder
  { v with disk := after (Disk.ensureFolders (depsFolder folder)) v.disk }

/-- What has to be seen of a run of a root package without dependencies, for it to return. It is to
be evaluated at once, as each step takes up the world of the one before. -/
def Alone (w : World) (folder : Path) : Prop :=
  (walked w).pending = [] ∧ (walked w).failure = none ∧ (walked w).recorded = [] ∧
    ((writePackage client rootPackage folder true).run.run (beforeRoot w)).1.toOption.isSome ∧
    ((Disk.ensureFolders (depsFolder folder)).run.run (afterRoot w folder).disk).1.toOption =
      some ()

instance (w : World) (folder : Path) : Decidable (Alone w folder) :=
  inferInstanceAs (Decidable (_ ∧ _))

theorem Alone.returns {w : World} {folder target : Path} (h : Alone w folder)
    (hfolder : folder = target.below [rootPackage.name]) (hclear : Returns (clear folder) w () w) :
    Returns (create client rootPackage target) w ⟨folder, (walked w).recorded⟩
      (finished w folder) := by
  obtain ⟨hp, hf, hrecorded, hwritten, hprepared⟩ := h
  obtain ⟨y, hy⟩ := ok_of_isSome hwritten
  have hroot : Returns (writePackage client rootPackage folder true) (beforeRoot w) y
      (afterRoot w folder) := returns_of_fst hy
  have hfolders : Returns (Disk.ensureFolders (depsFolder folder)) (afterRoot w folder).disk ()
      (finished w folder).disk := returns_of_fst (eq_ok hprepared)
  have hnone : Returns (writeDependencies client (depsFolder folder)
      ((walked w).recorded.map (·.2))) (finished w folder) () (finished w folder) := by
    rw [hrecorded]
    rfl
  exact (returns_create (by decide)).mpr ⟨w, (walked w).world, afterRoot w folder,
    (finished w folder).disk, y, hfolder, hclear, resolve_of_walked hp hf, hroot, hfolders, hnone⟩

def outFolder : Path := (Path.ofText "out").below ["P"]

theorem escaping_writes : ∃ s w',
    Returns (create client rootPackage (Path.ofText "out")) escaping s w' ∧
      (w'.disk.item? ["w", "esc.move"]).join.isSome := by
  obtain ⟨halone, hfile⟩ : Alone escaping outFolder ∧
      ((finished escaping outFolder).disk.item? ["w", "esc.move"]).join.isSome := by
    decide +kernel
  exact ⟨_, _, halone.returns rfl rfl, hfile⟩

end Sample

/-- For names that lead up, and a run that fails. -/
theorem create_confined_crooked :
    let c := MoveSkeleton.Sample.client
    let w := Sample.crooked
    let root := Sample.rootPackage
    let target := Path.ofText "out"
    Path.IsName root.name ∧ w.node.SourcesStay ∧
      (∀ d ∈ w.node.dependencies, isFramework d.account = false → Path.Stays 1 d.folder) ∧
        w.disk.Confined (target.join root.name) (after (create c root target) w).disk := by
  have hn : Sample.crooked.node.SourcesStay := by decide +kernel
  have hds : ∀ d ∈ Sample.crooked.node.dependencies, isFramework d.account = false →
      Path.Stays 1 d.folder := by decide +kernel
  exact ⟨by decide, hn, hds, create_confined (by decide) hn hds⟩

/-- The source of a module whose name leads up is written outside the folder of the root package. -/
theorem source_written_outside :
    let c := MoveSkeleton.Sample.client
    let w := Sample.escaping
    let root := Sample.rootPackage
    let target := Path.ofText "out"
    Path.IsName root.name ∧
      ¬ w.disk.Confined (target.join root.name) (after (create c root target) w).disk := by
  intro c w root target
  obtain ⟨s, w', h, hfile⟩ := Sample.escaping_writes
  refine ⟨by decide, fun hconfined => ?_⟩
  rw [Returns.after_eq h] at hconfined
  have hbefore : w.disk.item? ["w", "esc.move"] = none := by decide +kernel
  have hout : ¬ w.disk.place (target.join root.name) <+: ["w", "esc.move"] := by decide +kernel
  rcases hconfined.apart _ hout with hsame | ⟨-, hfolder, -⟩
  · rw [hsame, hbefore] at hfile
    cases hfile
  · rw [hfolder] at hfile
    cases hfile

end Skeleton

end MoveSkeleton
