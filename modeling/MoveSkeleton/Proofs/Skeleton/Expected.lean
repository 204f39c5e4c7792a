import MoveSkeleton.Proofs.Disk.Lapse
import MoveSkeleton.Proofs.Node.Interface
import MoveSkeleton.Proofs.Resolution.Reached
import MoveSkeleton.Skeleton

/-! A run fails in no other ways than those it expects, as long as the node tells nothing that leads
to a failure of another kind. -/
namespace MoveSkeleton

theorem Failure.isExpected_of_isOfNode {e : Failure} (h : e.isOfNode = true) :
    e.isExpected = true := by
  cases e <;> first | exact h | cases h

/-- If the answer tells an interface, its source can be written. -/
def Answer.Prints (a : Answer) : Prop :=
  ∀ i ∈ (a.interface "").toOption, i.source.IsEncodable

instance : DecidablePred Answer.Prints :=
  fun a => inferInstanceAs (Decidable (∀ i ∈ (a.interface "").toOption, i.source.IsEncodable))

theorem Answer.Prints.source {a : Answer} {url : Text} {i : Interface} (ha : a.Prints)
    (h : a.interface url = .ok i) : i.source.IsEncodable := by
  refine ha i ?_
  rw [Answer.interface_eq_ok_of_url h]
  rfl

/-- The record of a package bears its name. -/
theorem Resource.name_of_requirePackage {p : PackageId} {rs : List Resource} {record : Package}
    (h : requirePackage p rs = .ok record) : record.name = p.name := by
  unfold requirePackage at h
  split at h
  · cases h
  · split at h
    · cases h
    · next q hq =>
      obtain rfl := Except.ok.inj h
      simpa using List.find?_some hq

/-- That a package is not listed is a failure of the node. -/
theorem Resource.isOfNode_of_requirePackage {p : PackageId} {rs : List Resource} {e : Failure}
    (h : requirePackage p rs = .error e) : e.isOfNode = true := by
  unfold requirePackage at h
  split at h
  · rw [← Except.error.inj h]
    rfl
  · split at h
    · rw [← Except.error.inj h]
      rfl
    · cases h

/-- From worlds in `P` an activity returns in a world of `Q`, or fails as expected. -/
abbrev EndsExpected {α : Type} (P : World → Prop) (a : Activity α) (Q : α → World → Prop) : Prop :=
  Ends P a Q fun e => e.isExpected = true

namespace Skeleton

open Activity Resolution

variable {c : Client} {root p : PackageId} {n : Node} {folder file target : Path} {t : Text}
  {ms : List Text} {ds : List Dependency} {account module : Text} {isRoot : Bool}

/-- The package is the root or, off the framework, one that the node declares a dependency on. -/
def IsNear (root : PackageId) (n : Node) (p : PackageId) : Prop :=
  p = root ∨ ∃ d ∈ n.dependencies, isFramework d.account = false ∧ d.target = p

/-- All that the node tells to be written can be written: the names go into paths that a disk can
hold, the texts can be encoded, and the modules can be asked for. -/
structure Spelled (c : Client) (root : PackageId) (folder : Path) (n : Node) : Prop where
  folder : DiskFault.ofPath? folder = none
  sources : ∀ a, n.Holds a → a.Prints
  folders : ∀ d ∈ n.dependencies, isFramework d.account = false →
    ∀ x ∈ d.folder.points, Path.Storable x
  manifests : ∀ p, IsNear root n p → ∀ q ∈ n.packages, q.name = p.name →
    ∀ isRoot, (Manifest.text isRoot p.name q).IsEncodable
  modules : ∀ p, IsNear root n p → ∀ q ∈ n.packages, q.name = p.name → ∀ m ∈ q.modules,
    Address.Sound (c.interfaceUrl p.account m) ∧ ∀ x ∈ (sourceFile m).points, Path.Storable x

/-- The node is left by requests to `n`. -/
abbrev Since (n : Node) (w : World) : Prop :=
  n.Later w.node

theorem ends_noting (e : Event) : EndsExpected (Since n) (note e) fun _ => Since n :=
  ends_note fun _ hw => hw

theorem ends_acting {α : Type} {a : Disk.Action α} (h : Disk.Lapses a) :
    EndsExpected (Since n) (onDisk a) fun _ => Since n :=
  ends_onDisk h (fun _ _ _ hw => hw) fun _ hf => Failure.isExpected_of_isLapse hf

theorem ends_writeText (hfile : DiskFault.ofPath? file = none) (ht : t.IsEncodable) :
    EndsExpected (Since n) (writeText file t) fun _ => Since n := by
  obtain ⟨content, hcontent⟩ := ht.toUtf8
  unfold writeText
  rw [hcontent]
  exact ends_acting (Disk.lapses_writeFile hfile)

theorem ends_clear : EndsExpected (Since n) (clear folder) fun _ => Since n := by
  refine .get_bind fun w hw => ?_
  have hfound : EndsExpected (Since n) (ofResult ((w.disk.exists? folder).mapError .disk))
      fun _ => Since n := by
    refine ends_ofResult (fun _ _ _ hw => hw) fun e he => ?_
    obtain ⟨fault, hf, rfl⟩ := mapError_eq_error_iff.mp he
    exact Failure.isExpected_of_isLapse (Disk.isLapse_of_exists? hf)
  refine (hfound.bind fun found => ?_) w hw
  cases found with
  | true => exact (ends_noting _).bind fun _ => ends_acting Disk.lapses_removeFolder
  | false => exact .pure fun _ hw => hw

/-- The record of a package is listed by the node under the package's name. -/
theorem ends_fetchResources (hm : Mild c root n) (hs : Address.Sound (c.resourcesUrl p.account)) :
    EndsExpected (Since n) (c.fetchResources p.account) fun rs w => Since n w ∧
      ∀ record, Resource.requirePackage p rs = .ok record →
        record ∈ n.packages ∧ record.name = p.name := by
  intro w hw
  have hsoft := (hm.later hw).isOfNode hs
  have hlater := hw.trans (c.readResources_later p.account w)
  have hrun : (c.fetchResources p.account).run.run w = c.readResources p.account w := rfl
  rw [hrun]
  unfold answersAt at hsoft
  rcases hr : c.readResources p.account w with ⟨e | rs, v⟩
  · rw [hr] at hsoft
    exact .failed (Failure.isExpected_of_isOfNode (hsoft e rfl))
  · rw [hr] at hlater
    refine .returned ⟨hlater, fun record hrecord => ⟨hw.packages ?_, ?_⟩⟩
    · exact Client.mem_packages_of_requirePackage (congrArg Prod.fst hr) hrecord
    · exact Resource.name_of_requirePackage hrecord

theorem ends_fetchInterface (hm : Mild c root n) (hprints : ∀ a, n.Holds a → a.Prints)
    (hs : Address.Sound (c.interfaceUrl account module)) :
    EndsExpected (Since n) (c.fetchInterface account module) fun i w =>
      Since n w ∧ i.source.IsEncodable := by
  intro w hw
  have hlater := hw.trans (c.readInterface_later account module w)
  have hread := c.readInterface_fst_of_sound (w := w) hs
  have hrun : (c.fetchInterface account module).run.run w = c.readInterface account module w := rfl
  rw [hrun]
  rcases hr : c.readInterface account module w with ⟨e | i, v⟩
  · rw [hr] at hread
    exact .failed (Failure.isExpected_of_isOfNode
      (Answer.isOfNode_of_interface hread.symm ((hm.later hw).ends_ask _)))
  · rw [hr] at hread hlater
    refine .returned ⟨hlater, ?_⟩
    rcases w.node.ask_fst (c.interfaceUrl account module) with ha | ha
    · rw [ha] at hread
      cases hread
    · exact (hprints _ (hw.holds ha)).source hread.symm

theorem ends_writeModules (hm : Mild c root n) (hprints : ∀ a, n.Holds a → a.Prints)
    (hfolder : DiskFault.ofPath? folder = none)
    (hms : ∀ m ∈ ms, Address.Sound (c.interfaceUrl account m) ∧
      ∀ x ∈ (sourceFile m).points, Path.Storable x) :
    EndsExpected (Since n) (writeModules c account folder ms) fun _ => Since n := by
  induction ms with
  | nil => exact .pure fun _ hw => hw
  | cons m ms ih =>
    obtain ⟨⟨hsound, hstorable⟩, hms⟩ := List.forall_mem_cons.mp hms
    refine (ends_fetchInterface hm hprints hsound).bind fun i => .of_and fun hi => ?_
    refine (ends_writeText (Path.ofPath?_join hfolder hstorable) hi).bind fun _ => ?_
    exact (ends_noting _).bind fun _ => ih hms

theorem ends_writePackage (hm : Mild c root n) (hw : Spelled c root target n)
    (hfolder : DiskFault.ofPath? folder = none) (hp : IsNear root n p)
    (hs : Address.Sound (c.resourcesUrl p.account)) :
    EndsExpected (Since n) (writePackage c p folder isRoot) fun _ => Since n := by
  have hjoin : ∀ name : String, (∀ x ∈ (Text.ofString name).points, Path.Storable x) →
      DiskFault.ofPath? (folder.join name) = none := fun _ => Path.ofPath?_join hfolder
  refine (ends_noting _).bind fun _ => ends_notingFailure ?_
  refine (ends_fetchResources hm hs).bind fun rs => .of_and fun hrs => ?_
  have hrecord : EndsExpected (Since n) (ofResult (Resource.requirePackage p rs))
      fun record w => Since n w ∧ record ∈ n.packages ∧ record.name = p.name :=
    ends_ofResult (fun record hr w hw => ⟨hw, hrs record hr⟩) fun e he =>
      Failure.isExpected_of_isOfNode (Resource.isOfNode_of_requirePackage he)
  refine hrecord.bind fun record => .of_and fun ⟨hmem, hname⟩ => ?_
  have hsources := hjoin sourcesFolder (by decide)
  refine (ends_acting (Disk.lapses_ensureFolders hsources)).bind fun _ => ?_
  refine (ends_writeModules hm hw.sources hsources (hw.modules p hp record hmem hname)).bind
    fun _ => ?_
  refine (ends_writeText (hjoin Manifest.fileName (by decide))
    (hw.manifests p hp record hmem hname isRoot)).bind fun _ => ?_
  exact (ends_noting _).bind fun _ => .pure fun _ hw => hw

theorem ends_writeDependencies (hm : Mild c root n) (hw : Spelled c root target n)
    (hfolder : DiskFault.ofPath? folder = none)
    (hds : ∀ d ∈ ds, d ∈ n.dependencies ∧ isFramework d.account = false) :
    EndsExpected (Since n) (writeDependencies c folder ds) fun _ => Since n := by
  induction ds with
  | nil => exact .pure fun _ hw => hw
  | cons d ds ih =>
    obtain ⟨⟨hd, ho⟩, hds⟩ := List.forall_mem_cons.mp hds
    have hpath := Path.ofPath?_join hfolder (hw.folders d hd ho)
    exact (ends_writePackage hm hw hpath (.inr ⟨d, hd, ho, rfl⟩) (hm.targets d hd ho)).bind
      fun _ => ih hds

/-- Resolution at such a node returns dependencies that the node declares. -/
theorem ends_resolve (hm : Mild c root n) :
    EndsExpected (Since n) (resolve c root) fun dependencies w => Since n w ∧
      ∀ d ∈ dependencies.map (·.2), d ∈ n.dependencies ∧ isFramework d.account = false := by
  intro w hw
  obtain ⟨dependencies, w', hrun, -, -⟩ := resolveFrom_traverses (hm.later hw) []
  have hlater := hw.trans (later_resolveFrom c root [] w)
  have hdeclared := declared_resolveFrom c root w
  rw [hrun] at hlater hdeclared
  have hresolve : Returns (resolve c root) w dependencies w' := by
    rw [returns_resolve, hrun]
    exact ⟨rfl, rfl, rfl⟩
  rw [show (resolve c root).run.run w = _ from hresolve]
  refine .returned ⟨hlater, fun d hd => ?_⟩
  obtain ⟨e, he, rfl⟩ := List.mem_map.mp hd
  exact ⟨hw.dependencies (hdeclared e he).1, (hdeclared e he).2⟩

theorem ends_create (hm : Mild c root n) (hw : Spelled c root (target.join root.name) n) :
    EndsExpected (Since n) (create c root target)
      fun made w => Since n w ∧ made.folder = target.join root.name := by
  refine ends_clear.bind fun _ => (ends_resolve hm).bind fun dependencies => .of_and fun hds => ?_
  have hdeps : DiskFault.ofPath? ((target.join root.name).join Manifest.dependenciesFolder) = none :=
    Path.ofPath?_join hw.folder (by decide)
  refine (ends_noting _).bind fun _ => ?_
  refine (ends_writePackage hm hw hw.folder (.inl rfl) hm.root).bind fun _ => ?_
  refine (ends_acting (Disk.lapses_ensureFolders hdeps)).bind fun _ => ?_
  exact (ends_writeDependencies hm hw hdeps hds).bind fun _ => .pure fun _ hw => ⟨hw, rfl⟩

end Skeleton

end MoveSkeleton
