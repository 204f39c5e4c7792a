import MoveSkeleton.Proofs.Disk.Outside
import MoveSkeleton.Proofs.Skeleton.Clearing
import MoveSkeleton.Proofs.Skeleton.Confinement
import MoveSkeleton.Proofs.Skeleton.Lockstep

/-! Old output and new runs. What has stood in the folder of the root package makes no difference
to a run, and a run that is repeated leaves what the first one left. -/
namespace MoveSkeleton.Skeleton

open Resolution Activity

variable {A : Prop} {c : Client} {root p : PackageId} {target folder : Path} {name : Text}
  {a b : List Request} {u v w x : World} {d e : Disk} {l : Location} {parts : List Text}

theorem fails_clear_of_unknown {fault : DiskFault} (h : v.disk.exists? folder = .error fault) :
    Fails (clear folder) v (.disk fault) v := by
  unfold clear
  rw [fails_get_bind, h]
  exact fails_bind.mpr (.inl (fails_ofResult.mpr ⟨rfl, rfl⟩))

/-- How the folder of the root package is cleared: what stood in its place is gone, or nothing stood
there and that cannot be told. -/
theorem clear_cases (hn : name ≠ "..")
    (hway : v.disk.Skirts target (v.disk.place (target.below [name])))
    (hold : v.disk.Clearable (target.below [name])) :
    (∃ found, v.disk.exists? (target.below [name]) = .ok found ∧
      ∃ v', Returns (clear (target.below [name])) v () v' ∧ v'.node = v.node ∧
        v'.requests = v.requests ∧
          Disk.Cleared (v.disk.place (target.below [name])) v.disk v'.disk) ∨
    ∃ fault, v.disk.exists? (target.below [name]) = .error fault ∧
      Fails (clear (target.below [name])) v (.disk fault) v ∧
        v.disk.item? (v.disk.place (target.below [name])) = none := by
  rcases hold with habsent | hthere
  · cases hfound : v.disk.exists? (target.below [name]) with
    | ok found =>
      cases found with
      | true =>
        have hsome := Disk.isSome_of_exists? hn hfound
        rw [habsent] at hsome
        cases hsome
      | false =>
        exact .inl ⟨false, rfl, v, returns_clear.mpr (.inr ⟨hfound, rfl⟩), rfl, rfl,
          .of_absent habsent⟩
    | error fault => exact .inr ⟨fault, rfl, fails_clear_of_unknown hfound, habsent⟩
  · have hfound := Disk.exists?_of_isFolder? hthere
    obtain ⟨e, he, hcleared⟩ := hway.removeFolder hn hthere
    exact .inl ⟨true, hfound, _, returns_clear.mpr (.inl ⟨hfound, e, he, rfl⟩), rfl, rfl, hcleared⟩

/-- The disks agree outside the place of the folder, which can be cleared on both. -/
structure Leftovers (target : Path) (name : Text) (d e : Disk) : Prop where
  way : d.Skirts target (d.place (target.below [name]))
  old : d.Clearable (target.below [name])
  old' : e.Clearable (target.below [name])
  agree : Disk.AgreeOutside (d.place (target.below [name])) d e

/-- Where it cannot be told whether the folder is there, it is on neither disk. -/
theorem Leftovers.same_of_unknown (h : Leftovers target name d e) {fault : DiskFault}
    (hd : d.exists? (target.below [name]) = .error fault ∨
      e.exists? (target.below [name]) = .error fault) :
    Disk.Same (target.anchor = .here) d e := by
  have hshort : ¬ (target.below [name]).Short := by
    intro hs
    obtain ⟨found, hf⟩ := Disk.exists?_isOk (d := d) hs
    obtain ⟨found', hf'⟩ := Disk.exists?_isOk (d := e) hs
    rcases hd with hd | hd
    · cases hf.symm.trans hd
    · cases hf'.symm.trans hd
  have habsent : ∀ {d : Disk}, d.Clearable (target.below [name]) →
      d.item? (d.place (target.below [name])) = none :=
    fun hold => hold.resolve_right fun hthere => hshort (Disk.short_of_isFolder? hthere)
  refine h.agree.same_of_absent h.way.here (fun k => Disk.item?_eq_none_below (habsent h.old))
    fun k => Disk.item?_eq_none_below ?_
  rw [← Disk.place_of_here h.agree.here]
  exact habsent h.old'

/-- Once the folder has been cleared, nothing is left in which the disks differ. -/
theorem together_clear (hn : name ≠ "..") :
    Together (Abreast (Leftovers target name) Eq a b) (clear (target.below [name]))
      (clear (target.below [name]))
      (fun x y w v => x = y ∧ Abreast (Disk.Same (target.anchor = .here)) Eq a b w v)
      (Abreast (Disk.Same (target.anchor = .here)) Eq a b) := by
  intro w v h
  obtain ⟨hdisk, hnode, made, hw, hv⟩ := h
  have hplace := Disk.place_of_here hdisk.agree.here (target.below [name])
  have hway : v.disk.Skirts target (v.disk.place (target.below [name])) :=
    hplace ▸ hdisk.way.of_here hdisk.agree.here
  have hexists : Disk.Same (target.anchor = .here) w.disk v.disk →
      w.disk.exists? (target.below [name]) = v.disk.exists? (target.below [name]) :=
    fun hsame => hsame.exists? fun h => h
  rcases clear_cases hn hdisk.way hdisk.old with
    ⟨found, hf, w', hrun, hnode₁, hrequests₁, hclear₁⟩ | ⟨fault, hf, hrun, -⟩
  · rcases clear_cases hn hway hdisk.old' with
      ⟨_, -, v', hrun', hnode₂, hrequests₂, hclear₂⟩ | ⟨fault, hf', -⟩
    · rw [hplace] at hclear₂
      rw [show _ = _ from hrun, show _ = _ from hrun']
      exact .returned ⟨rfl, hdisk.agree.same_of_cleared hdisk.way.here hclear₁ hclear₂,
        by rw [hnode₁, hnode₂, hnode], made, hrequests₁.trans hw, hrequests₂.trans hv⟩
    · cases hf.symm.trans ((hexists (hdisk.same_of_unknown (.inr hf'))).trans hf')
  · have hsame := hdisk.same_of_unknown (.inl hf)
    rcases clear_cases hn hway hdisk.old' with ⟨_, hf', -⟩ | ⟨fault', hf', hrun', -⟩
    · cases hf.symm.trans ((hexists hsame).trans hf')
    · obtain rfl := Except.error.inj (hf.symm.trans ((hexists hsame).trans hf'))
      rw [show _ = _ from hrun, show _ = _ from hrun']
      exact .failed ⟨hsame, hnode, made, hw, hv⟩

/-- Two runs between which only what stands in the folder of the root package differs. -/
theorem together_create (hname : Path.IsName root.name) :
    Together (Abreast (Leftovers target root.name) Eq a b) (create c root target)
      (create c root target)
      (fun x y w v => x = y ∧ Abreast (Disk.Same (target.anchor = .here)) Eq a b w v)
      (Abreast (Disk.Same (target.anchor = .here)) Eq a b) := by
  rw [create_eq, Path.join_of_isPart hname.1]
  exact (together_clear hname.2).bind_of fun _ _ _ =>
    together_createCleared_same Node.indistinct_eq fun h => h

theorem bounds_growsWithin (folder : Path) (l : Location) :
    Bounds folder (Disk.GrowsWithin folder l) where
  refl := .refl folder l
  trans := Disk.GrowsWithin.trans
  ensureFolders := Disk.growsWithin_ensureFolders
  writeFile := Disk.growsWithin_writeFile

/-- What becomes of a disk once the folder of the root package has been cleared: nothing, or what
comes of it when the folder for the sources cannot be created, or what is written once it has
been. -/
inductive Course (folder : Path) (d : Disk) : Disk → Prop where
  | idle : Course folder d d
  | refused {fault : DiskFault} {d' : Disk} (h : Fails (Disk.ensureFolders
      (folder.below [Text.ofString sourcesFolder])) d fault d') : Course folder d d'
  | founded {e d' : Disk} (h : Returns (Disk.ensureFolders
      (folder.below [Text.ofString sourcesFolder])) d () e)
      (hd : ∀ l, Disk.GrowsWithin folder l e d') : Course folder d d'

/-- First steps that leave the disk alone can be left aside. -/
theorem course_bind {α β : Type} {f : α → Activity β} {a : Activity α}
    (ha : (after a w).disk = w.disk)
    (hf : ∀ x v, Returns a w x v → v.disk = w.disk →
      Course folder w.disk (after (f x) v).disk) :
    Course folder w.disk (after (a >>= f) w).disk :=
  after_bind (P := fun v => Course folder w.disk v.disk) (fun _ _ => ha ▸ .idle) fun x hx =>
    hf x _ hx ha

/-- Once the folder for the sources is there, all is written in the folder of the package. -/
private theorem growsWithin_sources {v : World} {account t : Text} {ms : List Text} {manifest : Path}
    {event : Event} (hms : ∀ m ∈ ms, Path.Stays 1 (sourceFile m)) (l : Location) :
    Disk.GrowsWithin folder l v.disk (after (do
      writeModules c account (folder.below [Text.ofString sourcesFolder]) ms
      writeText (folder.below [Text.ofString Manifest.fileName]) t
      note event
      return manifest) v).disk := by
  have hnil : Path.within 0 [] = true := rfl
  exact ((bounds_growsWithin folder l).keeps_sources hnil hms).disk

private theorem note_disk (event : Event) (w : World) : (after (note event) w).disk = w.disk := rfl

theorem course_writeFiles {isRoot : Bool} (hn : w.node.SourcesStay) :
    Course folder w.disk (after (writeFiles c p folder isRoot) w).disk := by
  unfold writeFiles
  rw [join_sources, join_manifest]
  refine course_bind (c.readResources_disk p.account w) fun rs v hrs hv => ?_
  rw [← hv]
  refine course_bind rfl fun record v' hrecord _ => ?_
  obtain ⟨hrec, rfl⟩ := returns_ofResult.mp hrecord
  have hmem : record ∈ w.node.packages :=
    Client.mem_packages_of_requirePackage (congrArg Prod.fst hrs) hrec
  refine after_bind (P := fun x : World => Course folder v'.disk x.disk) (fun e he => ?_)
    fun _ he => ?_
  · obtain ⟨fault, d, hd, -, hu⟩ := fails_onDisk.mp he
    rw [hu]
    exact .refused hd
  · obtain ⟨d, hd, hu⟩ := returns_onDisk.mp he
    rw [hu]
    exact .founded hd (growsWithin_sources (v := { v' with disk := d }) (hn record hmem))

theorem course_writePackage {isRoot : Bool} (hn : w.node.SourcesStay) :
    Course folder w.disk (after (writePackage c p folder isRoot) w).disk := by
  unfold writePackage
  refine course_bind (note_disk ..) fun _ v hv _ => ?_
  obtain rfl := returns_note.mp hv
  rw [(run_notingFailure ..).2.2]
  exact course_writeFiles (w := { w with events := w.events ++ [.downloading p] }) hn

/-- A package that is written has had the folder for its sources created. -/
theorem founded_of_writePackage {isRoot : Bool} {y : Path} (hn : w.node.SourcesStay)
    (h : Returns (writePackage c p folder isRoot) w y v) :
    ∃ e, Returns (Disk.ensureFolders (folder.below [Text.ofString sourcesFolder])) w.disk () e ∧
      ∀ l, Disk.GrowsWithin folder l e v.disk := by
  obtain ⟨rs, u, record, d, u₁, u₂, hread, hreq, hd, hmodules, hmanifest, rfl, rfl⟩ :=
    returns_writePackage.mp h
  have hdisk := c.readResources_disk p.account
    { w with events := w.events ++ [.downloading p] }
  rw [hread] at hdisk
  have hmem : record ∈ w.node.packages :=
    Client.mem_packages_of_requirePackage (w := { w with events := w.events ++ [.downloading p] })
      (congrArg Prod.fst hread) hreq
  refine ⟨d, hdisk ▸ hd, fun l => ?_⟩
  have hK := bounds_growsWithin folder l
  have hmodules₁ : Keeps _ { u with disk := d } (after (writeModules c p.account
      (folder.below ([] ++ [Text.ofString sourcesFolder])) record.modules) { u with disk := d }) :=
    hK.keeps_writeModules rfl (hn record hmem)
  have hmanifest₁ : Keeps _ u₁ (after (writeText (folder.below [Text.ofString Manifest.fileName])
      (Manifest.text isRoot p.name record)) u₁) := hK.keeps_writeText isName_manifest.within
  rw [List.nil_append, hmodules.after_eq] at hmodules₁
  rw [hmanifest.after_eq] at hmanifest₁
  exact hmodules₁.disk.trans hmanifest₁.disk

theorem course_createCleared (hn : w.node.SourcesStay)
    (hds : ∀ d ∈ w.node.dependencies, isFramework d.account = false → Path.Stays 1 d.folder) :
    Course folder w.disk (after (createCleared c root folder) w).disk := by
  unfold createCleared dependenciesFolder
  simp only [join_dependencies]
  refine course_bind ?_ fun dependencies u hresolve hu => ?_
  · rw [after_resolve, resolveFrom_disk]
  have hlater : w.node.Later u.node := by
    rw [(returns_resolve.mp hresolve).2.2]
    exact later_resolveFrom c root [] w
  have hstay := stays_of_resolve hds hresolve
  rw [← hu]
  refine course_bind (note_disk ..) fun _ v hv hdisk => ?_
  have hn : v.node.SourcesStay := by
    rw [returns_note.mp hv]
    exact hn.later hlater
  rw [← hdisk]
  refine after_bind (P := fun x : World => Course folder v.disk x.disk)
    (fun _ _ => course_writePackage hn) fun y hy => ?_
  obtain ⟨e, he, hgrows⟩ := founded_of_writePackage hn hy
  refine .founded he fun l => (hgrows l).trans ?_
  have hK := bounds_growsWithin folder l
  have hroot : Keeps _ v (after (writePackage c root (folder.below []) true) v) :=
    hK.keeps_writePackage rfl hn
  rw [Path.below_nil] at hroot
  exact (hK.keeps_dependencies (hn.later hroot.node) hstay).disk

theorem after_create_of_cleared (hname : Path.IsPart root.name)
    (h : Returns (clear (target.below [root.name])) w () v) :
    after (create c root target) w = after (createCleared c root (target.below [root.name])) v := by
  rw [create_eq, Path.join_of_isPart hname]
  exact congrArg Prod.snd (run_bind_of_ok h)

theorem after_create_of_fails {f : Failure} (hname : Path.IsPart root.name)
    (h : Fails (clear (target.below [root.name])) w f v) : after (create c root target) w = v := by
  rw [create_eq, Path.join_of_isPart hname]
  exact congrArg Prod.snd (run_bind_of_error h)

/-- Nodes that answer as a steady one does cannot be told apart. -/
theorem indistinct_alike (n : Node) : Node.Indistinct c fun m k => n.Alike m ∧ n.Alike k :=
  .of_same (fun url h => ⟨h.1.ask url, h.2.ask url⟩) fun url h =>
    (h.1.same url).trans (h.2.same url).symm

/-- If the folder for the sources could not be created, it cannot be when the run is repeated. -/
private theorem again_of_refused (hname : Path.IsName root.name)
    (hgone : u.disk.item? (u.disk.place (target.below [root.name])) = none)
    (hn : u.node.SourcesStay)
    (hds : ∀ d ∈ u.node.dependencies, isFramework d.account = false → Path.Stays 1 d.folder)
    (hlater : u.node.Later x.node) {fault : DiskFault} (h : Fails (Disk.ensureFolders
      ((target.below [root.name]).below [Text.ofString sourcesFolder])) u.disk fault x.disk) :
    (after (create c root target) x).disk = x.disk := by
  have hfound := Disk.exists?_of_fails hname.2 isName_sources.2 (by decide) (by decide)
    (fun k => Disk.item?_eq_none_below hgone) h
  obtain ⟨fault', hagain⟩ := Disk.fails_ensureFolders_again h
  cases hf : x.disk.exists? (target.below [root.name]) with
  | error lapse => rw [after_create_of_fails hname.1 (fails_clear_of_unknown hf)]
  | ok found =>
    cases found with
    | true => exact absurd hf hfound
    | false =>
      have hclear : Returns (clear (target.below [root.name])) x () x :=
        returns_clear.mpr (.inr ⟨hf, rfl⟩)
      rw [after_create_of_cleared hname.1 hclear]
      have hcourse : Course (target.below [root.name]) x.disk
          (after (createCleared c root (target.below [root.name])) x).disk :=
        course_createCleared (hn.later hlater) fun d hd => hds d (hlater.dependencies hd)
      generalize (after (createCleared c root (target.below [root.name])) x).disk = e at hcourse
      cases hcourse with
      | idle => rfl
      | refused h' => exact h'.after_eq.symm.trans hagain.after_eq
      | founded h' => exact absurd h' hagain.not_returns

/-- Nothing stands at the location on the first disk, or the same stands everywhere on both. -/
private def Recovers (l : Location) (w v : World) : Prop :=
  w.disk.item? l = none ∨ ∀ k, w.disk.item? k = v.disk.item? k

/-- If the folder for the sources is created on both disks, what is written then is the same. Until
then the disks may differ. -/
private theorem recovers_of_returns {N : Node → Node → Prop} (hN : Node.Indistinct c N)
    (hnode : N u.node v.node) {d' : Disk}
    (h : Returns (Disk.ensureFolders (folder.below [Text.ofString sourcesFolder])) u.disk () d)
    (h' : Returns (Disk.ensureFolders (folder.below [Text.ofString sourcesFolder])) v.disk () d')
    (hsame : Disk.Same A d d') (hfits : Disk.Fits A folder) (hgone : u.disk.item? l = none) :
    Recovers l (after (createCleared c root folder) u) (after (createCleared c root folder) v) := by
  have hens : Together (fun x y => x = u.disk ∧ y = v.disk)
      (Disk.ensureFolders (folder.below [Text.ofString sourcesFolder]))
      (Disk.ensureFolders (folder.below [Text.ofString sourcesFolder]))
      (fun _ _ => Disk.Same A) (fun _ _ => False) := by
    rintro x y ⟨rfl, rfl⟩
    rw [show _ = _ from h, show _ = _ from h']
    exact .returned hsame
  have hboth : Together (Abreast (fun x y => x = u.disk ∧ y = v.disk) N u.requests v.requests)
      (createCleared c root folder) (createCleared c root folder)
      (fun s t w x => s = t ∧ Abreast (Disk.Same A) N u.requests v.requests w x) (Recovers l) := by
    refine together_createCleared hN hfits ⟨?_, fun w x h => .inl (h.disk.1 ▸ hgone),
      fun w x h => .inr h.disk.item, fun _ _ _ h => h⟩
    rw [join_sources]
    exact together_onDisk hens (fun _ _ h => h.disk) (fun _ _ h _ _ _ _ hd => h.withDisk hd)
      fun _ _ _ _ _ h => h.elim
  exact hboth.after ⟨⟨rfl, rfl⟩, hnode, [], by simp, by simp⟩
    (fun _ _ _ _ h => .inr h.2.disk.item) fun _ _ h => h

section
variable (hname : Path.IsName root.name) (hnode : u.node.Alike x.node)
  (hway : u.disk.Skirts target (u.disk.place (target.below [root.name])))
  (hgone : u.disk.item? (u.disk.place (target.below [root.name])) = none)
include hname hnode hway hgone

/-- A run that has written nothing writes nothing when it is repeated. -/
private theorem again_of_idle (hu : u.node.Steady) (hdisk : x.disk = u.disk)
    (hx : after (createCleared c root (target.below [root.name])) u = x) (k : Location) :
    (after (create c root target) x).disk.item? k = x.disk.item? k := by
  rcases clear_cases (v := x) hname.2 (hdisk ▸ hway) (.inl (hdisk ▸ hgone)) with
    ⟨-, -, v, hclear, hv, -, hcleared⟩ | ⟨fault, -, hclear, -⟩
  · rw [hdisk] at hcleared
    have hsame := Disk.AgreeOutside.same_of_cleared (A := target.anchor = .here)
      ⟨rfl, fun _ => rfl, fun _ _ => rfl⟩ hway.here (.of_absent hgone) hcleared
    have hboth : RunAbreast (Disk.Same (target.anchor = .here)) _ u.requests v.requests
        (createCleared c root (target.below [root.name]))
        (createCleared c root (target.below [root.name])) :=
      together_createCleared_same (indistinct_alike u.node) fun h => h
    have hend := hboth.after (s := u) (t := v) ⟨hsame, ⟨hu.alike, hv ▸ hnode⟩, [], by simp, by simp⟩
      (fun _ _ _ _ h => h.2) fun _ _ h => h
    rw [after_create_of_cleared hname.1 hclear, ← hx]
    exact (hend.disk.item k).symm
  · rw [after_create_of_fails hname.1 hclear]

/-- Where the folder for the sources has been created, what a run has written is written again. -/
private theorem again_of_founded (hu : u.node.Steady) {e : Disk}
    (hx : after (createCleared c root (target.below [root.name])) u = x)
    (h : Returns (Disk.ensureFolders
      ((target.below [root.name]).below [Text.ofString sourcesFolder])) u.disk () e)
    (hd : ∀ l, Disk.GrowsWithin (target.below [root.name]) l e x.disk) (k : Location) :
    (after (create c root target) x).disk.item? k = x.disk.item? k := by
  obtain ⟨hf, hens⟩ := Disk.Ensures.of_returns_folders h
  obtain ⟨-, -, hat, hl⟩ := hens.at_place isName_sources.2
  obtain ⟨hgrows, hout⟩ := hd _ hat hl
  have hhere : x.disk.here = u.disk.here := hgrows.here.trans hens.grows.here
  have hplace := Disk.place_of_here hhere (target.below [root.name])
  have hthere : x.disk.isFolder? (target.below [root.name]) = .ok true :=
    Disk.isFolder?_eq_true_iff.mpr ⟨(Path.ofPath?_below.mp hf).1,
      Path.size_text_le_of_below hens.short, (hat.hasFolder hl).mono hgrows⟩
  have hlx := hgrows.folder hl
  rcases clear_cases (v := x) hname.2 (hplace ▸ hway.of_here hhere) (.inr hthere) with
    ⟨-, -, v, hclear, hv, -, hcleared⟩ | ⟨fault, -, -, habsent⟩
  · rw [hplace] at hcleared
    obtain ⟨f, hf', hsame⟩ := hcleared.returns_ensureFolders (A := target.anchor = .here) h
      (fun h => h) hway.here hgone hgrows hout
    have hend : Recovers (u.disk.place (target.below [root.name]))
        (after (createCleared c root (target.below [root.name])) u)
        (after (createCleared c root (target.below [root.name])) v) :=
      recovers_of_returns (indistinct_alike u.node) ⟨hu.alike, hv ▸ hnode⟩ h hf' hsame (fun h => h)
        hgone
    rw [after_create_of_cleared hname.1 hclear]
    rw [hx] at hend
    rcases hend with hnone | hsame
    · rw [hlx] at hnone
      cases hnone
    · exact (hsame k).symm
  · rw [hplace, hlx] at habsent
    cases habsent

end

/-- Whatever it came to, a run that is repeated leaves what it left before. -/
theorem create_again (hname : Path.IsName root.name) (hnode : w.node.Steady)
    (hn : w.node.SourcesStay)
    (hds : ∀ d ∈ w.node.dependencies, isFramework d.account = false → Path.Stays 1 d.folder)
    (hway : w.disk.Skirts target (w.disk.place (target.below [root.name])))
    (hold : w.disk.Clearable (target.below [root.name])) (k : Location) :
    (after (create c root target) (after (create c root target) w)).disk.item? k =
      (after (create c root target) w).disk.item? k := by
  rcases clear_cases hname.2 hway hold with
    ⟨-, -, u, hclear, hu, -, hcleared⟩ | ⟨fault, -, hclear, -⟩
  · have hplace := Disk.place_of_here hcleared.here (target.below [root.name])
    have hgone : u.disk.item? (u.disk.place (target.below [root.name])) = none :=
      hcleared.gone _ (hplace ▸ List.prefix_refl _)
    have hway' := hplace.symm ▸ hway.of_here hcleared.here
    rw [← hu] at hnode hn hds
    have hlater : u.node.Later (after (createCleared c root (target.below [root.name])) u).node :=
      ((bounds_confined _).keeps_createCleared hn fun _ _ => stays_of_resolve hds).node
    have hcourse : Course (target.below [root.name]) u.disk
        (after (createCleared c root (target.below [root.name])) u).disk :=
      course_createCleared hn hds
    rw [after_create_of_cleared hname.1 hclear]
    generalize hx : after (createCleared c root (target.below [root.name])) u = x at hlater hcourse
    generalize hd : x.disk = d at hcourse
    cases hcourse with
    | idle =>
      exact (again_of_idle hname (hnode.later hlater) hway' hgone hnode hd hx k).trans
        (congrArg (Disk.item? · k) hd)
    | refused h =>
      subst hd
      rw [again_of_refused hname hgone hn hds hlater h]
    | founded h hd' =>
      subst hd
      exact again_of_founded hname (hnode.later hlater) hway' hgone hnode hx h hd' k
  · rw [after_create_of_fails hname.1 hclear, after_create_of_fails hname.1 hclear]

/-- What has stood in the folder of the root package makes no difference to a run, as long as the
way to the target leads through nothing inside that folder: on disks that agree outside of it, and
on which it is absent or a folder, a run asks for the same, comes to the same and leaves the same.
With answers that do not change, and names without slashes, a second run leaves what the first one
left. -/
theorem create_renews (hname : Path.IsName root.name)
    (hway : w.disk.Skirts target (w.disk.place (target.join root.name)))
    (hold : w.disk.Clearable (target.join root.name)) :
    (∀ d, Disk.AgreeOutside (w.disk.place (target.join root.name)) w.disk d →
      d.Clearable (target.join root.name) →
        let v : World := { w with disk := d }
        let w' := after (create c root target) w
        let v' := after (create c root target) v
        ((create c root target).run.run w).1 = ((create c root target).run.run v).1 ∧
          w'.requests = v'.requests ∧ ∀ k, w'.disk.item? k = v'.disk.item? k) ∧
    (w.node.Steady → (∀ q ∈ w.node.packages, ∀ m ∈ q.modules, m.SlashFree) →
      (∀ d ∈ w.node.dependencies, d.name.SlashFree ∧ d.account.SlashFree) →
        let once := after (create c root target) w
        let twice := after (create c root target) once
        ∀ k, twice.disk.item? k = once.disk.item? k) := by
  rw [Path.join_of_isPart hname.1] at *
  refine ⟨fun d hagree hnew => ?_, fun hnode hms hds => ?_⟩
  · have hleft : Abreast (Leftovers target root.name) Eq w.requests w.requests w
        { w with disk := d } := ⟨⟨hway, hold, hnew, hagree⟩, rfl, [], by simp, by simp⟩
    obtain ⟨houtcome, hend⟩ := (together_create (c := c) hname w { w with disk := d } hleft).fst_eq
    obtain ⟨made, hw, hv⟩ := hend.requests
    exact ⟨houtcome, hw.trans hv.symm, hend.disk.item⟩
  · refine create_again hname hnode (fun q hq m hm => (isName_sourceFile (hms q hq m hm)).stays) ?_
      hway hold
    exact fun d hd _ => (isName_folder (slashFree_folder (hds d hd).1 (hds d hd).2)).stays

namespace Sample

open MoveSkeleton.Sample Resolution.Sample

/-- The root package is written before its dependency is found to have no answer. -/
def unanswered : World where
  node := [(client.resourcesUrl "0xa", [answer (resources [package "P" [("0xb", "Q")] ["p"]])]),
    (client.interfaceUrl "0xa" "p", [answer (interface "0xa" "p")])]
  disk := Disk.blank ["w"]

theorem agree_stale : Disk.AgreeOutside ["w", "P"] (Disk.blank ["w"]) stale where
  here := rfl
  lost _ := rfl
  item k hk := by
    have hne : (["w", "P"] : Location) ≠ [] := List.cons_ne_nil _ _
    have hput : stale.root = (Disk.blank ["w"]).root.put ["w", "P"]
        (Tree.empty.put ["deps", "Q_b", "sources", "old.move"] (.file .empty)) := rfl
    unfold Disk.item?
    rw [hput, Tree.item?_put hne rfl, if_neg hk]

/-- A root package with nothing to it. -/
def bare : World where
  node := [(client.resourcesUrl "0xa", [answer (resources [package "P" [] []])])]
  disk := Disk.blank ["w"]

private def bareFolder : Path := roundabout.below ["P"]

/-- A first run returns. When it is repeated, the folder of the root package is emptied, and the way
to it is lost. -/
theorem bare_twice :
    let once := after (create client rootPackage roundabout) bare
    let twice := after (create client rootPackage roundabout) once
    (once.disk.item? ["w", "P", "Move.toml"]).isSome ∧
      twice.disk.item? ["w", "P", "Move.toml"] = none := by
  obtain ⟨halone, hfile, hfails, hlost⟩ : Alone bare bareFolder ∧
      ((finished bare bareFolder).disk.item? ["w", "P", "Move.toml"]).isSome ∧
      ((clear bareFolder).run.run (finished bare bareFolder)).1.toOption.isNone ∧
      (after (clear bareFolder) (finished bare bareFolder)).disk.item? ["w", "P", "Move.toml"] =
        none := by
    decide +kernel
  obtain ⟨f, hf⟩ := error_of_isNone hfails
  intro once twice
  have honce : once = finished bare bareFolder := (halone.returns rfl rfl).after_eq
  have htwice : twice = after (clear bareFolder) (finished bare bareFolder) := by
    unfold twice
    rw [honce]
    exact after_create_of_fails (by decide) (fails_of_fst hf)
  rw [honce, htwice]
  exact ⟨hfile, hlost⟩

end Sample

/-- For a run that fails once it has written the root package. -/
theorem create_renews_stale :
    let c := MoveSkeleton.Sample.client
    let w := Sample.unanswered
    let v : World := { w with disk := Sample.stale }
    let root := Sample.rootPackage
    let target : Path := Path.ofText "."
    let once := after (create c root target) w
    let twice := after (create c root target) once
    w.disk.item? ["w", "P", "deps"] ≠ v.disk.item? ["w", "P", "deps"] ∧
      ((create c root target).run.run w).1 = ((create c root target).run.run v).1 ∧
        (∀ k, once.disk.item? k = (after (create c root target) v).disk.item? k) ∧
          ∀ k, twice.disk.item? k = once.disk.item? k := by
  intro c w v root target once twice
  have hplace : w.disk.place (target.join root.name) = ["w", "P"] := by decide +kernel
  have hms : ∀ q ∈ w.node.packages, ∀ m ∈ q.modules, m.SlashFree := by
    unfold Text.SlashFree
    decide +kernel
  have hds : ∀ d ∈ w.node.dependencies, d.name.SlashFree ∧ d.account.SlashFree := by
    unfold Text.SlashFree
    decide +kernel
  have hname : Path.IsName root.name := by decide
  have hway : w.disk.Skirts target (w.disk.place (target.join root.name)) := by decide +kernel
  have hold : w.disk.Clearable (target.join root.name) := .inl (by decide +kernel)
  obtain ⟨hrenews, hagain⟩ := create_renews (c := c) hname hway hold
  obtain ⟨houtcome, -, hitem⟩ := hrenews Sample.stale (hplace ▸ Sample.agree_stale)
    (.inr (by decide +kernel))
  exact ⟨by decide +kernel, houtcome, hitem,
    hagain (Node.steady_of_length_le_one (by decide +kernel)) hms hds⟩

/-- Where the way to the target leads through the folder of the root package, a second run takes
away what the first one has left. -/
theorem repeated_run_differs :
    let c := MoveSkeleton.Sample.client
    let w := Sample.bare
    let root := Sample.rootPackage
    let target := Sample.roundabout
    let once := after (create c root target) w
    let twice := after (create c root target) once
    Path.IsName root.name ∧ w.node.Steady ∧
      (∀ q ∈ w.node.packages, ∀ m ∈ q.modules, m.SlashFree) ∧
      (∀ d ∈ w.node.dependencies, d.name.SlashFree ∧ d.account.SlashFree) ∧
      w.disk.item? (w.disk.place (target.join root.name)) = none ∧
        ∃ k, twice.disk.item? k ≠ once.disk.item? k := by
  intro c w root target once twice
  have hms : ∀ q ∈ w.node.packages, ∀ m ∈ q.modules, m.SlashFree := by
    unfold Text.SlashFree
    decide +kernel
  have hds : ∀ d ∈ w.node.dependencies, d.name.SlashFree ∧ d.account.SlashFree := by
    unfold Text.SlashFree
    decide +kernel
  obtain ⟨hsome, hnone⟩ := Sample.bare_twice
  refine ⟨by decide, Node.steady_of_length_le_one (by decide +kernel), hms, hds, by decide +kernel,
    ["w", "P", "Move.toml"], fun h => ?_⟩
  rw [← h, hnone] at hsome
  cases hsome

end MoveSkeleton.Skeleton
