import Mathlib.Data.List.Nodup
import MoveSkeleton.Proofs.Resolution.Reached
import MoveSkeleton.Proofs.Skeleton.Clearing
import MoveSkeleton.Proofs.Skeleton.Layout

/-! What a run that has returned has written. -/
namespace MoveSkeleton.Skeleton

open Resolution Activity

variable {c : Client} {w w' : World} {root : PackageId} {target folder : Path} {s : Skeleton}
  {l : Location} {ds : List Dependency}

/-- The folder of a dependency in the folder of the root package. -/
def dependencyFolder (folder : Path) (p : PackageId) : Path :=
  (folder.below [Text.ofString Manifest.dependenciesFolder]).below [folderName p.name p.account]

/-- The packages that are reached can be told apart by their folders, and nothing that is written
has a slash in its name. -/
structure Named (c : Client) (w : World) (root : PackageId) : Prop where
  rootName : Path.IsName root.name
  plain : ∀ p, p ≠ root → Reached (answersAt c w) root p → IsPlainAccount p.account
  slashFree : ∀ p, p ≠ root → Reached (answersAt c w) root p → p.name.SlashFree
  modules : ∀ p, Reached (answersAt c w) root p →
    ∀ record, recordOf (answersAt c w) p = .ok record → ∀ m ∈ record.modules, m.SlashFree

/-- All that is needed to write the root package and the packages that are reached is at hand. -/
structure Complete (c : Client) (w : World) (root : PackageId) (folder : Path) : Prop where
  ofRoot : PackageComplete c w true root folder
  ofReached : ∀ p, p ≠ root → Reached (answersAt c w) root p →
    PackageComplete c w false p (dependencyFolder folder p)

/-- The dependencies are the packages that are reached, each under its own key. -/
structure Lists (c : Client) (w : World) (root : PackageId) (dependencies : DependencySet) :
    Prop where
  nodup : (Entries.keys dependencies).Nodup
  target : ∀ e ∈ dependencies, e.2.target = e.1
  reached : ∀ p, p ∈ Entries.keys dependencies ↔ p ≠ root ∧ Reached (answersAt c w) root p

/-- The disk takes the paths of all files that are to be written. -/
structure Fits (c : Client) (w : World) (root : PackageId) (folder : Path) : Prop where
  ofRoot : ∀ e ∈ packageFiles c w true root, (folder.below e.1).Short
  ofReached : ∀ p, p ≠ root → Reached (answersAt c w) root p →
    ∀ e ∈ packageFiles c w false p, ((dependencyFolder folder p).below e.1).Short

/-- What stands at the location was created there after it had been cleared, and is the skeleton. -/
structure Stands (c : Client) (w : World) (root : PackageId) (s : Skeleton) (w' : World)
    (l : Location) : Prop where
  way : w'.disk.At s.folder l
  cleared : ∃ u, Returns (clear s.folder) w () u ∧ ∀ k, u.disk.item? (l ++ k) = none
  short : ∀ e ∈ s.dependencies, Path.size e.2.folder ≤ Disk.maxName
  tree : ∀ k e, w'.disk.item? (l ++ k) = some e ↔
    (k, e) ∈ layout c w root (s.dependencies.map (·.2))

theorem Complete.record (h : Complete c w root folder) {p : PackageId}
    (hp : Reached (answersAt c w) root p) :
    ∃ record, recordOf (answersAt c w) p = .ok record := by
  by_cases hroot : p = root
  · obtain ⟨record, hr, -⟩ := h.ofRoot
    exact ⟨record, hroot ▸ hr⟩
  · obtain ⟨record, hr, -⟩ := h.ofReached p hroot hp
    exact ⟨record, hr⟩

theorem Lists.of_mem {dependencies : DependencySet} (h : Lists c w root dependencies)
    {d : Dependency} (hd : d ∈ dependencies.map (·.2)) :
    d.target ≠ root ∧ Reached (answersAt c w) root d.target := by
  obtain ⟨e, he, rfl⟩ := List.mem_map.mp hd
  rw [h.target e he]
  exact (h.reached e.1).mp (List.mem_map_of_mem he)

theorem Lists.mem {dependencies : DependencySet} (h : Lists c w root dependencies) {p : PackageId}
    (hp : p ≠ root) (hr : Reached (answersAt c w) root p) :
    ∃ d ∈ dependencies.map (·.2), d.target = p := by
  obtain ⟨e, he, rfl⟩ := List.mem_map.mp ((h.reached p).mpr ⟨hp, hr⟩)
  exact ⟨e.2, List.mem_map_of_mem he, h.target e he⟩

theorem target_inj {d d' : Dependency} (h : d.target = d'.target) : d = d' := by
  obtain ⟨ha, hn⟩ := PackageId.mk.inj h
  cases d
  cases d'
  exact congrArg₂ Dependency.mk ha hn

/-- Dependencies have folders of their own. -/
theorem Lists.folder_inj {dependencies : DependencySet} (h : Lists c w root dependencies)
    (hn : Named c w root) : ∀ d ∈ dependencies.map (·.2), ∀ d' ∈ dependencies.map (·.2),
      d.folder = d'.folder → d = d' := by
  intro d hd d' hd' hf
  obtain ⟨hp, hr⟩ := h.of_mem hd
  obtain ⟨hp', hr'⟩ := h.of_mem hd'
  obtain ⟨hname, haccount⟩ := folderName_inj (hn.plain _ hp hr) (hn.plain _ hp' hr') hf
  exact target_inj (congrArg₂ PackageId.mk haccount hname)

theorem Lists.isName_folder {dependencies : DependencySet} (h : Lists c w root dependencies)
    (hn : Named c w root) {d : Dependency} (hd : d ∈ dependencies.map (·.2)) :
    Path.IsName d.folder := by
  obtain ⟨hp, hr⟩ := h.of_mem hd
  exact isName_folderName (hn.plain _ hp hr) (hn.slashFree _ hp hr)

/-- Where a folder has been created anew, the items that are gained are all that stands there. -/
private theorem item?_of_renewed {d e f : Disk} {es : List DiskItem}
    (h : Renewed d folder (Text.ofString sourcesFolder) l e)
    (hg : Disk.Gains e es f) {all : List DiskItem}
    (hall : under l all = under l [([], none), ([Text.ofString sourcesFolder], none)] ++ es)
    (hc : Disk.Consistent all) (k : Location) (y : Option ByteArray) :
    f.item? (l ++ k) = some y ↔ (k, y) ∈ all := by
  have hl : e.item? l = some none := (h.way.of_below isName_sources.2).2.1
  have hstart : e.item? (l ++ k) = Disk.overlay
      (under l [([], none), ([Text.ofString sourcesFolder], none)]) (fun _ => none) (l ++ k) := by
    have hover : Disk.overlay (under l [([], none), ([Text.ofString sourcesFolder], none)])
        (fun _ => none) = Function.update (Function.update (fun _ => none) l (some none))
          (l ++ [Text.ofString sourcesFolder]) (some none) := by
      simp [under, Disk.overlay]
    rw [hover]
    by_cases hk : k = [Text.ofString sourcesFolder]
    · rw [hk, Function.update_self, h.there]
    · rw [Function.update_of_ne (by simpa using hk)]
      by_cases hk' : k = []
      · rw [hk', List.append_nil, Function.update_self, hl]
      · rw [Function.update_of_ne (by simpa using hk')]
        exact h.absent hk' hk
  rw [hg.items, Disk.overlay_congr hstart, ← Disk.overlay_append, ← hall,
    Disk.overlay_eq_some_iff (consistent_under hc) rfl, mem_under]

theorem join_dependencies : folder.join Manifest.dependenciesFolder =
    folder.below [Text.ofString Manifest.dependenciesFolder] :=
  Path.join_of_isPart isName_dependencies.1

/-- All that a run does once the folder of the root package has been cleared. -/
def createCleared (c : Client) (root : PackageId) (folder : Path) : Activity Skeleton := do
  let dependencies ← Resolution.resolve c root
  note (.collected dependencies.length)
  let _ ← writePackage c root folder true
  let s : Skeleton := ⟨folder, dependencies⟩
  onDisk (Disk.ensureFolders s.dependenciesFolder)
  writeDependencies c s.dependenciesFolder (dependencies.map (·.2))
  return s

theorem create_eq (c : Client) (root : PackageId) (target : Path) :
    create c root target = (do
      clear (target.join root.name)
      createCleared c root (target.join root.name)) := rfl

/-- A run is made of five steps: the folder of the root package is cleared, the dependencies are
resolved, the root package is written, then comes the folder of the dependencies, and last they are
written. -/
theorem returns_create (hname : Path.IsPart root.name) : Returns (create c root target) w s w' ↔
    ∃ u u₁ u₂ d y, s.folder = target.below [root.name] ∧ Returns (clear s.folder) w () u ∧
      Returns (resolve c root) u s.dependencies u₁ ∧
      Returns (writePackage c root s.folder true)
        { u₁ with events := u₁.events ++ [.collected s.dependencies.length] } y u₂ ∧
      Returns (Disk.ensureFolders (s.folder.below [Text.ofString Manifest.dependenciesFolder]))
        u₂.disk () d ∧
      Returns (writeDependencies c (s.folder.below [Text.ofString Manifest.dependenciesFolder])
        (s.dependencies.map (·.2))) { u₂ with disk := d } () w' := by
  unfold create dependenciesFolder
  simp only [Path.join_of_isPart hname, join_dependencies]
  constructor
  · intro h
    obtain ⟨⟨⟩, u, hclear, h₁⟩ := returns_bind.mp h
    obtain ⟨dependencies, u₁, hresolve, h₂⟩ := returns_bind.mp h₁
    obtain ⟨y, u₂, hroot, h₃⟩ := returns_bind.mp (returns_note_bind.mp h₂)
    obtain ⟨⟨⟩, u₃, hfolder, h₄⟩ := returns_bind.mp h₃
    obtain ⟨d, hd, rfl⟩ := returns_onDisk.mp hfolder
    obtain ⟨⟨⟩, u₄, hwrite, h₅⟩ := returns_bind.mp h₄
    obtain ⟨rfl, rfl⟩ := returns_pure.mp h₅
    exact ⟨u, u₁, u₂, d, y, rfl, hclear, hresolve, hroot, hd, hwrite⟩
  · rintro ⟨u, u₁, u₂, d, y, hs, hclear, hresolve, hroot, hd, hwrite⟩
    obtain ⟨folder, dependencies⟩ := s
    subst hs
    refine returns_bind.mpr ⟨(), u, hclear, returns_bind.mpr ⟨dependencies, u₁, hresolve,
      returns_note_bind.mpr (returns_bind.mpr ⟨y, u₂, hroot, returns_bind.mpr
        ⟨(), { u₂ with disk := d }, returns_onDisk.mpr ⟨d, hd, rfl⟩, ?_⟩⟩)⟩⟩
    exact returns_bind.mpr ⟨(), w', hwrite, returns_pure.mpr ⟨rfl, rfl⟩⟩

/-- The items of a skeleton that come after the folder of the root package has been created. -/
private def gained (c : Client) (w : World) (root : PackageId) (ds : List Dependency)
    (l : Location) : List DiskItem :=
  under l (packageFiles c w true root) ++
    ([(l ++ [Text.ofString Manifest.dependenciesFolder], none)] ++
      ds.flatMap fun d => under (l ++ [Text.ofString Manifest.dependenciesFolder] ++ [d.folder])
        (packageItems c w false d.target))

theorem under_layout : under l (layout c w root ds) =
    under l [([], none), ([Text.ofString sourcesFolder], none)] ++ gained c w root ds l := by
  simp [under, layout, gained, packageItems, List.map_flatMap, Function.comp_def]

/-- A run that returns has read all that is reached. Once the folder of the root package has been
cleared and created, the rest of the skeleton is all that it writes. -/
theorem gains_of_create (hnode : w.node.Steady) (hnamed : Named c w root)
    (h : Returns (create c root target) w s w') :
    s.folder = target.below [root.name] ∧ Lists c w root s.dependencies ∧
      ∃ u d, Returns (clear s.folder) w () u ∧
        Returns (Disk.ensureFolders (s.folder.below [Text.ofString sourcesFolder])) u.disk () d ∧
        ∀ l, d.At (s.folder.below [Text.ofString sourcesFolder])
          (l ++ [Text.ofString sourcesFolder]) →
          Complete c w root s.folder ∧
            (∀ e ∈ s.dependencies, Path.size e.2.folder ≤ Disk.maxName) ∧
            Disk.Gains d (gained c w root (s.dependencies.map (·.2)) l) w'.disk := by
  obtain ⟨u, u₁, u₂, e, y, hs, hclear, hresolve, hroot, he, hwrite⟩ :=
    (returns_create hnamed.rootName.1).mp h
  have hu : w.node.Alike u.node := clear_node hclear ▸ hnode.alike
  obtain ⟨hu₁, hdisk, hnodup, htarget, hreached⟩ := reached_of_resolve hu hresolve
  have hlists : Lists c w root s.dependencies := ⟨hnodup, htarget, hreached⟩
  obtain ⟨d, hd, hfiles⟩ := writePackage_gains (by dsimp only; exact hu₁)
    (hnamed.modules root .refl) hroot
  dsimp only at hd
  rw [hdisk] at hd
  refine ⟨hs, hlists, u, d, hclear, hd, fun l hway => ?_⟩
  obtain ⟨hat, -⟩ := hway.of_below isName_sources.2
  obtain ⟨hcomplete, hu₂, hg⟩ := hfiles l hway hat
  obtain ⟨hg', hdeps, -⟩ := Disk.gains_ensureFolders he (hg.toGrows.at hat)
    (Disk.descends_singleton.mpr isName_dependencies.2)
  obtain ⟨hcompletes, -, hgs⟩ := writeDependencies_gains (by dsimp only; exact hu₂)
    (by dsimp only; exact hdeps) (fun d hd => hlists.isName_folder hnamed hd)
    (fun d hd => hnamed.modules _ (hlists.of_mem hd).2) hwrite
  dsimp only at hgs
  refine ⟨⟨hcomplete, fun p hp hr => ?_⟩, fun e he => ?_, hg.trans (hg'.trans hgs)⟩
  · obtain ⟨d, hd, rfl⟩ := hlists.mem hp hr
    exact (hcompletes d hd).1
  · exact (hcompletes e.2 (List.mem_map_of_mem he)).2

/-- What a run that returns has written is the skeleton, in a folder that it has created anew. -/
theorem stands_of_create (hnode : w.node.Steady) (hnamed : Named c w root)
    (hdirect : w.disk.Direct target) (h : Returns (create c root target) w s w') :
    s.folder = target.below [root.name] ∧ Lists c w root s.dependencies ∧
      Complete c w root s.folder ∧ ∃ l, Stands c w root s w' l := by
  obtain ⟨hs, hlists, u, d, hclear, hd, hrun⟩ := gains_of_create hnode hnamed h
  rw [hs] at hclear hd
  obtain ⟨l, hrenewed⟩ := renewed_of_clear hnamed.rootName.2 isName_sources.2 hdirect hclear hd
  obtain ⟨hat, -⟩ := hrenewed.way.of_below isName_sources.2
  rw [← hs] at hclear hat
  obtain ⟨hcomplete, hshort, hg⟩ := hrun l (hs ▸ hrenewed.way)
  refine ⟨hs, hlists, hcomplete, l, hg.toGrows.at hat, ⟨u, hclear, hrenewed.gone⟩, hshort, ?_⟩
  exact item?_of_renewed hrenewed hg under_layout (consistent_layout (hlists.folder_inj hnamed))

end MoveSkeleton.Skeleton
