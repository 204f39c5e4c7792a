import MoveSkeleton.Proofs.Skeleton.Creation

/-! When a run returns: all that is reached can be read and written, and nothing is in the way. -/
namespace MoveSkeleton.Skeleton

open Resolution Activity

variable {c : Client} {w : World} {root : PackageId} {target folder : Path} {l : Location}

theorem Lists.nodup_folder {dependencies : DependencySet} (h : Lists c w root dependencies)
    (hn : Named c w root) : ((dependencies.map (·.2)).map Dependency.folder).Nodup := by
  have hkeys : (dependencies.map (·.2)).map Dependency.target = Entries.keys dependencies := by
    rw [List.map_map]
    exact List.map_congr_left h.target
  have hds : (dependencies.map (·.2)).Nodup :=
    List.Nodup.of_map Dependency.target (hkeys ▸ h.nodup)
  exact List.Nodup.map_on (h.folder_inj hn) hds

theorem short_dependencies (hcomplete : PackageComplete c w true root folder)
    (hshort : ∀ e ∈ packageFiles c w true root, (folder.below e.1).Short) :
    (folder.below [Text.ofString Manifest.dependenciesFolder]).Short :=
  (short_sources hcomplete hshort).sibling (by decide)

/-- The folders of the root package and of its sources are there, and nothing stands in the way of
the rest of the skeleton. -/
structure HasRoom (c : Client) (w : World) (root : PackageId) (d : Disk) (folder : Path)
    (l : Location) : Prop where
  way : d.At (folder.below [Text.ofString sourcesFolder]) (l ++ [Text.ofString sourcesFolder])
  there : d.item? (l ++ [Text.ofString sourcesFolder]) = some none
  ofRoot : Room d l
  free : ∀ content, d.item? (l ++ [Text.ofString Manifest.dependenciesFolder]) ≠
    some (some content)
  ofReached : ∀ p, p ≠ root → Reached (answersAt c w) root p →
    Room d (l ++ [Text.ofString Manifest.dependenciesFolder] ++ [folderName p.name p.account])

/-- Where a folder has been created anew there is room. -/
theorem Renewed.hasRoom {d e : Disk} (h : Renewed d folder (Text.ofString sourcesFolder) l e) :
    HasRoom c w root e folder l := by
  have habsent : ∀ k, e.item? (l ++ [Text.ofString Manifest.dependenciesFolder] ++ k) = none := by
    intro k
    have hne : Text.ofString Manifest.dependenciesFolder ≠ Text.ofString sourcesFolder := by decide
    rw [List.append_assoc]
    exact h.absent (by simp) (by simp [hne])
  obtain ⟨-, hl, -⟩ := h.way.of_below isName_sources.2
  refine ⟨h.way, h.there, ?_, fun content hc => ?_, fun p _ _ => room_of_absent fun k => ?_⟩
  · refine (room_of_absent h.gone).of_folders hl h.there fun k hk hs => ?_
    rw [h.absent hk hs, h.gone]
  · rw [← List.append_nil (l ++ _), habsent] at hc
    cases hc
  · rw [List.append_assoc]
    exact habsent _

/-- Once the root package has been written, its dependencies can be written too. -/
private theorem dependencies_return {v : World} {d : Disk} {dependencies : DependencySet}
    (hv : w.node.Alike v.node) (hnamed : Named c w root) (hcomplete : Complete c w root folder)
    (hfits : Fits c w root folder) (hlists : Lists c w root dependencies)
    (hroom : HasRoom c w root d folder l)
    (hg : Disk.Gains d (under l (packageFiles c w true root)) v.disk) :
    ∃ e w', Returns (Disk.ensureFolders (folder.below [Text.ofString Manifest.dependenciesFolder]))
        v.disk () e ∧
      Returns (writeDependencies c (folder.below [Text.ofString Manifest.dependenciesFolder])
        (dependencies.map (·.2))) { v with disk := e } () w' := by
  obtain ⟨hat, hl, -⟩ := hroom.way.of_below isName_sources.2
  have hdown : Disk.Descends [Text.ofString Manifest.dependenciesFolder] :=
    Disk.descends_singleton.mpr isName_dependencies.2
  have hpass : v.disk.Passable l [Text.ofString Manifest.dependenciesFolder] := by
    apply Disk.passable_cons.mpr
    refine ⟨by simp [hg.toGrows.folder hl], Disk.passable_nil.mpr ?_⟩
    rw [item?_dependencies hg]
    exact hroom.free
  obtain ⟨hf, -⟩ := Path.ofPath?_below.mp (ofPath?_sources hcomplete.ofRoot)
  obtain ⟨e, he⟩ := Disk.returns_ensureFolders (hg.toGrows.at hat) (hg.toGrows.folder hl) hdown
    hpass (short_dependencies hcomplete.ofRoot hfits.ofRoot)
    (Path.ofPath?_below.mpr ⟨hf, by decide⟩)
  obtain ⟨hg', hdeps, hdl⟩ := Disk.gains_ensureFolders he (hg.toGrows.at hat) hdown
  let u : World := { v with disk := e }
  have hrooms : ∀ d ∈ dependencies.map (·.2), Room u.disk
      (l ++ [Text.ofString Manifest.dependenciesFolder] ++ [d.folder]) := by
    intro d hd
    obtain ⟨hp, hr⟩ := hlists.of_mem hd
    refine (hroom.ofReached _ hp hr).of_same fun k => ?_
    dsimp only [u]
    rw [hg'.items, Disk.overlay_of_notMem (by simp [Disk.foldersBelow]), List.append_assoc,
      List.append_assoc]
    exact item?_dependencies hg
  obtain ⟨w', hlast⟩ := writeDependencies_returns (v := u) hv hdeps hdl
    (fun d hd => hlists.isName_folder hnamed hd)
    (fun d hd => hnamed.modules _ (hlists.of_mem hd).2)
    (fun d hd => hcomplete.ofReached _ (hlists.of_mem hd).1 (hlists.of_mem hd).2)
    (fun d hd => hfits.ofReached _ (hlists.of_mem hd).1 (hlists.of_mem hd).2)
    (hlists.nodup_folder hnamed) hrooms
  exact ⟨e, w', he, hlast⟩

/-- A run returns if all that is reached can be read and written, and if, once the folder of the
root package has been cleared and created, there is room for it. -/
theorem create_returns_of_room {u : World} {d : Disk} (hnode : w.node.Steady)
    (hnamed : Named c w root) (hcomplete : Complete c w root (target.below [root.name]))
    (hfits : Fits c w root (target.below [root.name]))
    (hclear : Returns (clear (target.below [root.name])) w () u)
    (hd : Returns (Disk.ensureFolders ((target.below [root.name]).below
      [Text.ofString sourcesFolder])) u.disk () d)
    (hroom : HasRoom c w root d (target.below [root.name]) l) :
    ∃ s w', Returns (create c root target) w s w' := by
  obtain ⟨hat, hl, -⟩ := hroom.way.of_below isName_sources.2
  have hu : w.node.Alike u.node := clear_node hclear ▸ hnode.alike
  obtain ⟨dependencies, u₁, hresolve⟩ := resolve_returns hu fun _ hp => hcomplete.record hp
  obtain ⟨hu₁, hdisk, hnodup, htarget, hreached⟩ := reached_of_resolve hu hresolve
  have hlists : Lists c w root dependencies := ⟨hnodup, htarget, hreached⟩
  -- Resolution changes neither the disk nor what the node answers.
  let v : World := { u₁ with events := u₁.events ++ [.collected dependencies.length] }
  have hd' : Returns (Disk.ensureFolders ((target.below [root.name]).below
      [Text.ofString sourcesFolder])) v.disk () d := by
    dsimp only [v]
    rw [hdisk]
    exact hd
  obtain ⟨y, u₂, hwrite⟩ := writePackage_returns (v := v) hu₁ (hnamed.modules root .refl)
    hcomplete.ofRoot hfits.ofRoot hd' hat hl hroom.way hroom.there hroom.ofRoot
  obtain ⟨d'', hd'', hfiles⟩ := writePackage_gains (v := v) hu₁ (hnamed.modules root .refl) hwrite
  obtain ⟨-, rfl⟩ := Returns.unique hd'' hd'
  obtain ⟨-, hu₂, hg⟩ := hfiles l hroom.way hat
  obtain ⟨e, w', he, hlast⟩ := dependencies_return hu₂ hnamed hcomplete hfits hlists hroom hg
  exact ⟨⟨_, dependencies⟩, w', (returns_create hnamed.rootName.1).mpr
    ⟨u, u₁, u₂, e, y, rfl, hclear, hresolve, hwrite, he, hlast⟩⟩

/-- A run returns if all that is reached can be read and written, and if the target admits the
folder of the root package. -/
theorem create_returns {q : Path} {names : List Text} (hnode : w.node.Steady)
    (hnamed : Named c w root) (hcomplete : Complete c w root (target.below [root.name]))
    (hfits : Fits c w root (target.below [root.name]))
    (hway : w.disk.Admits target root.name q l names) :
    ∃ s w', Returns (create c root target) w s w' := by
  have hup := isName_sources.2
  obtain ⟨u, d, hclear, hd⟩ := clear_returns hway hnamed.rootName.2 hup
    (short_sources hcomplete.ofRoot hfits.ofRoot) (ofPath?_sources hcomplete.ofRoot)
  obtain ⟨m, hrenewed⟩ := renewed_of_clear hnamed.rootName.2 hup hway.direct hclear hd
  exact create_returns_of_room hnode hnamed hcomplete hfits hclear hd hrenewed.hasRoom

namespace Sample

open MoveSkeleton.Sample Resolution.Sample

/-- The sample's root package. -/
def rootPackage : PackageId := ⟨"0xa", "P"⟩

/-- The sample's node beside another disk. -/
def worldOn (d : Disk) : World := { world with disk := d }

variable {d : Disk} {folder : Path} {p : PackageId}

theorem alike_worldOn : world.node.Alike (worldOn d).node := node_steady.alike

theorem answersAt_worldOn : answersAt client (worldOn d) = answersAt client world :=
  answersAt_of_alike alike_worldOn

theorem readInterface_worldOn {account module : Text} :
    (client.readInterface account module (worldOn d)).1 =
      (client.readInterface account module world).1 :=
  Client.readInterface_fst_of_alike alike_worldOn

theorem cases_of_reached (h : Reached (answersAt client (worldOn d)) rootPackage p) :
    p = rootPackage ∨ p = ⟨"0xb", "Q"⟩ ∨ p = ⟨"0xc", "R"⟩ := by
  rw [answersAt_worldOn] at h
  have hp := mem_of_reached h
  simp only [List.mem_cons, List.not_mem_nil, or_false] at hp
  exact hp

theorem named : Named client (worldOn d) rootPackage where
  rootName := by decide
  plain p hp h := by
    rcases cases_of_reached h with rfl | rfl | rfl
    · exact absurd rfl hp
    · exact ⟨"b", rfl, by decide⟩
    · exact ⟨"c", rfl, by decide⟩
  slashFree p _ h := by
    rcases cases_of_reached h with rfl | rfl | rfl <;> decide
  modules p h record hr := by
    rw [answersAt_worldOn] at hr
    unfold Text.SlashFree
    rcases cases_of_reached h with rfl | rfl | rfl
    · obtain rfl := Except.ok.inj (record_p.symm.trans hr)
      decide
    · obtain rfl := Except.ok.inj (record_q.symm.trans hr)
      decide
    · obtain rfl := Except.ok.inj (record_r.symm.trans hr)
      decide

theorem ok_of_isSome {ε α : Type} {r : Except ε α} (h : r.toOption.isSome = true) :
    ∃ a, r = .ok a := by
  cases r with
  | error e => cases h
  | ok a => exact ⟨a, rfl⟩

theorem error_of_isNone {ε α : Type} {r : Except ε α} (h : r.toOption.isNone = true) :
    ∃ e, r = .error e := by
  cases r with
  | error e => exact ⟨e, rfl⟩
  | ok x => cases h

private theorem encodes_of_any {r : Except Failure Interface}
    (h : (r.toOption.any fun i => i.source.toUtf8.toOption.isSome) = true) :
    ∃ i, r = .ok i ∧ ∃ content, i.source.toUtf8 = .ok content := by
  cases r with
  | error e => cases h
  | ok i => exact ⟨i, rfl, ok_of_isSome h⟩

private theorem moduleComplete {account module : Text} (hf : DiskFault.ofPath? folder = none)
    (hm : Path.IsPart (sourceFile module)) (hs : ∀ x ∈ (sourceFile module).points, Path.Storable x)
    (h : ((client.readInterface account module world).1.toOption.any fun i =>
      i.source.toUtf8.toOption.isSome) = true) :
    ModuleComplete client (worldOn d) account (folder.join sourcesFolder) module := by
  obtain ⟨i, hi, hcontent⟩ := encodes_of_any h
  refine ⟨i, readInterface_worldOn.trans hi, ?_, hcontent⟩
  rw [join_sources, Path.join_of_isPart hm, Path.below_below]
  exact Path.ofPath?_below.mpr ⟨hf, List.forall_mem_cons.mpr ⟨by decide,
    List.forall_mem_singleton.mpr hs⟩⟩

private theorem writable_manifest {t : Text} (hf : DiskFault.ofPath? folder = none)
    (ht : t.toUtf8.toOption.isSome = true) : Writable (folder.join Manifest.fileName) t := by
  refine ⟨?_, ok_of_isSome ht⟩
  rw [join_manifest]
  exact Path.ofPath?_below.mpr ⟨hf, by decide⟩

/-- The sample is complete wherever a disk can hold the folder of its root package. -/
theorem complete (hf : DiskFault.ofPath? folder = none) :
    Complete client (worldOn d) rootPackage folder := by
  have hdeps : ∀ t, (∀ x ∈ t.points, Path.Storable x) → DiskFault.ofPath? ((folder.below
      [Text.ofString Manifest.dependenciesFolder]).below [t]) = none := fun t ht =>
    Path.ofPath?_below.mpr ⟨Path.ofPath?_below.mpr ⟨hf, by decide⟩,
      List.forall_mem_singleton.mpr ht⟩
  constructor
  · refine ⟨_, answersAt_worldOn ▸ record_p, ?_, writable_manifest hf (by decide +kernel)⟩
    exact List.forall_mem_singleton.mpr (moduleComplete hf (by decide) (by decide)
      (by decide +kernel))
  · intro p hp h
    rcases cases_of_reached h with rfl | rfl | rfl
    · exact absurd rfl hp
    · have hf' := hdeps (folderName "Q" "0xb") (by decide)
      refine ⟨_, answersAt_worldOn ▸ record_q, ?_, writable_manifest hf' (by decide +kernel)⟩
      exact List.forall_mem_singleton.mpr (moduleComplete hf' (by decide) (by decide)
        (by decide +kernel))
    · have hf' := hdeps (folderName "R" "0xc") (by decide)
      exact ⟨_, answersAt_worldOn ▸ record_r, by simp, writable_manifest hf' (by decide +kernel)⟩

private theorem map_packageFiles {isRoot : Bool} {record : Package}
    (hrec : recordOf (answersAt client world) p = .ok record) :
    (packageFiles client (worldOn d) isRoot p).map Prod.fst =
      record.modules.map (fun m => [Text.ofString sourcesFolder, sourceFile m]) ++
        [[Text.ofString Manifest.fileName]] := by
  rw [packageFiles, answersAt_worldOn, hrec]
  simp [textItem, Function.comp_def]

/-- The paths of the sample's files, from the folder of the root package on. -/
def files : List Location :=
  [["sources", "p.move"], ["Move.toml"], ["deps", "Q_b", "sources", "q.move"],
    ["deps", "Q_b", "Move.toml"], ["deps", "R_c", "Move.toml"]]

private theorem forall_mem_packageFiles {isRoot : Bool} {record : Package} {P : Location → Prop}
    (hrec : recordOf (answersAt client world) p = .ok record)
    (h : ∀ k ∈ record.modules.map (fun m => [Text.ofString sourcesFolder, sourceFile m]) ++
      [[Text.ofString Manifest.fileName]], P k) :
    ∀ e ∈ packageFiles client (worldOn d) isRoot p, P e.1 := by
  rw [← map_packageFiles (d := d)  hrec, List.forall_mem_map] at h
  exact h

theorem fits (h : ∀ k ∈ files, (folder.below k).Short) :
    Fits client (worldOn d) rootPackage folder := by
  constructor
  · refine forall_mem_packageFiles (P := fun k => (folder.below k).Short) record_p
      fun k hk => h k ?_
    revert k
    decide
  · intro p hp hr
    unfold dependencyFolder
    simp only [Path.below_below]
    rcases cases_of_reached hr with rfl | rfl | rfl
    · exact absurd rfl hp
    · refine forall_mem_packageFiles (P := fun k => (folder.below (_ ++ k)).Short) record_q
        fun k hk => h _ ?_
      revert k
      decide
    · refine forall_mem_packageFiles (P := fun k => (folder.below (_ ++ k)).Short) record_r
        fun k hk => h _ ?_
      revert k
      decide

/-- A folder of that name can be created in the working folder, and the root package's in it. -/
theorem admits_out : (Disk.blank ["w"]).Admits (Path.ofText "out") rootPackage.name
    ⟨.here, []⟩ ["w"] ["out"] where
  split := rfl
  way := rfl
  folder := rfl
  down := by decide
  free := by
    intro k hk content hc
    simp only [rootPackage, List.singleton_append, List.prefix_cons_iff, List.prefix_nil] at hk
    rcases hk with rfl | ⟨_, rfl, rfl | ⟨_, rfl, rfl⟩⟩ <;> cases hc
  apart before u hb hu := by
    obtain rfl := List.prefix_nil.mp hb
    rw [Disk.reaches_nil.mp hu]
    decide

theorem reached_q : Reached (answersAt client (worldOn d)) rootPackage ⟨"0xb", "Q"⟩ := by
  rw [answersAt_worldOn]
  refine .single ⟨by decide, ⟨"0xb", "Q"⟩, ?_, rfl⟩
  rw [rootPackage, edges_of_record record_p]
  exact List.mem_cons_self

/-- A disk with a source in the folder of a dependency that is none of that dependency's. -/
def stale : Disk :=
  { root := Tree.empty.put ["w", "P", "deps", "Q_b", "sources", "old.move"] (.file .empty)
    here := ["w"] }

/-- A way to the working folder that leads up behind a folder in the root package's own. -/
def roundabout : Path := Path.ofText "P/x/../.."

/-- The first of these disks, once the folder of the root package has been created. -/
private def refreshed : Disk :=
  ((Disk.ensureFolders ((roundabout.below ["P"]).below ["sources"])).run.run stale).2

private theorem refreshed_ne {k : Location} {x y : Option (Option ByteArray)}
    (h : refreshed.item? k = x) (hne : x ≠ y) : refreshed.item? k ≠ y :=
  h ▸ hne

private theorem room_root : Room refreshed ["w", "P"] where
  folder _ := refreshed_ne (x := some none) rfl (by simp)
  sources _ := refreshed_ne (x := some none) rfl (by simp)
  modules _ := refreshed_ne (x := none) rfl (by simp)
  manifest := refreshed_ne (x := none) rfl (by simp)

private theorem room_q : Room refreshed ["w", "P", "deps", "Q_b"] where
  folder _ := refreshed_ne (x := some none) rfl (by simp)
  sources _ := refreshed_ne (x := some none) rfl (by simp)
  modules name := by
    have hsources : refreshed.item? ["w", "P", "deps", "Q_b", "sources", name] =
        (Tree.folder [("old.move", .file .empty)]).item? [name] := rfl
    refine refreshed_ne hsources ?_
    rw [Tree.item?_folder_cons]
    cases h : name == Text.ofString "old.move" <;>
      simp [Entries.get?, List.lookup_cons, h, Tree.content?]
  manifest := refreshed_ne (x := none) rfl (by simp)

private theorem room_r : Room refreshed ["w", "P", "deps", "R_c"] :=
  room_of_absent fun _ => rfl

/-- As the way to it does not lead anywhere at first, the folder of the root package is not
cleared, and what has stood there stays. -/
theorem stale_stays : ∃ s w', Returns (create client rootPackage roundabout) (worldOn stale) s w' ∧
    s.folder = roundabout.below ["P"] ∧ w'.disk.At s.folder ["w", "P"] ∧
      Lists client (worldOn stale) rootPackage s.dependencies ∧
        (w'.disk.item? ["w", "P", "deps", "Q_b", "sources", "old.move"]).isSome := by
  have hclear : Returns (clear (roundabout.below ["P"])) (worldOn stale) () (worldOn stale) := rfl
  have hd : Returns (Disk.ensureFolders ((roundabout.below ["P"]).below ["sources"]))
      stale () refreshed := rfl
  have hway : refreshed.At ((roundabout.below ["P"]).below ["sources"]) ["w", "P", "sources"] := rfl
  have hcomplete : Complete client (worldOn stale) rootPackage (roundabout.below ["P"]) :=
    complete (by decide)
  have hfits : Fits client (worldOn stale) rootPackage (roundabout.below ["P"]) :=
    fits (by decide)
  have hroom : HasRoom client (worldOn stale) rootPackage refreshed (roundabout.below ["P"])
      ["w", "P"] := by
    refine ⟨hway, rfl, room_root, fun _ => refreshed_ne (x := some none) rfl (by simp), ?_⟩
    intro p hp hr
    rcases cases_of_reached hr with rfl | rfl | rfl
    exacts [absurd rfl hp, room_q, room_r]
  obtain ⟨s, w', h⟩ := create_returns_of_room node_steady named hcomplete hfits hclear hd hroom
  obtain ⟨hs, hlists, u, d, hclear', hd', hrun⟩ := gains_of_create node_steady named h
  rw [hs] at hclear' hd' hrun
  obtain ⟨-, rfl⟩ := Returns.unique hclear' hclear
  obtain ⟨-, rfl⟩ := Returns.unique hd' hd
  obtain ⟨-, -, hg⟩ := hrun ["w", "P"] hway
  refine ⟨s, w', h, hs, ?_, hlists, hg.toGrows.isSome (by rfl)⟩
  rw [hs]
  exact hg.toGrows.at rfl

/-- Where that source stands in the folder of the dependency. -/
def oldSource : Location := ["sources", "old.move"]

theorem oldSource_not_mem {isRoot : Bool} {e : Option ByteArray} :
    (oldSource, e) ∉ packageItems client (worldOn d) isRoot ⟨"0xb", "Q"⟩ := by
  intro h
  have hk : oldSource ∈ (packageItems client (worldOn d) isRoot ⟨"0xb", "Q"⟩).map Prod.fst :=
    List.mem_map_of_mem h
  rw [packageItems, List.map_cons, List.map_cons, map_packageFiles record_q] at hk
  revert hk
  decide

end Sample

end MoveSkeleton.Skeleton
