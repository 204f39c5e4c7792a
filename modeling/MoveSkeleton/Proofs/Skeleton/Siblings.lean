import MoveSkeleton.Proofs.Skeleton.Progress

/-! The paths in manifests: each leads to the folder of just the dependency that it is written
for. -/
namespace MoveSkeleton

namespace Disk

variable {d : Disk} {p : Path} {l : Location} {t u : Text}

/-- Up from one folder and down to another beside it. -/
theorem At.sibling (h : d.At (p.below [t]) (l ++ [t])) (ht : d.item? (l ++ [t]) = some none)
    (hu : u ≠ "..") (hs : Path.size u ≤ maxName) (hsome : (d.item? (l ++ [u])).isSome) :
    d.At ((p.below [t]).below ["..", u]) (l ++ [u]) := by
  have hparts : [Text.ofString "..", u] = [Text.ofString ".."] ++ [u] := rfl
  refine reaches_append.mpr ⟨_, h, ?_⟩
  have hup : d.enter ⟨l ++ [t], 0⟩ ".." = .ok ⟨l, 0⟩ :=
    enter_eq_ok_iff.mpr ⟨fun _ => ht, .inl ⟨rfl, by simp⟩⟩
  have hl : d.item? l = some none := item?_eq_folder_of_isSome (k := [t]) (by simp) (by
    rw [ht]
    rfl)
  have hdown : d.enter ⟨l, 0⟩ u = .ok ⟨l ++ [u], 0⟩ :=
    enter_eq_ok_iff.mpr ⟨fun _ => hl, .inr ⟨hu, rfl, hs, hsome, rfl⟩⟩
  rw [hparts]
  exact reaches_append.mpr ⟨_, reaches_singleton.mpr hup, reaches_singleton.mpr hdown⟩

end Disk

namespace Skeleton

open Resolution Activity

variable {c : Client} {w w' : World} {root p : PackageId} {target : Path} {s : Skeleton}
  {l : Location} {d : Dependency}

/-- The folder that a package is written to. -/
def folderOf (s : Skeleton) (root p : PackageId) : Path :=
  if p = root then s.folder else dependencyFolder s.folder p

/-- The path leads to where nothing stood at first, and where now the package stands and nothing
else does. -/
def Houses (c : Client) (w u w' : World) (folder : Path) (p : PackageId) : Prop :=
  ∃ k, w'.disk.At folder k ∧ (∀ m, u.disk.item? (k ++ m) = none) ∧
    ∀ m e, w'.disk.item? (k ++ m) = some e ↔ (m, e) ∈ packageItems c w false p

/-- In its folder the package has its manifest, and each path there by which the manifest names a
package leads to that package's folder. -/
def NamesSiblings (c : Client) (w u w' : World) (s : Skeleton) (root p : PackageId) : Prop :=
  ∃ record home, recordOf (answersAt c w) p = .ok record ∧ w'.disk.At (folderOf s root p) home ∧
    w'.disk.item? (home ++ [Text.ofString Manifest.fileName]) =
      some (some (Manifest.text (decide (p = root)) p.name record).shown.toUTF8) ∧
    ∀ d ∈ record.dependencies, isFramework d.account = false → d.target ≠ root →
      Manifest.dependencyLine (decide (p = root)) d = d.name ++ " = \x7b local = \"" ++
        Manifest.localPath (decide (p = root)) d ++ "\" \x7d" ∧
      Houses c w u w' ((folderOf s root p).join (Manifest.localPath (decide (p = root)) d)) d.target

theorem manifest_mem {isRoot : Bool} {record : Package}
    (hrec : recordOf (answersAt c w) p = .ok record) :
    textItem [Text.ofString Manifest.fileName] (Manifest.text isRoot p.name record) ∈
      packageItems c w isRoot p := by
  simp [packageItems, packageFiles, hrec]

private theorem item?_home {d : Disk} {k : Location} {isRoot : Bool}
    (h : ∀ m e, d.item? (k ++ m) = some e ↔ (m, e) ∈ packageItems c w isRoot p) :
    d.item? k = some none := by
  have hfolder := (h [] none).mpr List.mem_cons_self
  rwa [List.append_nil] at hfolder

/-- A dependency stands in its folder, and nothing else does. -/
theorem Stands.dependency (h : Stands c w root s w' l) (hnamed : Named c w root)
    (hlists : Lists c w root s.dependencies) (hd : d ∈ s.dependencies.map (·.2)) :
    w'.disk.At (dependencyFolder s.folder d.target)
        (l ++ [Text.ofString Manifest.dependenciesFolder] ++ [d.folder]) ∧
      ∀ k e, w'.disk.item?
          (l ++ [Text.ofString Manifest.dependenciesFolder] ++ [d.folder] ++ k) = some e ↔
        (k, e) ∈ packageItems c w false d.target := by
  have htree : ∀ k e, w'.disk.item?
      (l ++ [Text.ofString Manifest.dependenciesFolder] ++ [d.folder] ++ k) = some e ↔
        (k, e) ∈ packageItems c w false d.target := by
    intro k e
    rw [List.append_assoc, List.append_assoc, h.tree]
    exact mem_layout_dependency (hlists.folder_inj hnamed) hd
  have hshort : Path.size d.folder ≤ Disk.maxName := by
    obtain ⟨e, he, rfl⟩ := List.mem_map.mp hd
    exact h.short e he
  have hsome : (w'.disk.item?
      (l ++ [Text.ofString Manifest.dependenciesFolder, d.folder])).isSome := by
    have hfolder := item?_home htree
    rw [List.append_assoc] at hfolder
    exact Option.isSome_of_eq_some hfolder
  refine ⟨?_, htree⟩
  rw [dependencyFolder, Path.below_below, List.append_assoc]
  refine Disk.reaches_append.mpr ⟨_, h.way, Disk.reaches_down ?_ ?_ fun _ => hsome⟩
  · exact List.forall_mem_cons.mpr ⟨isName_dependencies.2,
      Disk.descends_singleton.mpr (hlists.isName_folder hnamed hd).2⟩
  · exact List.forall_mem_cons.mpr ⟨by decide, List.forall_mem_singleton.mpr hshort⟩

variable {u : World} {d' : Dependency}

/-- From the folder of the root package the path goes down. -/
theorem Stands.houses_from_root (h : Stands c w root s w' l) (hnamed : Named c w root)
    (hlists : Lists c w root s.dependencies) (hgone : ∀ k, u.disk.item? (l ++ k) = none)
    (hd : d ∈ s.dependencies.map (·.2)) :
    Houses c w u w' (s.folder.join (Manifest.localPath true d)) d.target := by
  obtain ⟨hat, htree⟩ := h.dependency hnamed hlists hd
  refine ⟨_, ?_, fun m => ?_, htree⟩
  · rw [Manifest.join_localPath _ _ (hlists.isName_folder hnamed hd).1]
    rw [dependencyFolder, Path.below_below] at hat
    exact hat
  · rw [List.append_assoc, List.append_assoc]
    exact hgone _

/-- From the folder of a dependency the path goes up, and down again to one beside it. -/
theorem Stands.houses_from_sibling (h : Stands c w root s w' l) (hnamed : Named c w root)
    (hlists : Lists c w root s.dependencies) (hgone : ∀ k, u.disk.item? (l ++ k) = none)
    (hd : d ∈ s.dependencies.map (·.2)) (hd' : d' ∈ s.dependencies.map (·.2)) :
    Houses c w u w' ((dependencyFolder s.folder d'.target).join (Manifest.localPath false d))
      d.target := by
  obtain ⟨hat, htree⟩ := h.dependency hnamed hlists hd
  obtain ⟨hat', htree'⟩ := h.dependency hnamed hlists hd'
  refine ⟨_, ?_, fun m => ?_, htree⟩
  · rw [Manifest.join_localPath _ _ (hlists.isName_folder hnamed hd).1]
    refine Disk.At.sibling hat' (item?_home htree') (hlists.isName_folder hnamed hd).2 ?_
      (Option.isSome_of_eq_some (item?_home htree))
    obtain ⟨e, he, rfl⟩ := List.mem_map.mp hd
    exact h.short e he
  · rw [List.append_assoc, List.append_assoc]
    exact hgone _

/-- Every path that a manifest names a package by leads, from the folder of the manifest on, to a
folder that was created in the run, and what stands there is that package and nothing else. -/
theorem manifests_name_siblings (hnode : w.node.Steady) (hnamed : Named c w root)
    (hdirect : w.disk.Direct target) (h : Returns (create c root target) w s w') :
    ∃ u, Returns (clear s.folder) w () u ∧ ∀ p, p = root ∨ p ∈ Entries.keys s.dependencies →
      NamesSiblings c w u w' s root p := by
  obtain ⟨hs, hlists, hcomplete, l, hstands⟩ := stands_of_create hnode hnamed hdirect h
  obtain ⟨u, hclear, hgone⟩ := hstands.cleared
  refine ⟨u, hclear, fun p hp => ?_⟩
  have hreached : Reached (answersAt c w) root p := by
    rcases hp with rfl | hp
    · exact .refl
    · exact ((hlists.reached p).mp hp).2
  obtain ⟨record, hrec⟩ := hcomplete.record hreached
  have hlisted : ∀ d ∈ record.dependencies, isFramework d.account = false → d.target ≠ root →
      d ∈ s.dependencies.map (·.2) := by
    intro d hd hf hne
    have hleads : Leads (answersAt c w) p d.target := ⟨hf, d, edges_of_record hrec ▸ hd, rfl⟩
    obtain ⟨d', hd', htarget⟩ := hlists.mem hne (hreached.tail hleads)
    exact target_inj htarget ▸ hd'
  by_cases hroot : p = root
  · subst hroot
    refine ⟨record, l, hrec, ?_, ?_, fun d hd hf hne =>
      ⟨Manifest.dependencyLine_of_not_framework _ hf, ?_⟩⟩
    · rw [folderOf, if_pos rfl]
      exact hstands.way
    · rw [decide_eq_true rfl]
      exact (hstands.tree _ _).mpr (List.mem_append_left _ (manifest_mem hrec))
    · rw [folderOf, if_pos rfl, decide_eq_true rfl]
      exact hstands.houses_from_root hnamed hlists hgone (hlisted d hd hf hne)
  · obtain ⟨d', hd', rfl⟩ := hlists.mem hroot hreached
    obtain ⟨hat, htree⟩ := hstands.dependency hnamed hlists hd'
    refine ⟨record, l ++ [Text.ofString Manifest.dependenciesFolder] ++ [d'.folder], hrec, ?_, ?_,
      fun d hd hf hne => ⟨Manifest.dependencyLine_of_not_framework _ hf, ?_⟩⟩
    · rw [folderOf, if_neg hroot]
      exact hat
    · rw [decide_eq_false hroot]
      exact (htree _ _).mpr (manifest_mem hrec)
    · rw [folderOf, if_neg hroot, decide_eq_false hroot]
      exact hstands.houses_from_sibling hnamed hlists hgone (hlisted d hd hf hne) hd'

/-- In a folder that was not there before. -/
theorem manifests_name_siblings_out :
    let c := MoveSkeleton.Sample.client
    let w := Sample.worldOn (Disk.blank ["w"])
    let root := Sample.rootPackage
    let target := Path.ofText "out"
    w.node.Steady ∧ Named c w root ∧ w.disk.Direct target ∧
      ∃ s w', Returns (create c root target) w s w' ∧ ∃ u, Returns (clear s.folder) w () u ∧
        ∀ p, p = root ∨ p ∈ Entries.keys s.dependencies → NamesSiblings c w u w' s root p := by
  intro c w root target
  have hnode : w.node.Steady := MoveSkeleton.Sample.node_steady
  have hdirect : w.disk.Direct target := Sample.admits_out.direct
  obtain ⟨s, w', h⟩ := create_returns hnode Sample.named (Sample.complete (by decide))
    (Sample.fits (by decide)) Sample.admits_out
  exact ⟨hnode, Sample.named, hdirect, s, w', h,
    manifests_name_siblings hnode Sample.named hdirect h⟩

/-- Where the way to the folder of the root package leads up behind what is not there, the folder
of a dependency may have stood before, with what was in it. -/
theorem names_folder_with_old_source :
    let c := MoveSkeleton.Sample.client
    let w := Sample.worldOn Sample.stale
    let root := Sample.rootPackage
    let target := Sample.roundabout
    let d : Dependency := ⟨"0xb", "Q"⟩
    w.node.Steady ∧ Named c w root ∧
      (∃ record, recordOf (answersAt c w) root = .ok record ∧ d ∈ record.dependencies) ∧
        isFramework d.account = false ∧ d.target ≠ root ∧
          ∃ s u w', Returns (create c root target) w s w' ∧ Returns (clear s.folder) w () u ∧
            ¬ Houses c w u w' (s.folder.join (Manifest.localPath true d)) d.target := by
  intro c w root target d
  obtain ⟨s, w', h, hs, hat, -, hold⟩ := Sample.stale_stays
  have hrecord : ∃ record, recordOf (answersAt c w) root = .ok record ∧
      d ∈ record.dependencies := by
    have hanswers : answersAt c w = answersAt c MoveSkeleton.Sample.world :=
      Sample.answersAt_worldOn
    rw [hanswers]
    exact ⟨_, Resolution.Sample.record_p, List.mem_cons_self⟩
  have hclear : Returns (clear s.folder) w () w := by
    rw [hs]
    rfl
  refine ⟨MoveSkeleton.Sample.node_steady, Sample.named, hrecord, by decide, by decide, s, w, w', h,
    hclear, ?_⟩
  rintro ⟨k, hk, -, htree⟩
  rw [Manifest.join_localPath true s.folder (by decide)] at hk
  obtain ⟨v, hv, hdown⟩ := Disk.reaches_append.mp hk
  obtain rfl := hv.unique hat
  obtain rfl : k = ["w", "P"] ++ ["deps", "Q_b"] :=
    congrArg Spot.location (hdown.down (by decide) (by simp)).1
  obtain ⟨e, he⟩ := Option.isSome_iff_exists.mp hold
  exact Sample.oldSource_not_mem ((htree Sample.oldSource e).mp he)

end Skeleton

end MoveSkeleton
