import MoveSkeleton.Proofs.Skeleton.Writing

/-! Dependencies written one after the other, each to its folder. -/
namespace MoveSkeleton.Skeleton

open Resolution

variable {c : Client} {w v v' : World} {folder : Path} {l : Location} {p : PackageId}
  {ds : List Dependency} {isRoot : Bool} {x : Unit}

/-- A package whose files have paths that are short enough has one for its sources. -/
theorem short_sources (hcomplete : PackageComplete c w isRoot p folder)
    (hshort : ∀ e ∈ packageFiles c w isRoot p, (folder.below e.1).Short) :
    (folder.below [Text.ofString sourcesFolder]).Short :=
  (short_manifest hcomplete hshort).sibling (by decide)

theorem ofPath?_sources (hcomplete : PackageComplete c w isRoot p folder) :
    DiskFault.ofPath? (folder.below [Text.ofString sourcesFolder]) = none := by
  obtain ⟨record, -, -, hmanifest, -⟩ := hcomplete
  rw [join_manifest, Path.ofPath?_below] at hmanifest
  exact Path.ofPath?_below.mpr ⟨hmanifest.1, by decide⟩

/-- The folders of a package and of its sources, created in a folder that is there. -/
theorem gains_packageFolders {d d' : Disk} {f : Text} (hf : f ≠ "..")
    (h : Returns (Disk.ensureFolders ((folder.below [f]).below [Text.ofString sourcesFolder]))
      d x d') (hat : d.At folder l) :
    Disk.Gains d (under (l ++ [f]) [([], none), ([Text.ofString sourcesFolder], none)]) d' ∧
      d'.At ((folder.below [f]).below [Text.ofString sourcesFolder])
        (l ++ [f] ++ [Text.ofString sourcesFolder]) ∧
      d'.item? (l ++ [f] ++ [Text.ofString sourcesFolder]) = some none ∧
      d'.At (folder.below [f]) (l ++ [f]) ∧ d'.item? (l ++ [f]) = some none := by
  have hdown : Disk.Descends [f, Text.ofString sourcesFolder] :=
    List.forall_mem_cons.mpr ⟨hf, Disk.descends_singleton.mpr isName_sources.2⟩
  have hpath : (folder.below [f]).below [Text.ofString sourcesFolder] =
      folder.below [f, Text.ofString sourcesFolder] := Path.below_below
  have hl : l ++ [f] ++ [Text.ofString sourcesFolder] = l ++ [f, Text.ofString sourcesFolder] :=
    List.append_assoc ..
  obtain ⟨hg, hsources, hs⟩ := Disk.gains_ensureFolders (hpath ▸ h) hat hdown
  rw [← hpath, ← hl] at hsources
  have hfolders : Disk.foldersBelow l [f, Text.ofString sourcesFolder] =
      under (l ++ [f]) [([], none), ([Text.ofString sourcesFolder], none)] := by
    simp [Disk.foldersBelow, under]
  obtain ⟨hfolder, hf', -⟩ := hsources.of_below isName_sources.2
  exact ⟨hfolders ▸ hg, hsources, hl ▸ hs, hfolder, hf'⟩

theorem under_packageItems : under l (packageItems c w isRoot p) =
    under l [([], none), ([Text.ofString sourcesFolder], none)] ++
      under l (packageFiles c w isRoot p) := by
  simp [packageItems, under]

/-- The dependencies that are written are complete, and what stands in their folders is all that
comes in addition. -/
theorem writeDependencies_gains (hv : w.node.Alike v.node) (hat : v.disk.At folder l)
    (hnames : ∀ d ∈ ds, Path.IsName d.folder)
    (hms : ∀ d ∈ ds, ∀ record, recordOf (answersAt c w) d.target = .ok record →
      ∀ m ∈ record.modules, m.SlashFree)
    (h : Returns (writeDependencies c folder ds) v x v') :
    (∀ d ∈ ds, PackageComplete c w false d.target (folder.below [d.folder]) ∧
      Path.size d.folder ≤ Disk.maxName) ∧ w.node.Alike v'.node ∧ Disk.Gains v.disk
        (ds.flatMap fun d => under (l ++ [d.folder]) (packageItems c w false d.target))
        v'.disk := by
  induction ds generalizing v with
  | nil =>
    obtain ⟨-, rfl⟩ := returns_pure.mp h
    exact ⟨by simp, hv, .refl _⟩
  | cons d ds ih =>
    rw [List.forall_mem_cons] at hnames hms
    obtain ⟨y, u, hwrite, hrest⟩ := returns_bind.mp h
    rw [Path.join_of_isPart hnames.1.1] at hwrite
    obtain ⟨e, he, hfiles⟩ := writePackage_gains hv hms.1 hwrite
    obtain ⟨hg, hsources, -, hfolder, -⟩ := gains_packageFolders hnames.1.2 he hat
    obtain ⟨hcomplete, hu, hg'⟩ := hfiles _ hsources hfolder
    have hg := hg.trans hg'
    rw [← under_packageItems] at hg
    obtain ⟨hcompletes, hv', hgs⟩ := ih hu (hg.toGrows.at hat) hnames.2 hms.2 hrest
    have hsize := (hfolder.of_below hnames.1.2).2.2
    exact ⟨List.forall_mem_cons.mpr ⟨⟨hcomplete, hsize⟩, hcompletes⟩, hv', hg.trans hgs⟩

private theorem prefix_of_mem_under {a : DiskItem} {es : List DiskItem} (ha : a ∈ under l es) :
    l <+: a.1 := by
  obtain ⟨e, -, rfl⟩ := List.mem_map.mp ha
  exact List.prefix_append ..

/-- Complete dependencies can be written, each to a folder of its own with room for it. -/
theorem writeDependencies_returns (hv : w.node.Alike v.node) (hat : v.disk.At folder l)
    (hl : v.disk.item? l = some none) (hnames : ∀ d ∈ ds, Path.IsName d.folder)
    (hms : ∀ d ∈ ds, ∀ record, recordOf (answersAt c w) d.target = .ok record →
      ∀ m ∈ record.modules, m.SlashFree)
    (hcomplete : ∀ d ∈ ds, PackageComplete c w false d.target (folder.below [d.folder]))
    (hshort : ∀ d ∈ ds, ∀ e ∈ packageFiles c w false d.target,
      ((folder.below [d.folder]).below e.1).Short)
    (hnodup : (ds.map Dependency.folder).Nodup)
    (hroom : ∀ d ∈ ds, Room v.disk (l ++ [d.folder])) :
    ∃ v', Returns (writeDependencies c folder ds) v () v' := by
  induction ds generalizing v with
  | nil => exact ⟨v, returns_pure.mpr ⟨rfl, rfl⟩⟩
  | cons d ds ih =>
    rw [List.forall_mem_cons] at hnames hms hcomplete hshort hroom
    rw [List.map_cons, List.nodup_cons] at hnodup
    have hdown : Disk.Descends [d.folder, Text.ofString sourcesFolder] :=
      List.forall_mem_cons.mpr ⟨hnames.1.2, Disk.descends_singleton.mpr isName_sources.2⟩
    have hs := short_sources hcomplete.1 hshort.1
    have hf := ofPath?_sources hcomplete.1
    rw [Path.below_below] at hs hf
    obtain ⟨e, he⟩ := Disk.returns_ensureFolders hat hl hdown (hroom.1.passable hl) hs hf
    rw [← List.singleton_append, ← Path.below_below] at he
    obtain ⟨hg, hsources, hsrc, hfolder, hfl⟩ := gains_packageFolders hnames.1.2 he hat
    have hroom' : Room e (l ++ [d.folder]) := by
      refine hroom.1.of_folders hfl hsrc fun k hk hks => ?_
      rw [hg.items, Disk.overlay_of_notMem]
      simp [under, hk, hks]
    obtain ⟨y, u, hwrite⟩ := writePackage_returns hv hms.1 hcomplete.1 hshort.1 he hfolder hfl
      hsources hsrc hroom'
    obtain ⟨e', he', hfiles⟩ := writePackage_gains hv hms.1 hwrite
    obtain ⟨-, rfl⟩ := Returns.unique he' he
    obtain ⟨-, hu, hg'⟩ := hfiles _ hsources hfolder
    have hall := hg.trans hg'
    -- The files of one dependency lie in its own folder, so that those of the others keep theirs.
    have hrooms : ∀ d' ∈ ds, Room u.disk (l ++ [d'.folder]) := by
      intro d' hd'
      refine (hroom.2 d' hd').of_same fun k => ?_
      rw [hall.items, Disk.overlay_of_notMem]
      intro hm
      rw [List.map_append, List.mem_append] at hm
      have hpre : l ++ [d.folder] <+: l ++ [d'.folder] ++ k := by
        rcases hm with hm | hm <;> obtain ⟨a, ha, hak⟩ := List.mem_map.mp hm <;>
          exact hak ▸ prefix_of_mem_under ha
      rw [List.append_assoc, List.prefix_append_right_inj, List.singleton_append,
        List.cons_prefix_cons] at hpre
      exact hnodup.1 (hpre.1 ▸ List.mem_map_of_mem hd')
    obtain ⟨v', hrest⟩ := ih hu (hall.toGrows.at hat) (hall.toGrows.folder hl) hnames.2 hms.2
      hcomplete.2 hshort.2 hnodup.2 hrooms
    refine ⟨v', returns_bind.mpr ⟨y, u, ?_, hrest⟩⟩
    rw [Path.join_of_isPart hnames.1.1]
    exact hwrite

end MoveSkeleton.Skeleton
