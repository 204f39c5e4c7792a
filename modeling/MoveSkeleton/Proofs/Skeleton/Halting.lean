import MoveSkeleton.Proofs.Skeleton.Draft
import MoveSkeleton.Proofs.Skeleton.Neighbours

/-! What a run leaves that fails: the packages before the one that failed stand whole, of that one
there is a part, and of those after it nothing. -/
namespace MoveSkeleton

namespace Disk

variable {d d' e : Disk} {l : Location} {q : Path} {name sub : Text} {es : List DiskItem}

/-- Nothing stands at the place of the folder, and creating it with the folder of the name in it
adds nothing else there. -/
structure Vacant (d : Disk) (folder : Path) (name : Text) : Prop where
  gone : d.Holds (d.place folder) []
  founds : ∀ d', d.Creates (folder.below [name]) d' → d.Founds (d.place folder) name d'

/-- Created in a folder that is there, folders lie at the first of them and at the second. -/
theorem Creates.founds_below (h : Creates d ((q.below [name]).below [sub]) d') (hq : d.At q l)
    (hn : name ≠ "..") (hsub : sub ≠ "..") : Founds d (l ++ [name]) sub d' := by
  have hdown : Descends [name, sub] := List.forall_mem_cons.mpr ⟨hn, descends_singleton.mpr hsub⟩
  rw [Path.below_below] at h
  obtain ⟨es, hg, hes⟩ := Creates.new_below h hq hdown
  refine ⟨es, hg, fun a ha => ⟨(hes a ha).1, fun _ => ?_⟩⟩
  obtain ⟨-, k, hk, hp, heq⟩ := hes a ha
  rcases List.prefix_cons_iff.mp hp with rfl | ⟨k', rfl, hp'⟩
  · exact absurd rfl hk
  · rcases List.prefix_cons_iff.mp hp' with rfl | ⟨k'', rfl, hp''⟩
    · exact .inl heq
    · rw [List.prefix_nil.mp hp''] at heq
      exact .inr (by simpa using heq)

/-- A folder that a folder does not hold. -/
theorem Vacant.of_at (hq : d.At q l) (hn : name ≠ "..") (hsub : sub ≠ "..")
    (hgone : d.Holds (l ++ [name]) []) : Vacant d (q.below [name]) sub := by
  have hplace : d.place (q.below [name]) = l ++ [name] := by
    rw [place_below_name hn, ← hq.location]
  exact ⟨hplace ▸ hgone, fun d' h => hplace ▸ h.founds_below hq hn hsub⟩

end Disk

namespace Skeleton

open Resolution Activity

/-- What the writing of dependencies leaves that fails, in the folder of the dependencies: those before
the one that fails stand whole, of that one there is a part, and of the others nothing. -/
inductive Halted (c : Client) (q : Path) (l : Location) (e : Failure) (w' : World) :
    List Dependency → World → Prop where
  | here {p rest v es}
    (fails : Fails (writePackage c p.target (q.below [p.folder]) false) v e w')
    (part : Part c false p.target v.node es) (holds : w'.disk.Holds (l ++ [p.folder]) es)
    (vacant : ∀ g ∈ rest, w'.disk.Holds (l ++ [g.folder]) []) : Halted c q l e w' (p :: rest) v
  | next {p rest v y u es}
    (returns : Returns (writePackage c p.target (q.below [p.folder]) false) v y u)
    (whole : Whole c false p.target v.node es u.node)
    (holds : w'.disk.Holds (l ++ [p.folder]) es) (halted : Halted c q l e w' rest u) :
    Halted c q l e w' (p :: rest) v

/-- What the writing of a root package and its dependencies leaves that fails. If the root package
fails, there is a part of it and nothing of the dependencies; if one of those does, there is the
whole root package, and the dependencies before that one in a folder of their own. -/
inductive Remains (c : Client) (root : PackageId) (folder : Path) (l : Location)
    (ds : List Dependency) (v : World) (e : Failure) (w' : World) : Prop where
  | ofRoot {es} (fails : Fails (writePackage c root folder true) v e w')
    (part : Part c true root v.node es) (holds : w'.disk.Holds l es)
  | ofDependencies {y u d es} (returns : Returns (writePackage c root folder true) v y u)
    (ensures : Returns (Disk.ensureFolders (folder.below [Text.ofString Manifest.dependenciesFolder]))
      u.disk () d)
    (whole : Whole c true root v.node es u.node)
    (holds : ∀ k, (∀ g ∈ ds, ¬ [Text.ofString Manifest.dependenciesFolder, g.folder] <+: k) →
      w'.disk.item? (l ++ k) = Disk.overlay
        (es ++ [([Text.ofString Manifest.dependenciesFolder], none)]) (fun _ => none) k)
    (halted : Halted c (folder.below [Text.ofString Manifest.dependenciesFolder])
      (l ++ [Text.ofString Manifest.dependenciesFolder]) e w' ds { u with disk := d })

/-- A package stands whole in the folder at the location that parts lead to from the root package's:
the root package in its own, a dependency in one in the folder of the dependencies. It is as the node
told of it at some time. -/
inductive Finished (c : Client) (d : Disk) (l : Location) (root : PackageId) (ds : List Dependency)
    (n : Node) : Location → Prop where
  | root {n₁ es n₂} (later : n.Later n₁) (whole : Whole c true root n₁ es n₂)
    (holds : ∀ k ∈ es.map (·.1), d.item? (l ++ k) = Disk.overlay es (fun _ => none) k) :
    Finished c d l root ds n []
  | dependency {p n₁ es n₂} (mem : p ∈ ds) (later : n.Later n₁)
    (whole : Whole c false p.target n₁ es n₂)
    (holds : d.Holds (l ++ [Text.ofString Manifest.dependenciesFolder, p.folder]) es) :
    Finished c d l root ds n [Text.ofString Manifest.dependenciesFolder, p.folder]

variable {c : Client} {v v' w w' : World} {root p : PackageId} {folder q target : Path}
  {l : Location} {ds : List Dependency} {isRoot : Bool} {e : Failure} {x : Unit} {y : Path}
  {f : Text}

/-- A manifest with a text in the folder of a dependency is the one of that dependency, and it stands
whole. -/
theorem Halted.finished {k : Location} {content : ByteArray} {g : Dependency}
    (h : Halted c q l e w' ds v) (hg : g ∈ ds)
    (hitem : w'.disk.item? (l ++ [g.folder] ++ (k ++ [Text.ofString Manifest.fileName])) =
      some (some content)) (hne : content ≠ .empty) :
    k = [] ∧ ∃ n₁ es n₂, v.node.Later n₁ ∧ Whole c false g.target n₁ es n₂ ∧
      w'.disk.Holds (l ++ [g.folder]) es := by
  induction h with
  | here _ part holds vacant =>
    rcases List.mem_cons.mp hg with rfl | hg
    · rw [holds] at hitem
      exact absurd (part.manifest (Disk.mem_of_overlay rfl hitem)) hne
    · rw [vacant g hg] at hitem
      cases hitem
  | next _ whole holds _ ih =>
    rcases List.mem_cons.mp hg with rfl | hg
    · rw [holds] at hitem
      exact ⟨whole.manifest (Disk.mem_of_overlay rfl hitem), _, _, _, .refl _, whole, holds⟩
    · obtain ⟨hk, n₁, es, n₂, later, whole', holds'⟩ := ih hg
      exact ⟨hk, n₁, es, n₂, whole.later.trans later, whole', holds'⟩

theorem folder_ne_manifest (g : Dependency) : g.folder ≠ Text.ofString Manifest.fileName := by
  intro h
  have hin : CodePoint.char '_' ∈ g.folder.points :=
    List.mem_append_left _ (List.mem_append_right _ (List.mem_singleton.mpr rfl))
  rw [h] at hin
  revert hin
  decide

/-- Whatever is left of a root package and its dependencies, where there is a manifest with a text
there is a whole package. -/
theorem Remains.finished {k : Location} {content : ByteArray}
    (h : Remains c root folder l ds v e w')
    (hitem : w'.disk.item? (l ++ (k ++ [Text.ofString Manifest.fileName])) = some (some content))
    (hne : content ≠ .empty) : Finished c w'.disk l root ds v.node k := by
  cases h with
  | ofRoot _ part holds =>
    rw [holds] at hitem
    exact absurd (part.manifest (Disk.mem_of_overlay rfl hitem)) hne
  | ofDependencies _ _ whole holds halted =>
    by_cases hk : ∃ g ∈ ds, [Text.ofString Manifest.dependenciesFolder, g.folder] <+:
        k ++ [Text.ofString Manifest.fileName]
    · obtain ⟨g, hg, hpre⟩ := hk
      rcases List.prefix_concat_iff.mp hpre with heq | ⟨k', rfl⟩
      · have hlast := congrArg List.getLast? heq
        rw [List.getLast?_concat] at hlast
        exact absurd (Option.some.inj hlast) (folder_ne_manifest g)
      · obtain ⟨rfl, n₁, es', n₂, later, whole', holds'⟩ := halted.finished hg
          (by simpa using hitem) hne
        rw [List.append_assoc] at holds'
        exact .dependency hg (whole.later.trans later) whole' holds'
    · rw [holds _ fun g hg hpre => hk ⟨g, hg, hpre⟩] at hitem
      rcases List.mem_append.mp (Disk.mem_of_overlay rfl hitem) with hmem | hmem
      · obtain rfl := whole.manifest hmem
        refine .root (.refl _) whole fun k hk => ?_
        obtain ⟨a, ha, rfl⟩ := List.mem_map.mp hk
        rw [holds, Disk.overlay_append, Disk.overlay_singleton,
          Function.update_of_ne (whole.apart ha [])]
        rintro g - ⟨k', hk'⟩
        exact whole.apart ha _ hk'.symm
      · cases congrArg Prod.snd (List.mem_singleton.mp hmem)

/-- A package written where nothing stands is all that stands there. -/
theorem writePackage_stands (hvacant : v.disk.Vacant folder (Text.ofString sourcesFolder))
    (hms : ∀ q ∈ v.node.packages, ∀ m ∈ q.modules, m.SlashFree)
    (h : Returns (writePackage c p folder isRoot) v y v') :
    ∃ es, Whole c isRoot p v.node es v'.node ∧ v'.disk.Holds (v.disk.place folder) es ∧
      ∃ d fs, Disk.Ensures v.disk (folder.below [Text.ofString sourcesFolder]) d ∧
        Disk.Gains d (under (v.disk.place folder) fs) v'.disk := by
  obtain ⟨d, fs, hens, hwhole, hg⟩ := writePackage_writes (fun _ _ h => hms _ h.mem_packages) h
  obtain ⟨es, hes, hholds⟩ := holds_of_founds hvacant.gone (hvacant.founds d hens.gains)
  obtain ⟨-, hthere, -⟩ := hens.at_place isName_sources.2
  exact ⟨_, hwhole, holds_append (holds_packageFolders hes hholds hthere) hg, d, fs, hens, hg⟩

/-- Of a package that fails where nothing stands there is a part, and nothing else. -/
theorem writePackage_remains (hvacant : v.disk.Vacant folder (Text.ofString sourcesFolder))
    (hms : ∀ q ∈ v.node.packages, ∀ m ∈ q.modules, m.SlashFree)
    (h : Fails (writePackage c p folder isRoot) v e v') :
    ∃ es, Part c isRoot p v.node es ∧ v'.disk.Holds (v.disk.place folder) es := by
  obtain ⟨d, fs, hcreates, hg, hfs⟩ := writePackage_halts (fun _ _ h => hms _ h.mem_packages) h
  obtain ⟨es, hes, hholds⟩ := holds_of_founds hvacant.gone (hvacant.founds d hcreates)
  rcases hfs with rfl | ⟨hens, hpart⟩
  · refine ⟨es, .folders hes, ?_⟩
    have hholds' := holds_append hholds hg
    rwa [List.append_nil] at hholds'
  · obtain ⟨-, hthere, -⟩ := hens.at_place isName_sources.2
    exact ⟨_, hpart, holds_append (holds_packageFolders hes hholds hthere) hg⟩

private theorem holds_of_same {d d' : Disk} {es : List DiskItem} (h : d.Holds l es)
    (hsame : ∀ k, d'.item? (l ++ k) = d.item? (l ++ k)) : d'.Holds l es :=
  fun k => (hsame k).trans (h k)

/-- Dependencies of which one fails: the ones before it stand whole, and of those after it there is
nothing. -/
theorem writeDependencies_halts (hq : v.disk.At q l)
    (hms : ∀ q ∈ v.node.packages, ∀ m ∈ q.modules, m.SlashFree)
    (hnames : ∀ d ∈ ds, Path.IsName d.folder) (hnodup : (ds.map Dependency.folder).Nodup)
    (hgone : ∀ d ∈ ds, v.disk.Holds (l ++ [d.folder]) [])
    (h : Fails (writeDependencies c q ds) v e v') : Halted c q l e v' ds v := by
  induction ds generalizing v with
  | nil => exact absurd h not_fails_pure
  | cons d ds ih =>
    rw [List.forall_mem_cons] at hnames hgone
    rw [List.map_cons, List.nodup_cons] at hnodup
    have hbeside : ∀ g ∈ ds, d.folder ≠ g.folder := fun g hg he =>
      hnodup.1 (he ▸ List.mem_map_of_mem hg)
    have hvacant := Disk.Vacant.of_at hq hnames.1.2 isName_sources.2 hgone.1
    have hplace : v.disk.place (q.below [d.folder]) = l ++ [d.folder] := by
      rw [Disk.place_below_name hnames.1.2, ← hq.location]
    obtain ⟨hlater, hext⟩ := writePackage_extends c d.target false hnames.1.2
      (.of_slashFree hms) hq
    have hgone' : ∀ g ∈ ds, Disk.Holds _ (l ++ [g.folder]) [] := fun g hg =>
      holds_of_same (hgone.2 g hg) fun k => hext.apart _ (not_prefix_beside (hbeside g hg) k)
    rw [writeDependencies, Path.join_of_isPart hnames.1.1] at h
    rcases fails_bind.mp h with hpackage | ⟨y, u, hpackage, hrest⟩
    · obtain ⟨es, hpart, hholds⟩ := writePackage_remains hvacant hms hpackage
      rw [hpackage.after_eq] at hgone'
      exact .here hpackage hpart (hplace ▸ hholds) hgone'
    · obtain ⟨es, hwhole, hholds, -⟩ := writePackage_stands hvacant hms hpackage
      rw [hpackage.after_eq] at hlater hext hgone'
      have hms' : ∀ q ∈ u.node.packages, ∀ m ∈ q.modules, m.SlashFree := fun q hq =>
        hms q (hlater.packages hq)
      have hq' := hext.toGrows.at hq
      have hsame := item?_of_neighbours (c := c) hnames.2 (.of_slashFree hms') hq' fun g hg =>
        (hbeside g hg).symm
      rw [hrest.after_eq] at hsame
      exact .next hpackage hwhole (holds_of_same (hplace ▸ hholds) hsame)
        (ih hq' hms' hnames.2 hnodup.2 hgone' hrest)

/-- A package that has been written has a manifest, so that its path can be taken by the disk. -/
theorem manifest_of_writePackage (h : Returns (writePackage c p folder isRoot) v y v') :
    DiskFault.ofPath? (folder.below [Text.ofString Manifest.fileName]) = none ∧
      Path.size (folder.below [Text.ofString Manifest.fileName]).text ≤ Disk.maxPath := by
  obtain ⟨_, _, _, _, _, _, -, -, -, -, hmanifest, -⟩ := returns_writePackage.mp h
  obtain ⟨_, _, -, hfile, -⟩ := returns_writeText.mp hmanifest
  obtain ⟨hf, _, _, hplaces, -⟩ := Disk.returns_writeFile.mp hfile
  exact ⟨hf, hplaces.short⟩

private theorem absent_dependencies {es : List DiskItem} {n n' : Node} {d : Disk}
    (hwhole : Whole c isRoot p n es n') (hholds : d.Holds l es) (k : Location) :
    d.item? (l ++ Text.ofString Manifest.dependenciesFolder :: k) = none := by
  rw [hholds, Disk.overlay_of_notMem]
  intro hm
  obtain ⟨a, ha, hak⟩ := List.mem_map.mp hm
  exact hwhole.apart ha k hak

/-- Beside a root package that has been written there is no failing to create the folder of the
dependencies. -/
theorem dependenciesFolder_returns
    (hvacant : v.disk.Vacant folder (Text.ofString sourcesFolder))
    (hms : ∀ q ∈ v.node.packages, ∀ m ∈ q.modules, m.SlashFree)
    (h : Returns (writePackage c root folder true) v y v') :
    ∃ d, Returns (Disk.ensureFolders (folder.below [Text.ofString Manifest.dependenciesFolder]))
        v'.disk () d ∧
      Disk.Gains v'.disk
        [(v.disk.place folder ++ [Text.ofString Manifest.dependenciesFolder], none)] d ∧
      d.At (folder.below [Text.ofString Manifest.dependenciesFolder])
        (v.disk.place folder ++ [Text.ofString Manifest.dependenciesFolder]) := by
  obtain ⟨es, hwhole, hholds, d, fs, hens, hg⟩ := writePackage_stands hvacant hms h
  obtain ⟨-, -, hat, hl⟩ := hens.at_place isName_sources.2
  have hat := hg.toGrows.at hat
  have hl := hg.toGrows.folder hl
  obtain ⟨hf, hsize⟩ := manifest_of_writePackage h
  have hshort : (folder.below [Text.ofString Manifest.fileName]).Short := by
    refine ⟨hsize, List.forall_mem_append.mpr ⟨Disk.Reaches.short hat, ?_⟩⟩
    exact List.forall_mem_singleton.mpr (by decide)
  have hdown : Disk.Descends [Text.ofString Manifest.dependenciesFolder] :=
    Disk.descends_singleton.mpr isName_dependencies.2
  have hpass : v'.disk.Passable (v.disk.place folder)
      [Text.ofString Manifest.dependenciesFolder] := by
    refine Disk.passable_cons.mpr ⟨by simp [hl], Disk.passable_nil.mpr fun content => ?_⟩
    rw [absent_dependencies hwhole hholds []]
    simp
  obtain ⟨d', hd'⟩ := Disk.returns_ensureFolders hat hl hdown hpass
    (hshort.sibling (by decide))
    (Path.ofPath?_below.mpr ⟨(Path.ofPath?_below.mp hf).1, by decide⟩)
  obtain ⟨hg', hdeps, -⟩ := Disk.gains_ensureFolders hd' hat hdown
  exact ⟨d', hd', hg', hdeps⟩

/-- A root package that stands whole, and a dependency that fails. -/
theorem remains_of_dependencies {u : World} {d : Disk}
    (hvacant : v.disk.Vacant folder (Text.ofString sourcesFolder))
    (hms : ∀ q ∈ v.node.packages, ∀ m ∈ q.modules, m.SlashFree)
    (hnames : ∀ d ∈ ds, Path.IsName d.folder) (hnodup : (ds.map Dependency.folder).Nodup)
    (h : Returns (writePackage c root folder true) v y u)
    (hd : Returns (Disk.ensureFolders (folder.below [Text.ofString Manifest.dependenciesFolder]))
      u.disk () d)
    (hfails : Fails (writeDependencies c
      (folder.below [Text.ofString Manifest.dependenciesFolder]) ds) { u with disk := d } e v') :
    Remains c root folder (v.disk.place folder) ds v e v' := by
  obtain ⟨es, hwhole, hholds, -⟩ := writePackage_stands hvacant hms h
  obtain ⟨d', hd', hg, hat⟩ := dependenciesFolder_returns hvacant hms h
  obtain ⟨-, rfl⟩ := Returns.unique hd' hd
  have hholds' : d'.Holds (v.disk.place folder)
      (es ++ [([Text.ofString Manifest.dependenciesFolder], none)]) := holds_append hholds hg
  have hgone : ∀ g ∈ ds, d'.Holds (v.disk.place folder ++
      [Text.ofString Manifest.dependenciesFolder] ++ [g.folder]) [] := by
    intro g _ k
    rw [hg.items, Disk.overlay_of_notMem (by simp), List.append_assoc, List.append_assoc]
    exact absent_dependencies hwhole hholds _
  have hms' : ∀ q ∈ u.node.packages, ∀ m ∈ q.modules, m.SlashFree := fun q hq =>
    hms q (hwhole.later.packages hq)
  have hhalted := writeDependencies_halts (v := { u with disk := d' }) hat hms' hnames hnodup hgone
    hfails
  obtain ⟨-, -, hsame⟩ := writeDependencies_extends (c := c) (v := { u with disk := d' }) hnames
    (.of_slashFree hms') hat
  rw [hfails.after_eq] at hsame
  refine .ofDependencies h hd hwhole (fun k hk => ?_) hhalted
  rw [hsame, hholds']
  intro g hg
  rw [List.append_assoc, List.prefix_append_right_inj]
  exact hk g hg

end Skeleton

end MoveSkeleton
