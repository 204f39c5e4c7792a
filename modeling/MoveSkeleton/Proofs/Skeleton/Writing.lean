import MoveSkeleton.Proofs.Disk.Folders
import MoveSkeleton.Proofs.Package.Folder
import MoveSkeleton.Proofs.Resolution.Reachability

/-! What writing a package adds to the disk, and what it needs in order to return. -/
namespace MoveSkeleton.Skeleton

open Activity Resolution

/-- The text can be encoded, and the disk can hold a file of that path. -/
def Writable (file : Path) (t : Text) : Prop :=
  DiskFault.ofPath? file = none ∧ ∃ content, t.toUtf8 = .ok content

/-- The source of a module, as the node tells of its interface. -/
def sourceAt (c : Client) (w : World) (account module : Text) : Text :=
  match (c.readInterface account module w).1 with
  | .ok interface => interface.source
  | .error _ => ""

/-- A file that holds a text. -/
def textItem (l : Location) (t : Text) : DiskItem :=
  (l, some t.shown.toUTF8)

/-- The interface of the module is read, and its source can be written. -/
def ModuleComplete (c : Client) (w : World) (account : Text) (folder : Path) (module : Text) :
    Prop :=
  ∃ interface, (c.readInterface account module w).1 = .ok interface ∧
    Writable (folder.join (sourceFile module)) interface.source

/-- The record of a package is found, and the manifest and all modules can be written. -/
def PackageComplete (c : Client) (w : World) (isRoot : Bool) (p : PackageId) (folder : Path) :
    Prop :=
  ∃ record, recordOf (answersAt c w) p = .ok record ∧
    (∀ m ∈ record.modules, ModuleComplete c w p.account (folder.join sourcesFolder) m) ∧
    Writable (folder.join Manifest.fileName) (Manifest.text isRoot p.name record)

/-- The files of a package, from its folder on: its sources and its manifest. -/
def packageFiles (c : Client) (w : World) (isRoot : Bool) (p : PackageId) : List DiskItem :=
  match recordOf (answersAt c w) p with
  | .ok record =>
    (record.modules.map fun m =>
      textItem [Text.ofString sourcesFolder, sourceFile m] (sourceAt c w p.account m)) ++
      [textItem [Text.ofString Manifest.fileName] (Manifest.text isRoot p.name record)]
  | .error _ => []

/-- All that stands in the folder of a package, from that folder on. -/
def packageItems (c : Client) (w : World) (isRoot : Bool) (p : PackageId) : List DiskItem :=
  ([], none) :: ([Text.ofString sourcesFolder], none) :: packageFiles c w isRoot p

/-- Nothing stands in the way of the folders and the files of a package at the location. -/
structure Room (d : Disk) (l : Location) : Prop where
  folder : ∀ content, d.item? l ≠ some (some content)
  sources : ∀ content, d.item? (l ++ [Text.ofString sourcesFolder]) ≠ some (some content)
  modules : ∀ name, d.item? (l ++ [Text.ofString sourcesFolder, name]) ≠ some none
  manifest : d.item? (l ++ [Text.ofString Manifest.fileName]) ≠ some none

theorem room_of_absent {d : Disk} {l : Location} (h : ∀ k, d.item? (l ++ k) = none) : Room d l := by
  constructor
  · intro content hc
    rw [← List.append_nil l, h] at hc
    cases hc
  all_goals intros; rw [h]; simp

theorem Room.of_same {d d' : Disk} {l : Location} (h : Room d l)
    (hsame : ∀ k, d'.item? (l ++ k) = d.item? (l ++ k)) : Room d' l where
  folder := by
    rw [← List.append_nil l, hsame, List.append_nil]
    exact h.folder
  sources := by
    rw [hsame]
    exact h.sources
  modules name := by
    rw [hsame]
    exact h.modules name
  manifest := by
    rw [hsame]
    exact h.manifest

/-- The folders themselves are not in the way. -/
theorem Room.of_folders {d d' : Disk} {l : Location} (h : Room d l) (hl : d'.item? l = some none)
    (hs : d'.item? (l ++ [Text.ofString sourcesFolder]) = some none)
    (hrest : ∀ k, k ≠ [] → k ≠ [Text.ofString sourcesFolder] →
      d'.item? (l ++ k) = d.item? (l ++ k)) : Room d' l where
  folder := by simp [hl]
  sources := by simp [hs]
  modules name := by
    rw [hrest _ (by simp) (by simp)]
    exact h.modules name
  manifest := by
    rw [hrest _ (by simp) (by decide)]
    exact h.manifest

/-- Where a package has room its folders can be created. -/
theorem Room.passable {d : Disk} {l : Location} {name : Text} (h : Room d (l ++ [name]))
    (hl : d.item? l = some none) : d.Passable l [name, Text.ofString sourcesFolder] := by
  apply Disk.passable_cons.mpr
  exact ⟨by simp [hl], Disk.passable_cons.mpr ⟨h.folder, Disk.passable_nil.mpr h.sources⟩⟩

/-- Items as they stand below a location. -/
def under (l : Location) (es : List DiskItem) : List DiskItem :=
  es.map fun e => (l ++ e.1, e.2)

variable {c : Client} {w v v' : World} {account : Text} {folder file : Path} {l : Location}
  {ms : List Text} {p : PackageId} {record : Package} {isRoot : Bool} {t : Text} {x : Unit}

theorem toUtf8_eq_ok {content : ByteArray} (h : t.toUtf8 = .ok content) :
    content = t.shown.toUTF8 := by
  unfold Text.toUtf8 at h
  split at h
  · cases h
  · exact (Except.ok.inj h).symm

theorem sourceAt_of_ok {interface : Interface} {module : Text}
    (h : (c.readInterface account module w).1 = .ok interface) :
    sourceAt c w account module = interface.source := by
  rw [sourceAt, h]

/-- A file is written below a folder that is there. -/
theorem writeText_gains {q : Path} {name : Text}
    (h : Returns (writeText (q.below [name]) t) v x v') (hq : v.disk.At q l) :
    Writable (q.below [name]) t ∧ v'.node = v.node ∧
      Disk.Gains v.disk [textItem (l ++ [name]) t] v'.disk := by
  obtain ⟨content, d, hc, hd, rfl⟩ := returns_writeText.mp h
  obtain rfl := toUtf8_eq_ok hc
  exact ⟨⟨(Disk.returns_writeFile.mp hd).1, _, hc⟩, rfl, Disk.gains_writeFile hd hq⟩

theorem writeText_returns {q : Path} {name : Text} (hplace : v.disk.Places (q.below [name]) l name)
    (hfree : v.disk.item? (l ++ [name]) ≠ some none) (hw : Writable (q.below [name]) t) :
    ∃ v', Returns (writeText (q.below [name]) t) v x v' := by
  obtain ⟨hf, content, hc⟩ := hw
  exact ⟨_, returns_writeText.mpr ⟨content, _, hc,
    Disk.returns_writeFile.mpr ⟨hf, l, name, hplace, hfree, rfl⟩, rfl⟩⟩

theorem readInterface_eq {module : Text} {r : Except Failure Interface}
    (hv : w.node.Alike v.node) (h : c.readInterface account module v = (r, v')) :
    r = (c.readInterface account module w).1 ∧ w.node.Alike v'.node ∧ v'.disk = v.disk := by
  have hsnd : v' = (c.request (c.interfaceUrl account module) account v).2 := by
    rw [← Client.readInterface_snd, h]
  refine ⟨?_, ?_, ?_⟩
  · rw [← Client.readInterface_fst_of_alike hv, h]
  · rw [hsnd]
    exact Client.request_alike hv
  · rw [hsnd, Client.request_disk]

/-- The modules that are written are complete, and each is one more file. -/
theorem writeModules_gains (hms : ∀ m ∈ ms, m.SlashFree) (hv : w.node.Alike v.node)
    (hat : v.disk.At folder l) (h : Returns (writeModules c account folder ms) v x v') :
    (∀ m ∈ ms, ModuleComplete c w account folder m) ∧ w.node.Alike v'.node ∧
      Disk.Gains v.disk
        (ms.map fun m => textItem (l ++ [sourceFile m]) (sourceAt c w account m)) v'.disk := by
  induction ms generalizing v with
  | nil =>
    obtain ⟨-, rfl⟩ := returns_pure.mp h
    exact ⟨by simp, hv, .refl _⟩
  | cons m ms ih =>
    rw [List.forall_mem_cons] at hms
    have hjoin := Path.join_of_isPart (p := folder) (isName_sourceFile hms.1).1
    obtain ⟨i, u, hread, h⟩ := returns_bind.mp h
    obtain ⟨_, u', hwrite, h⟩ := returns_bind.mp h
    rw [hjoin] at hwrite
    obtain ⟨hi, hu, hdisk⟩ := readInterface_eq hv hread
    obtain ⟨hw, hnode, hg⟩ := writeText_gains hwrite (hdisk ▸ hat)
    rw [hdisk] at hg
    obtain ⟨hrest, hv', hg'⟩ := ih hms.2 (by dsimp only; exact hnode ▸ hu)
      (by dsimp only; exact hg.toGrows.at hat) (returns_note_bind.mp h)
    refine ⟨List.forall_mem_cons.mpr ⟨⟨i, hi.symm, hjoin ▸ hw⟩, hrest⟩, hv', ?_⟩
    rw [List.map_cons, sourceAt_of_ok hi.symm]
    exact hg.trans hg'

/-- In a folder that holds no folder complete modules can be written. -/
theorem writeModules_returns (hms : ∀ m ∈ ms, m.SlashFree) (hv : w.node.Alike v.node)
    (hat : v.disk.At folder l) (hl : v.disk.item? l = some none)
    (hfree : ∀ name, v.disk.item? (l ++ [name]) ≠ some none)
    (hshort : ∀ m ∈ ms, (folder.below [sourceFile m]).Short)
    (hcomplete : ∀ m ∈ ms, ModuleComplete c w account folder m) :
    ∃ v', Returns (writeModules c account folder ms) v () v' := by
  induction ms generalizing v with
  | nil => exact ⟨v, returns_pure.mpr ⟨rfl, rfl⟩⟩
  | cons m ms ih =>
    rw [List.forall_mem_cons] at hms hshort hcomplete
    have hname := isName_sourceFile hms.1
    have hjoin := Path.join_of_isPart (p := folder) hname.1
    obtain ⟨⟨i, hi, hw⟩, hcomplete⟩ := hcomplete
    rw [hjoin] at hw
    obtain ⟨u, hread⟩ : ∃ u, c.readInterface account m v = (.ok i, u) := by
      rw [← Client.readInterface_fst_of_alike hv] at hi
      exact ⟨_, Prod.ext hi rfl⟩
    obtain ⟨-, hu, hdisk⟩ := readInterface_eq hv hread
    have hplace := Disk.places_below hat hl hname.2 (hshort.1.2 _ (by simp)) hshort.1.1
    obtain ⟨u', hwrite⟩ := writeText_returns (v := u) (x := ()) (hdisk ▸ hplace)
      (hdisk ▸ hfree _) hw
    obtain ⟨-, hnode, hg⟩ := writeText_gains hwrite (hdisk ▸ hat)
    rw [hdisk] at hg
    have hfree' : ∀ name, u'.disk.item? (l ++ [name]) ≠ some none := by
      intro name he
      rw [hg.items, Disk.overlay_singleton] at he
      by_cases hn : l ++ [name] = l ++ [sourceFile m]
      · rw [hn, textItem, Function.update_self] at he
        cases he
      · rw [textItem, Function.update_of_ne hn] at he
        exact hfree name he
    obtain ⟨v', hrest⟩ := ih (v := { u' with
        events := u'.events ++ [.wroteModule (folder.join (sourceFile m))] }) hms.2
      (by dsimp only; exact hnode ▸ hu) (by dsimp only; exact hg.toGrows.at hat)
      (by dsimp only; exact hg.toGrows.folder hl) (by dsimp only; exact hfree') hshort.2 hcomplete
    refine ⟨v', returns_bind.mpr ⟨i, u, hread, returns_bind.mpr ⟨(), u', ?_, ?_⟩⟩⟩
    · rw [hjoin]
      exact hwrite
    · exact returns_note_bind.mpr hrest

theorem readResources_eq {r : Except Failure (List Resource)} (hv : w.node.Alike v.node)
    (h : c.readResources account v = (r, v')) :
    r = answersAt c w account ∧ w.node.Alike v'.node ∧ v'.disk = v.disk := by
  have hsnd : v' = (c.request (c.resourcesUrl account) account v).2 := by
    rw [← Client.readResources_snd, h]
  refine ⟨?_, ?_, ?_⟩
  · rw [answersAt, ← Client.readResources_fst_of_alike hv, h]
  · rw [hsnd]
    exact Client.request_alike hv
  · rw [hsnd, Client.request_disk]

theorem join_sources : folder.join sourcesFolder = folder.below [Text.ofString sourcesFolder] :=
  Path.join_of_isPart isName_sources.1

theorem join_manifest :
    folder.join Manifest.fileName = folder.below [Text.ofString Manifest.fileName] :=
  Path.join_of_isPart isName_manifest.1

theorem under_packageFiles (hrec : recordOf (answersAt c w) p = .ok record) :
    under l (packageFiles c w isRoot p) =
      (record.modules.map fun m => textItem (l ++ [Text.ofString sourcesFolder] ++
        [sourceFile m]) (sourceAt c w p.account m)) ++
        [textItem (l ++ [Text.ofString Manifest.fileName])
          (Manifest.text isRoot p.name record)] := by
  simp [under, packageFiles, hrec, textItem, Function.comp_def]

/-- A package is written in four steps: its record is read, its folders are created, then come its
sources and last its manifest. -/
theorem returns_writePackage {y : Path} : Returns (writePackage c p folder isRoot) v y v' ↔
    ∃ rs u record d u₁ u₂,
      c.readResources p.account { v with events := v.events ++ [.downloading p] } = (.ok rs, u) ∧
      Resource.requirePackage p rs = .ok record ∧
      Returns (Disk.ensureFolders (folder.below [Text.ofString sourcesFolder])) u.disk () d ∧
      Returns (writeModules c p.account (folder.below [Text.ofString sourcesFolder])
        record.modules) { u with disk := d } () u₁ ∧
      Returns (writeText (folder.below [Text.ofString Manifest.fileName])
        (Manifest.text isRoot p.name record)) u₁ () u₂ ∧
      y = folder.below [Text.ofString Manifest.fileName] ∧
      v' = { u₂ with events := u₂.events ++ [.wroteManifest y] } := by
  unfold writePackage writeFiles
  rw [returns_note_bind, returns_notingFailure, join_sources, join_manifest]
  constructor
  · intro h
    obtain ⟨rs, u, hread, h₁⟩ := returns_bind.mp h
    obtain ⟨record, u', hrecord, h₂⟩ := returns_bind.mp h₁
    obtain ⟨hreq, rfl⟩ := returns_ofResult.mp hrecord
    obtain ⟨⟨⟩, u₀, hfolders, h₃⟩ := returns_bind.mp h₂
    obtain ⟨d, hd, rfl⟩ := returns_onDisk.mp hfolders
    obtain ⟨⟨⟩, u₁, hmodules, h₄⟩ := returns_bind.mp h₃
    obtain ⟨⟨⟩, u₂, hmanifest, h₅⟩ := returns_bind.mp h₄
    have hlast := returns_note_bind.mp h₅
    obtain ⟨rfl, rfl⟩ := returns_pure.mp hlast
    exact ⟨rs, u', record, d, u₁, u₂, hread, hreq, hd, hmodules, hmanifest, rfl, rfl⟩
  · rintro ⟨rs, u, record, d, u₁, u₂, hread, hreq, hd, hmodules, hmanifest, rfl, rfl⟩
    refine returns_bind.mpr ⟨rs, u, hread, returns_bind.mpr
      ⟨record, u, returns_ofResult.mpr ⟨hreq, rfl⟩, returns_bind.mpr
        ⟨(), { u with disk := d }, returns_onDisk.mpr ⟨d, hd, rfl⟩, returns_bind.mpr
          ⟨(), u₁, hmodules, returns_bind.mpr ⟨(), u₂, hmanifest, ?_⟩⟩⟩⟩⟩
    exact returns_note_bind.mpr (returns_pure.mpr ⟨rfl, rfl⟩)

/-- A package that is written is complete, and its files are all that comes after its folders. -/
theorem writePackage_gains {y : Path} (hv : w.node.Alike v.node)
    (hms : ∀ record, recordOf (answersAt c w) p = .ok record → ∀ m ∈ record.modules, m.SlashFree)
    (h : Returns (writePackage c p folder isRoot) v y v') :
    ∃ d, Returns (Disk.ensureFolders (folder.below [Text.ofString sourcesFolder])) v.disk () d ∧
      ∀ l, d.At (folder.below [Text.ofString sourcesFolder]) (l ++ [Text.ofString sourcesFolder]) →
        d.At folder l → PackageComplete c w isRoot p folder ∧ w.node.Alike v'.node ∧
          Disk.Gains d (under l (packageFiles c w isRoot p)) v'.disk := by
  obtain ⟨rs, u, record, d, u₁, u₂, hread, hreq, hd, hmodules, hmanifest, rfl, rfl⟩ :=
    returns_writePackage.mp h
  obtain ⟨hrs, hu, hdisk⟩ := readResources_eq (by dsimp only; exact hv) hread
  have hrec : recordOf (answersAt c w) p = .ok record := recordOf_eq_ok_iff.mpr ⟨rs, hrs.symm, hreq⟩
  rw [hdisk] at hd
  refine ⟨d, hd, fun l hsources hfolder => ?_⟩
  obtain ⟨hcomplete, hu', hg⟩ := writeModules_gains (hms record hrec) (by dsimp only; exact hu)
    (by dsimp only; exact hsources) hmodules
  dsimp only at hg
  obtain ⟨hw, hnode, hg'⟩ := writeText_gains hmanifest (hg.toGrows.at hfolder)
  rw [under_packageFiles hrec]
  refine ⟨⟨record, hrec, ?_, ?_⟩, ?_, hg.trans hg'⟩
  · rwa [join_sources]
  · rwa [join_manifest]
  · dsimp only
    exact hnode ▸ hu'

theorem short_manifest (hcomplete : PackageComplete c w isRoot p folder)
    (hshort : ∀ e ∈ packageFiles c w isRoot p, (folder.below e.1).Short) :
    (folder.below [Text.ofString Manifest.fileName]).Short := by
  obtain ⟨record, hrec, -⟩ := hcomplete
  exact hshort (textItem [Text.ofString Manifest.fileName] (Manifest.text isRoot p.name record))
    (by simp [packageFiles, hrec])

theorem short_module (hrec : recordOf (answersAt c w) p = .ok record)
    (hshort : ∀ e ∈ packageFiles c w isRoot p, (folder.below e.1).Short) :
    ∀ m ∈ record.modules,
      ((folder.below [Text.ofString sourcesFolder]).below [sourceFile m]).Short := by
  intro m hm
  rw [Path.below_below]
  refine hshort (textItem _ (sourceAt c w p.account m)) ?_
  rw [packageFiles, hrec]
  exact List.mem_append_left _ (List.mem_map.mpr ⟨m, hm, rfl⟩)

/-- Once its folders are there, and nothing in the way, a complete package can be written. -/
theorem writePackage_returns {d : Disk} (hv : w.node.Alike v.node)
    (hms : ∀ record, recordOf (answersAt c w) p = .ok record → ∀ m ∈ record.modules, m.SlashFree)
    (hcomplete : PackageComplete c w isRoot p folder)
    (hshort : ∀ e ∈ packageFiles c w isRoot p, (folder.below e.1).Short)
    (hd : Returns (Disk.ensureFolders (folder.below [Text.ofString sourcesFolder])) v.disk () d)
    (hfolder : d.At folder l) (hl : d.item? l = some none)
    (hsources : d.At (folder.below [Text.ofString sourcesFolder])
      (l ++ [Text.ofString sourcesFolder]))
    (hs : d.item? (l ++ [Text.ofString sourcesFolder]) = some none) (hroom : Room d l) :
    ∃ y v', Returns (writePackage c p folder isRoot) v y v' := by
  have hmanifestShort := short_manifest hcomplete hshort
  obtain ⟨record, hrec, hmodules, hmanifest⟩ := hcomplete
  rw [join_sources] at hmodules
  rw [join_manifest] at hmanifest
  obtain ⟨rs, hrs, hreq⟩ := recordOf_eq_ok_iff.mp hrec
  -- Reading the record changes neither the disk nor what the node answers.
  let u : World := { v with events := v.events ++ [.downloading p] }
  obtain ⟨u', hread⟩ : ∃ u', c.readResources p.account u = (.ok rs, u') := by
    have hu : w.node.Alike u.node := hv
    rw [answersAt, ← Client.readResources_fst_of_alike hu] at hrs
    exact ⟨_, Prod.ext hrs rfl⟩
  obtain ⟨-, hu', hdisk⟩ := readResources_eq (v := u) hv hread
  let u₁ : World := { u' with disk := d }
  have hfree : ∀ name, d.item? (l ++ [Text.ofString sourcesFolder] ++ [name]) ≠ some none := by
    intro name
    rw [List.append_assoc]
    exact hroom.modules name
  obtain ⟨u₂, hwrite⟩ := writeModules_returns (v := u₁) (hms record hrec) hu' hsources hs hfree
    (short_module hrec hshort) hmodules
  obtain ⟨-, -, hg⟩ := writeModules_gains (v := u₁) (hms record hrec) hu' hsources hwrite
  have hplace : u₂.disk.Places (folder.below [Text.ofString Manifest.fileName]) l
      (Text.ofString Manifest.fileName) :=
    Disk.places_below (hg.toGrows.at hfolder) (hg.toGrows.folder hl) isName_manifest.2 (by decide)
      hmanifestShort.1
  have hfreeManifest : u₂.disk.item? (l ++ [Text.ofString Manifest.fileName]) ≠ some none := by
    rw [hg.items, Disk.overlay_of_notMem]
    · exact hroom.manifest
    · simp [textItem]
  obtain ⟨u₃, hlast⟩ := writeText_returns hplace hfreeManifest hmanifest
  exact ⟨_, _, returns_writePackage.mpr
    ⟨rs, u', record, d, u₂, u₃, hread, hreq, hdisk ▸ hd, hwrite, hlast, rfl, rfl⟩⟩

end MoveSkeleton.Skeleton
