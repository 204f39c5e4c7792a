import MoveSkeleton.Proofs.Disk.Place
import MoveSkeleton.Proofs.Node.Later
import MoveSkeleton.Proofs.Skeleton.Clearing
import MoveSkeleton.Proofs.Skeleton.Writing

/-! What writing a package leaves on the disk, whether it returns or fails: all of the package, or
its folders and the first of its sources. Each file is as the node told of it when it was asked. -/
namespace MoveSkeleton

namespace Client

variable {c : Client} {w : World} {n : Node} {account : Text}

/-- The resources of an account as the node tells of them, and the node that is left. -/
def resourcesAt (c : Client) (account : Text) (n : Node) : Except Failure (List Resource) × Node :=
  let r := c.readResources account { node := n, disk := default }
  (r.1, r.2.node)

/-- The interface of a module as the node tells of it, and the node that is left. -/
def interfaceAt (c : Client) (account module : Text) (n : Node) :
    Except Failure Interface × Node :=
  let r := c.readInterface account module { node := n, disk := default }
  (r.1, r.2.node)

theorem resourcesAt_node (c : Client) (account : Text) (w : World) :
    c.resourcesAt account w.node =
      ((c.readResources account w).1, (c.readResources account w).2.node) := by
  simp only [resourcesAt, readResources, request]
  cases Address.fault? (c.resourcesUrl account) <;> rfl

theorem interfaceAt_node (c : Client) (account module : Text) (w : World) :
    c.interfaceAt account module w.node =
      ((c.readInterface account module w).1, (c.readInterface account module w).2.node) := by
  simp only [interfaceAt, readInterface, request]
  cases Address.fault? (c.interfaceUrl account module) <;> rfl

theorem resourcesAt_later (c : Client) (account : Text) (n : Node) :
    n.Later (c.resourcesAt account n).2 :=
  c.readResources_later account { node := n, disk := default }

theorem interfaceAt_later (c : Client) (account module : Text) (n : Node) :
    n.Later (c.interfaceAt account module n).2 :=
  c.readInterface_later account module { node := n, disk := default }

end Client

/-- All that stands at the location and below it are the items, as they are once all of them have
been written in turn. -/
def Disk.Holds (d : Disk) (l : Location) (es : List DiskItem) : Prop :=
  ∀ k, d.item? (l ++ k) = Disk.overlay es (fun _ => none) k

namespace Skeleton

open Resolution Activity

/-- The folder of a package and that of its sources. -/
def packageFolders : List DiskItem :=
  [([], none), ([Text.ofString sourcesFolder], none)]

/-- The file of a source, from the folder of its package on. -/
def sourceItem (module : Text) (content : ByteArray) : DiskItem :=
  ([Text.ofString sourcesFolder, sourceFile module], some content)

def manifestItem (content : ByteArray) : DiskItem :=
  ([Text.ofString Manifest.fileName], some content)

/-- The record of a package as the node tells of it, and the node that is left. -/
def Told (c : Client) (p : PackageId) (n : Node) (record : Package) (n' : Node) : Prop :=
  ∃ rs, c.resourcesAt p.account n = (.ok rs, n') ∧ Resource.requirePackage p rs = .ok record

/-- A source for each module, as the node tells of their interfaces one after the other. -/
inductive Sources (c : Client) (account : Text) :
    List Text → Node → List DiskItem → Node → Prop where
  | nil {n} : Sources c account [] n [] n
  | cons {m ms n i n₁ content es n'} (hi : c.interfaceAt account m n = (.ok i, n₁))
    (hc : i.source.toUtf8 = .ok content) (hms : Sources c account ms n₁ es n') :
    Sources c account (m :: ms) n (sourceItem m content :: es) n'

/-- Sources of the first modules, as the node tells of their interfaces one after the other. The
file of the next module may be there without its text, if that cannot be encoded. -/
inductive FirstSources (c : Client) (account : Text) : List Text → Node → List DiskItem → Prop where
  | stop {ms n} : FirstSources c account ms n []
  | spoilt {m ms n i n₁ fault} (hi : c.interfaceAt account m n = (.ok i, n₁))
    (hc : i.source.toUtf8 = .error fault) :
    FirstSources c account (m :: ms) n [sourceItem m .empty]
  | cons {m ms n i n₁ content es} (hi : c.interfaceAt account m n = (.ok i, n₁))
    (hc : i.source.toUtf8 = .ok content) (hms : FirstSources c account ms n₁ es) :
    FirstSources c account (m :: ms) n (sourceItem m content :: es)

/-- All of a package: its folders, a source for each module of its record, and its manifest. -/
inductive Whole (c : Client) (isRoot : Bool) (p : PackageId) (n : Node) :
    List DiskItem → Node → Prop where
  | mk {record n₁ es n' content} (told : Told c p n record n₁)
    (sources : Sources c p.account record.modules n₁ es n')
    (manifest : (Manifest.text isRoot p.name record).toUtf8 = .ok content) :
    Whole c isRoot p n (packageFolders ++ (es ++ [manifestItem content])) n'

/-- What a package leaves that fails: the first of its folders, or both and the first of its
sources. A manifest is not there, unless without its text, if that cannot be encoded. -/
inductive Part (c : Client) (isRoot : Bool) (p : PackageId) (n : Node) : List DiskItem → Prop where
  | folders {es} (first : es <+: packageFolders) : Part c isRoot p n es
  | sources {record n₁ es} (told : Told c p n record n₁)
    (first : FirstSources c p.account record.modules n₁ es) :
    Part c isRoot p n (packageFolders ++ es)
  | spoilt {record n₁ es n' fault} (told : Told c p n record n₁)
    (sources : Sources c p.account record.modules n₁ es n')
    (manifest : (Manifest.text isRoot p.name record).toUtf8 = .error fault) :
    Part c isRoot p n (packageFolders ++ (es ++ [manifestItem .empty]))

variable {c : Client} {v v' : World} {n n' : Node} {p : PackageId} {account t : Text}
  {folder q : Path} {l : Location} {ms : List Text} {es fs : List DiskItem} {record : Package}
  {isRoot : Bool} {e : Failure} {x : Unit} {y : Path} {name : Text}

theorem Told.later (h : Told c p n record n') : n.Later n' := by
  obtain ⟨rs, hr, -⟩ := h
  have hl := c.resourcesAt_later p.account n
  rwa [hr] at hl

theorem Told.mem_packages (h : Told c p n record n') : record ∈ n.packages := by
  obtain ⟨rs, hr, hreq⟩ := h
  exact Client.mem_packages_of_requirePackage (w := { node := n, disk := default })
    (congrArg Prod.fst hr) hreq

theorem Sources.later (h : Sources c account ms n es n') : n.Later n' := by
  induction h with
  | nil => exact .refl _
  | @cons m _ n _ _ _ _ _ hi _ _ ih =>
    have hl := c.interfaceAt_later account m n
    rw [hi] at hl
    exact hl.trans ih

theorem Whole.later (h : Whole c isRoot p n es n') : n.Later n' := by
  cases h with
  | mk told sources _ => exact told.later.trans sources.later

/-- All sources are the first ones. -/
theorem Sources.first (h : Sources c account ms n es n') : FirstSources c account ms n es := by
  induction h with
  | nil => exact .stop
  | cons hi hc _ ih => exact .cons hi hc ih

/-- The item is a folder of a package or one of its sources. -/
def IsInner (a : DiskItem) : Prop :=
  a ∈ packageFolders ∨ ∃ m content, a = sourceItem m content

theorem FirstSources.inner (h : FirstSources c account ms n es) {a : DiskItem} (ha : a ∈ es) :
    IsInner a := by
  induction h with
  | stop => cases ha
  | spoilt => exact .inr ⟨_, _, List.mem_singleton.mp ha⟩
  | cons _ _ _ ih =>
    rcases List.mem_cons.mp ha with rfl | ha
    · exact .inr ⟨_, _, rfl⟩
    · exact ih ha

/-- All of a package but its manifest are its folders and sources. -/
theorem Whole.mem (h : Whole c isRoot p n es n') {a : DiskItem} (ha : a ∈ es) :
    IsInner a ∨ ∃ content, a = manifestItem content := by
  cases h with
  | mk _ sources _ =>
    rcases List.mem_append.mp ha with ha | ha
    · exact .inl (.inl ha)
    rcases List.mem_append.mp ha with ha | ha
    · exact .inl (sources.first.inner ha)
    · exact .inr ⟨_, List.mem_singleton.mp ha⟩

/-- The manifest of a package that fails has no text. -/
theorem Part.mem (h : Part c isRoot p n es) {a : DiskItem} (ha : a ∈ es) :
    IsInner a ∨ a = manifestItem .empty := by
  cases h with
  | folders first => exact .inl (.inl (first.subset ha))
  | sources _ first =>
    rcases List.mem_append.mp ha with ha | ha
    · exact .inl (.inl ha)
    · exact .inl (first.inner ha)
  | spoilt _ sources _ =>
    rcases List.mem_append.mp ha with ha | ha
    · exact .inl (.inl ha)
    rcases List.mem_append.mp ha with ha | ha
    · exact .inl (sources.first.inner ha)
    · exact .inr (List.mem_singleton.mp ha)

/-- No package has anything of its own in the folder of the dependencies. -/
theorem Whole.apart (h : Whole c isRoot p n es n') {a : DiskItem} (ha : a ∈ es) (k : Location) :
    a.1 ≠ Text.ofString Manifest.dependenciesFolder :: k := by
  have hs : Text.ofString sourcesFolder ≠ Text.ofString Manifest.dependenciesFolder := by decide
  have hm : Text.ofString Manifest.fileName ≠ Text.ofString Manifest.dependenciesFolder := by
    decide
  rcases h.mem ha with (hfolder | ⟨m, content, rfl⟩) | ⟨content, rfl⟩
  · simp only [packageFolders, List.mem_cons, List.not_mem_nil, or_false] at hfolder
    rcases hfolder with rfl | rfl <;> simp [hs]
  · simp [sourceItem, hs]
  · simp [manifestItem, hm]

theorem sourceFile_ne_manifest (m : Text) : sourceFile m ≠ Text.ofString Manifest.fileName := by
  intro h
  have hfile : (sourceFile m).points = m.points ++ (Text.ofString ".move").points := rfl
  have hlast : (Text.ofString ".move").points.getLast? = some (.char 'e') := by decide
  have hlast' : (Text.ofString Manifest.fileName).points.getLast? = some (.char 'l') := by decide
  rw [h] at hfile
  rw [hfile, List.getLast?_append, hlast, Option.some_or] at hlast'
  cases hlast'

/-- No file among the folders and sources has the name of a manifest. -/
theorem IsInner.not_manifest {k : Location} {content : ByteArray} :
    ¬ IsInner (k ++ [Text.ofString Manifest.fileName], some content) := by
  rintro (hfolder | ⟨m, _, heq⟩)
  · simp [packageFolders] at hfolder
  · have hfile := congrArg (fun a => a.1.getLast?) heq
    simp only [sourceItem, List.getLast?_append, List.getLast?_singleton, Option.some_or,
      List.getLast?_cons_cons, Option.some.injEq] at hfile
    exact sourceFile_ne_manifest m hfile.symm

/-- The one manifest of a package lies in its own folder. -/
theorem Whole.manifest (h : Whole c isRoot p n es n') {k : Location} {content : ByteArray}
    (hk : (k ++ [Text.ofString Manifest.fileName], some content) ∈ es) : k = [] := by
  obtain ⟨_, heq⟩ := (h.mem hk).resolve_left IsInner.not_manifest
  exact List.append_cancel_right (congrArg Prod.fst heq)

theorem Part.manifest (h : Part c isRoot p n es) {k : Location} {content : ByteArray}
    (hk : (k ++ [Text.ofString Manifest.fileName], some content) ∈ es) : content = .empty := by
  have heq := (h.mem hk).resolve_left IsInner.not_manifest
  exact Option.some.inj (congrArg Prod.snd heq)

theorem under_append : under l (es ++ fs) = under l es ++ under l fs :=
  List.map_append

theorem overlay_under {f : Location → Option (Option ByteArray)} (k : Location) :
    Disk.overlay (under l es) f (l ++ k) = Disk.overlay es (fun k => f (l ++ k)) k := by
  induction es using List.reverseRecOn with
  | nil => rfl
  | append_singleton es a ih =>
    have hone : under l [a] = [(l ++ a.1, a.2)] := rfl
    rw [under_append, Disk.overlay_append, Disk.overlay_append, hone, Disk.overlay_singleton,
      Disk.overlay_singleton]
    by_cases hk : k = a.1
    · rw [hk, Function.update_self, Function.update_self]
    · rw [Function.update_of_ne (by simpa using hk), Function.update_of_ne hk, ih]

/-- What is written below the location comes after what it holds already. -/
theorem holds_append {d d' : Disk} (h : d.Holds l es) (hg : Disk.Gains d (under l fs) d') :
    d'.Holds l (es ++ fs) := by
  intro k
  rw [hg.items, overlay_under, Disk.overlay_append]
  exact congrFun (congrArg (Disk.overlay fs) (funext h)) k

/-- Folders that are founded where nothing stands are all that stands there. -/
theorem holds_of_founds {d d' : Disk} (hgone : ∀ k, d.item? (l ++ k) = none)
    (h : Disk.Founds d l (Text.ofString sourcesFolder) d') :
    ∃ es, es <+: packageFolders ∧ d'.Holds l es := by
  obtain ⟨es, hg, hes⟩ := h
  have hat : ∀ k, d'.item? (l ++ k) = none ∨
      d'.item? (l ++ k) = some none ∧ (k = [] ∨ k = [Text.ofString sourcesFolder]) := by
    intro k
    by_cases hm : l ++ k ∈ es.map (·.1)
    · refine .inr ⟨hg.folder_of_mem (fun a ha => (hes a ha).1) hm, ?_⟩
      obtain ⟨a, ha, hak⟩ := List.mem_map.mp hm
      have hplace := (hes a ha).2 (hak ▸ List.prefix_append ..)
      rw [show a.1 = l ++ k from hak] at hplace
      simpa using hplace
    · rw [hg.items, Disk.overlay_of_notMem hm]
      exact .inl (hgone k)
  have hl : d'.item? (l ++ [Text.ofString sourcesFolder]) = some none →
      d'.item? (l ++ []) = some none := fun hs => by
    rw [List.append_nil]
    exact Disk.item?_eq_folder_of_isSome (by simp) (Option.isSome_of_eq_some hs)
  have hholds : ∀ fs : List DiskItem,
      (∀ k, k = [] ∨ k = [Text.ofString sourcesFolder] →
        d'.item? (l ++ k) = Disk.overlay fs (fun _ => none) k) →
      (∀ a ∈ fs, a.1 = [] ∨ a.1 = [Text.ofString sourcesFolder]) → d'.Holds l fs := by
    intro fs hfs hin k
    by_cases hk : k = [] ∨ k = [Text.ofString sourcesFolder]
    · exact hfs k hk
    · rw [(hat k).resolve_right fun h => hk h.2, Disk.overlay_of_notMem]
      intro hm
      obtain ⟨a, ha, rfl⟩ := List.mem_map.mp hm
      exact hk (hin a ha)
  rcases hat [Text.ofString sourcesFolder] with hs | ⟨hs, -⟩
  · rcases hat [] with hroot | ⟨hroot, -⟩
    · refine ⟨[], List.nil_prefix, hholds [] ?_ (by simp)⟩
      rintro k (rfl | rfl) <;> assumption
    · refine ⟨[([], none)], ⟨_, rfl⟩, hholds _ ?_ (by simp)⟩
      rintro k (rfl | rfl)
      · exact hroot
      · exact hs
  · refine ⟨packageFolders, List.prefix_refl _, hholds _ ?_ (by simp [packageFolders])⟩
    rintro k (rfl | rfl)
    · exact hl hs
    · exact hs

/-- If the inner one of the folders is there, both are. -/
theorem holds_packageFolders {d : Disk} (hp : es <+: packageFolders) (h : d.Holds l es)
    (hthere : d.item? (l ++ [Text.ofString sourcesFolder]) = some none) :
    d.Holds l packageFolders := by
  rw [h] at hthere
  rcases List.prefix_cons_iff.mp hp with rfl | ⟨fs, rfl, hfs⟩
  · cases hthere
  · rcases List.prefix_cons_iff.mp hfs with rfl | ⟨gs, rfl, hgs⟩
    · simp at hthere
    · rw [List.prefix_nil.mp hgs] at h
      exact h

/-- A text is written to a file in a folder that is there. -/
theorem writeText_writes (h : Returns (writeText (q.below [name]) t) v x v')
    (hq : v.disk.At q l) : ∃ content, t.toUtf8 = .ok content ∧ v'.node = v.node ∧
      Disk.Gains v.disk [(l ++ [name], some content)] v'.disk := by
  obtain ⟨content, d, hc, hd, rfl⟩ := returns_writeText.mp h
  exact ⟨content, hc, rfl, Disk.gains_writeFile hd hq⟩

/-- A text that is not written leaves no file behind, or one without text. -/
theorem writeText_halts (h : Fails (writeText (q.below [name]) t) v e v') (hq : v.disk.At q l) :
    v'.disk = v.disk ∨ ∃ fault, t.toUtf8 = .error fault ∧
      Disk.Gains v.disk [(l ++ [name], some .empty)] v'.disk := by
  rcases fails_writeText h with ⟨content, fault, d, hd, rfl⟩ | ⟨fault, d, ht, hd, rfl⟩
  · exact .inl (Disk.fails_writeFile hd)
  · exact .inr ⟨fault, ht, Disk.gains_writeFile hd hq⟩

theorem fetchInterface_eq {module : Text} {r : Except Failure Interface}
    (h : c.readInterface account module v = (r, v')) :
    c.interfaceAt account module v.node = (r, v'.node) ∧ v'.disk = v.disk := by
  rw [Client.interfaceAt_node, ← c.readInterface_disk account module v, h]
  exact ⟨rfl, rfl⟩

theorem fetchResources_eq {r : Except Failure (List Resource)}
    (h : c.readResources account v = (r, v')) :
    c.resourcesAt account v.node = (r, v'.node) ∧ v'.disk = v.disk := by
  rw [Client.resourcesAt_node, ← c.readResources_disk account v, h]
  exact ⟨rfl, rfl⟩

private theorem under_sourceItem {m : Text} {content : ByteArray} :
    under l (sourceItem m content :: es) =
      [(l ++ [Text.ofString sourcesFolder] ++ [sourceFile m], some content)] ++ under l es := by
  simp [under, sourceItem]

/-- Modules that are written leave a source each. -/
theorem writeModules_writes (hms : ∀ m ∈ ms, m.SlashFree)
    (hat : v.disk.At folder (l ++ [Text.ofString sourcesFolder]))
    (h : Returns (writeModules c account folder ms) v x v') :
    ∃ es, Sources c account ms v.node es v'.node ∧ Disk.Gains v.disk (under l es) v'.disk := by
  induction ms generalizing v with
  | nil =>
    obtain ⟨-, rfl⟩ := returns_pure.mp h
    exact ⟨[], .nil, .refl _⟩
  | cons m ms ih =>
    rw [List.forall_mem_cons] at hms
    obtain ⟨i, u, hread, h⟩ := returns_bind.mp h
    obtain ⟨_, u', hwrite, h⟩ := returns_bind.mp h
    rw [Path.join_of_isPart (isName_sourceFile hms.1).1] at hwrite
    obtain ⟨hi, hdisk⟩ := fetchInterface_eq hread
    obtain ⟨content, hc, hnode, hg⟩ := writeText_writes hwrite (hdisk ▸ hat)
    rw [hdisk] at hg
    obtain ⟨es, hs, hg'⟩ := ih hms.2 (by dsimp only; exact hg.toGrows.at hat)
      (returns_note_bind.mp h)
    refine ⟨sourceItem m content :: es, .cons hi hc (hnode ▸ hs), ?_⟩
    rw [under_sourceItem]
    exact hg.trans hg'

/-- Modules of which one fails leave sources of the first. -/
theorem writeModules_halts (hms : ∀ m ∈ ms, m.SlashFree)
    (hat : v.disk.At folder (l ++ [Text.ofString sourcesFolder]))
    (h : Fails (writeModules c account folder ms) v e v') :
    ∃ es, FirstSources c account ms v.node es ∧ Disk.Gains v.disk (under l es) v'.disk := by
  induction ms generalizing v with
  | nil => exact absurd h not_fails_pure
  | cons m ms ih =>
    rw [List.forall_mem_cons] at hms
    rcases fails_bind.mp h with hread | ⟨i, u, hread, h⟩
    · obtain ⟨-, hdisk⟩ := fetchInterface_eq hread
      exact ⟨[], .stop, hdisk ▸ .refl _⟩
    obtain ⟨hi, hdisk⟩ := fetchInterface_eq hread
    rw [Path.join_of_isPart (isName_sourceFile hms.1).1] at h
    rcases fails_bind.mp h with hwrite | ⟨_, u', hwrite, h⟩
    · rcases writeText_halts hwrite (hdisk ▸ hat) with hsame | ⟨fault, hc, hg⟩
      · exact ⟨[], .stop, (hsame.trans hdisk) ▸ .refl _⟩
      · exact ⟨_, .spoilt hi hc, under_sourceItem ▸ hdisk ▸ hg⟩
    · obtain ⟨content, hc, hnode, hg⟩ := writeText_writes hwrite (hdisk ▸ hat)
      rw [hdisk] at hg
      obtain ⟨es, hs, hg'⟩ := ih hms.2 (by dsimp only; exact hg.toGrows.at hat)
        (fails_note_bind.mp h)
      refine ⟨sourceItem m content :: es, .cons hi hc (hnode ▸ hs), ?_⟩
      rw [under_sourceItem]
      exact hg.trans hg'

/-- A package that is written is whole. -/
theorem writePackage_writes
    (hms : ∀ record n, Told c p v.node record n → ∀ m ∈ record.modules, m.SlashFree)
    (h : Returns (writePackage c p folder isRoot) v y v') :
    ∃ d fs, Disk.Ensures v.disk (folder.below [Text.ofString sourcesFolder]) d ∧
      Whole c isRoot p v.node (packageFolders ++ fs) v'.node ∧
        Disk.Gains d (under (v.disk.place folder) fs) v'.disk := by
  obtain ⟨rs, u, record, d, u₁, u₂, hread, hreq, hd, hmodules, hmanifest, rfl, rfl⟩ :=
    returns_writePackage.mp h
  obtain ⟨htold, hdisk⟩ := fetchResources_eq hread
  have htold : Told c p v.node record u.node := ⟨rs, htold, hreq⟩
  rw [hdisk] at hd
  obtain ⟨-, hens⟩ := Disk.Ensures.of_returns_folders hd
  obtain ⟨hsources, -, hfolder, -⟩ := hens.at_place isName_sources.2
  obtain ⟨es, hs, hg⟩ := writeModules_writes (hms record _ htold)
    (by dsimp only; exact hsources) hmodules
  dsimp only at hs hg
  obtain ⟨content, hc, hnode, hg'⟩ := writeText_writes hmanifest (hg.toGrows.at hfolder)
  refine ⟨d, es ++ [manifestItem content], hens, ?_, ?_⟩
  · dsimp only
    exact hnode ▸ .mk htold hs hc
  · rw [under_append]
    exact hg.trans hg'

/-- A package that fails leaves part of it. -/
theorem writePackage_halts
    (hms : ∀ record n, Told c p v.node record n → ∀ m ∈ record.modules, m.SlashFree)
    (h : Fails (writePackage c p folder isRoot) v e v') :
    ∃ d fs, Disk.Creates v.disk (folder.below [Text.ofString sourcesFolder]) d ∧
      Disk.Gains d (under (v.disk.place folder) fs) v'.disk ∧
        (fs = [] ∨ Disk.Ensures v.disk (folder.below [Text.ofString sourcesFolder]) d ∧
          Part c isRoot p v.node (packageFolders ++ fs)) := by
  obtain ⟨v₁, hfiles, -, hdisk⟩ := fails_notingFailure (fails_note_bind.mp h)
  rw [hdisk]
  unfold writeFiles at hfiles
  rw [join_sources, join_manifest] at hfiles
  have hnone : ∀ {d}, Disk.Creates v.disk (folder.below [Text.ofString sourcesFolder]) d →
      ∃ d' fs, Disk.Creates v.disk (folder.below [Text.ofString sourcesFolder]) d' ∧
        Disk.Gains d' (under (v.disk.place folder) fs) d ∧
          (fs = [] ∨ Disk.Ensures v.disk (folder.below [Text.ofString sourcesFolder]) d' ∧
            Part c isRoot p v.node (packageFolders ++ fs)) := fun hd =>
    ⟨_, [], hd, .refl _, .inl rfl⟩
  rcases fails_bind.mp hfiles with hread | ⟨rs, u, hread, h₁⟩
  · obtain ⟨-, hsame⟩ := fetchResources_eq hread
    rw [hsame]
    exact hnone (.refl _ _)
  obtain ⟨htold, hsame⟩ := fetchResources_eq hread
  rcases fails_bind.mp h₁ with hrecord | ⟨record, u', hrecord, h₂⟩
  · obtain ⟨-, rfl⟩ := fails_ofResult.mp hrecord
    rw [hsame]
    exact hnone (.refl _ _)
  obtain ⟨hreq, rfl⟩ := returns_ofResult.mp hrecord
  have htold : Told c p v.node record u'.node := ⟨rs, htold, hreq⟩
  rcases fails_bind.mp h₂ with hfolders | ⟨⟨⟩, u₀, hfolders, h₃⟩
  · obtain ⟨fault, d, hd, -, rfl⟩ := fails_onDisk.mp hfolders
    rw [hsame] at hd
    exact hnone (hd.after_eq ▸ Disk.creates_ensureFolders v.disk _)
  obtain ⟨d, hd, rfl⟩ := returns_onDisk.mp hfolders
  rw [hsame] at hd
  obtain ⟨-, hens⟩ := Disk.Ensures.of_returns_folders hd
  obtain ⟨hsources, -, hfolder, -⟩ := hens.at_place isName_sources.2
  have hslash := hms record _ htold
  rcases fails_bind.mp h₃ with hmodules | ⟨⟨⟩, u₁, hmodules, h₄⟩
  · obtain ⟨es, hs, hg⟩ := writeModules_halts hslash (by dsimp only; exact hsources) hmodules
    exact ⟨d, es, hens.gains, hg, .inr ⟨hens, .sources htold hs⟩⟩
  obtain ⟨es, hs, hg⟩ := writeModules_writes hslash (by dsimp only; exact hsources) hmodules
  dsimp only at hs hg
  rcases fails_bind.mp h₄ with hmanifest | ⟨⟨⟩, u₂, -, h₅⟩
  · rcases writeText_halts hmanifest (hg.toGrows.at hfolder) with hsame | ⟨fault, hc, hg'⟩
    · exact ⟨d, es, hens.gains, hsame ▸ hg, .inr ⟨hens, .sources htold hs.first⟩⟩
    · refine ⟨d, es ++ [manifestItem .empty], hens.gains, ?_, .inr ⟨hens, .spoilt htold hs hc⟩⟩
      rw [under_append]
      exact hg.trans hg'
  · exact absurd (fails_note_bind.mp h₅) not_fails_pure

end Skeleton

end MoveSkeleton
