import MoveSkeleton.Proofs.Skeleton.Confinement

/-! Dependencies side by side: their folders have names of their own, and what is written of one
changes nothing in the folder of another. -/
namespace MoveSkeleton.Skeleton

variable {c : Client} {v : World} {q : Path} {l : Location} {name : Text} {d : Dependency}
  {ds ds' before later : List Dependency}

theorem bounds_extends (q : Path) (l : Location) (hname : name ≠ "..") :
    Bounds (q.below [name]) fun d d' => d.At q l → d.Extends (l ++ [name]) d' where
  refl d _ := .refl d _
  trans h h' hq := (h hq).trans (h' ((h hq).toGrows.at hq))
  ensureFolders := Disk.extends_ensureFolders [name] (Disk.descends_singleton.mpr hname) le_rfl
  writeFile := Disk.extends_writeFile [name] (Disk.descends_singleton.mpr hname)

/-- Whether it is written or fails, of a package in a folder there is nothing outside its own. -/
theorem writePackage_extends (c : Client) (p : PackageId) (isRoot : Bool) (hname : name ≠ "..")
    (hn : v.node.SourcesStay) (hq : v.disk.At q l) :
    v.node.Later (after (writePackage c p (q.below [name]) isRoot) v).node ∧
      v.disk.Extends (l ++ [name]) (after (writePackage c p (q.below [name]) isRoot) v).disk := by
  have hK := bounds_extends q l hname
  have h : Keeps _ v (after (writePackage c p ((q.below [name]).below []) isRoot) v) :=
    hK.keeps_writePackage rfl hn
  rw [Path.below_nil] at h
  exact ⟨h.node, h.disk hq⟩

theorem writeDependencies_append : writeDependencies c q (ds ++ ds') =
    writeDependencies c q ds >>= fun _ => writeDependencies c q ds' := by
  induction ds with
  | nil => rfl
  | cons d ds ih =>
    rw [List.cons_append, writeDependencies, writeDependencies, ih, bind_assoc]

/-- Dependencies change nothing outside their own folders, whether they are written or one fails. -/
theorem writeDependencies_extends (hnames : ∀ d ∈ ds, Path.IsName d.folder)
    (hn : v.node.SourcesStay) (hq : v.disk.At q l) :
    v.node.Later (after (writeDependencies c q ds) v).node ∧
      v.disk.Grows (after (writeDependencies c q ds) v).disk ∧
      ∀ k, (∀ d ∈ ds, ¬ l ++ [d.folder] <+: k) →
        (after (writeDependencies c q ds) v).disk.item? k = v.disk.item? k := by
  induction ds generalizing v with
  | nil => exact ⟨.refl _, .refl _, fun _ _ => rfl⟩
  | cons d ds ih =>
    rw [List.forall_mem_cons] at hnames
    rw [writeDependencies, Path.join_of_isPart hnames.1.1]
    obtain ⟨hlater, hext⟩ := writePackage_extends c d.target false hnames.1.2 hn hq
    rcases returns_or_fails (writePackage c d.target (q.below [d.folder]) false) v with
      ⟨y, h⟩ | ⟨e, h⟩
    · rw [h.after_bind]
      obtain ⟨hlater', hgrows, hsame⟩ := ih hnames.2 (hn.later hlater) (hext.toGrows.at hq)
      refine ⟨hlater.trans hlater', hext.toGrows.trans hgrows, fun k hk => ?_⟩
      rw [List.forall_mem_cons] at hk
      exact (hsame k hk.2).trans (hext.apart k hk.1)
    · rw [h.after_bind]
      exact ⟨hlater, hext.toGrows, fun k hk => hext.apart k (hk d List.mem_cons_self)⟩

theorem not_prefix_beside {f g : Text} (hfg : f ≠ g) (k : Location) :
    ¬ l ++ [f] <+: l ++ [g] ++ k := by
  rw [List.append_assoc, List.prefix_append_right_inj, List.singleton_append, List.cons_prefix_cons]
  exact fun h => hfg h.1

/-- In a folder that is none of theirs they change nothing. -/
theorem item?_of_neighbours (hnames : ∀ d ∈ ds, Path.IsName d.folder) (hn : v.node.SourcesStay)
    (hq : v.disk.At q l) (hne : ∀ d ∈ ds, d.folder ≠ name) (k : Location) :
    (after (writeDependencies c q ds) v).disk.item? (l ++ [name] ++ k) =
      v.disk.item? (l ++ [name] ++ k) :=
  (writeDependencies_extends hnames hn hq).2.2 _ fun d hd => not_prefix_beside (hne d hd) k

/-- If all folders have names of their own, whatever stands in the folder of one dependency is what
was there before, until it is written itself, and from then on what that left there. If one before
it fails it stays as it was. -/
theorem writeDependencies_apart
    (hnames : ∀ g ∈ before ++ d :: later, Path.IsName g.folder)
    (hnodup : ((before ++ d :: later).map Dependency.folder).Nodup) (hn : v.node.SourcesStay)
    (hq : v.disk.At q l) (k : Location) :
    (∀ e u, Fails (writeDependencies c q before) v e u →
      (after (writeDependencies c q (before ++ d :: later)) v).disk.item? (l ++ [d.folder] ++ k) =
        v.disk.item? (l ++ [d.folder] ++ k)) ∧
    ∀ u, Returns (writeDependencies c q before) v () u →
      u.disk.item? (l ++ [d.folder] ++ k) = v.disk.item? (l ++ [d.folder] ++ k) ∧
        (after (writeDependencies c q (before ++ d :: later)) v).disk.item?
            (l ++ [d.folder] ++ k) =
          (after (writePackage c d.target (q.join d.folder) false) u).disk.item?
            (l ++ [d.folder] ++ k) := by
  rw [List.map_append, List.map_cons, List.nodup_middle, ← List.map_append,
    List.nodup_cons] at hnodup
  have hne : ∀ g ∈ before ++ later, g.folder ≠ d.folder := fun g hg he =>
    hnodup.1 (he ▸ List.mem_map_of_mem hg)
  rw [List.forall_mem_append] at hne
  rw [List.forall_mem_append, List.forall_mem_cons] at hnames
  obtain ⟨hlater, hgrows, -⟩ := writeDependencies_extends (c := c) hnames.1 hn hq
  have hsame := item?_of_neighbours (c := c) hnames.1 hn hq hne.1 k
  refine ⟨fun e u h => ?_, fun u h => ?_⟩
  · rw [writeDependencies_append, h.after_bind, ← h.after_eq, hsame]
  · rw [h.after_eq] at hlater hgrows hsame
    refine ⟨hsame, ?_⟩
    rw [writeDependencies_append, h.after_bind, writeDependencies,
      Path.join_of_isPart hnames.2.1.1]
    obtain ⟨hlater', hext⟩ := writePackage_extends c d.target false hnames.2.1.2
      (hn.later hlater) (hgrows.at hq)
    rcases returns_or_fails (writePackage c d.target (q.below [d.folder]) false) u with
      ⟨y, hd⟩ | ⟨e, hd⟩
    · rw [hd.after_bind]
      exact item?_of_neighbours hnames.2.2 ((hn.later hlater).later hlater')
        (hext.toGrows.at (hgrows.at hq)) hne.2 k
    · rw [hd.after_bind]

/-- The name of a folder tells of a package and its account, but for one leading `0x`. So packages
of accounts that begin with it have folders of different names; and if there are no slashes in what
they are named by, none is written over another, whether they are all written or one fails. -/
theorem folders_apart (c : Client) (q : Path) (l : Location) (v : World) (ds : List Dependency) :
    (∀ name name' account account' : Text, CodePoint.char '_' ∉ account.points →
      CodePoint.char '_' ∉ account'.points →
        (folderName name account = folderName name' account' ↔
          name = name' ∧ ∃ bare, Bares account bare ∧ Bares account' bare)) ∧
    (ds.Nodup → (∀ d ∈ ds, IsHexAccount d.account) → (ds.map Dependency.folder).Nodup) ∧
    (ds.Nodup → (∀ d ∈ ds, IsPlainAccount d.account ∧ d.name.SlashFree) → v.node.SourcesStay →
      v.disk.At q l → ∀ before d later, ds = before ++ d :: later → ∀ k,
        (∀ e u, Fails (writeDependencies c q before) v e u →
          (after (writeDependencies c q ds) v).disk.item? (l ++ [d.folder] ++ k) =
            v.disk.item? (l ++ [d.folder] ++ k)) ∧
        ∀ u, Returns (writeDependencies c q before) v () u →
          u.disk.item? (l ++ [d.folder] ++ k) = v.disk.item? (l ++ [d.folder] ++ k) ∧
            (after (writeDependencies c q ds) v).disk.item? (l ++ [d.folder] ++ k) =
              (after (writePackage c d.target (q.join d.folder) false) u).disk.item?
                (l ++ [d.folder] ++ k)) := by
  refine ⟨fun name name' account account' ha ha' => ?_, nodup_folders, ?_⟩
  · have hbare : bareAccount account = bareAccount account' ↔
        ∃ bare, Bares account bare ∧ Bares account' bare :=
      ⟨fun h => ⟨_, bareAccount_eq_iff.mp h, bareAccount_eq_iff.mp rfl⟩, fun ⟨_, h, h'⟩ =>
        (bareAccount_eq_iff.mpr h).trans (bareAccount_eq_iff.mpr h').symm⟩
    rw [folderName_eq_iff ha ha', hbare]
  · rintro hnodup hplain hn hq before d later rfl k
    have hnames : ∀ g ∈ before ++ d :: later, Path.IsName g.folder := fun g hg =>
      isName_folderName (hplain g hg).1 (hplain g hg).2
    have hfolders := nodup_folders hnodup fun g hg => (hplain g hg).1.isHexAccount
    exact writeDependencies_apart hnames hfolders hn hq k

namespace Sample

open MoveSkeleton.Sample Resolution.Sample

/-- Two packages of one name, and one whose name is that of the folder of the first. -/
def namesakes : World where
  node := [(client.resourcesUrl "0xb",
      [answer (resources [package "Q" [] [], package "Q_b" [] []])]),
    (client.resourcesUrl "0xc", [answer (resources [package "Q" [] []])])]
  disk := Disk.blank ["w"]

/-- Two packages of one name, of accounts whose spellings differ in a part that leads nowhere. -/
def dotted : World where
  node := [(client.resourcesUrl "0xb", [answer (resources [package "Q" [] []])]),
    (client.resourcesUrl "0xb/.",
      [answer (resources [package "Q" [("0x1", "AptosStdlib")] []])])]
  disk := Disk.blank ["w"]

end Sample

/-- For two packages of one name, and one whose name is that of the folder of the first. -/
theorem folders_apart_namesakes :
    let c := MoveSkeleton.Sample.client
    let q : Path := ⟨.here, []⟩
    let l : Location := ["w"]
    let v := Sample.namesakes
    let d : Dependency := ⟨"0xb", "Q"⟩
    let before : List Dependency := [⟨"0xc", "Q"⟩]
    let later : List Dependency := [⟨"0xb", "Q_b"⟩]
    folderName "Q" "0xb" = folderName "Q" "b" ∧
      ((before ++ d :: later).map Dependency.folder).Nodup ∧
      ∃ u, Returns (writeDependencies c q before) v () u ∧
        ∀ k, u.disk.item? (l ++ [d.folder] ++ k) = v.disk.item? (l ++ [d.folder] ++ k) ∧
          (after (writeDependencies c q (before ++ d :: later)) v).disk.item?
              (l ++ [d.folder] ++ k) =
            (after (writePackage c d.target (q.join d.folder) false) u).disk.item?
              (l ++ [d.folder] ++ k) := by
  intro c q l v d before later
  have hplain : ∀ g ∈ before ++ d :: later, IsPlainAccount g.account ∧ g.name.SlashFree := by
    intro g hg
    rcases List.mem_cons.mp hg with rfl | hg
    · exact ⟨⟨"c", rfl, by decide⟩, by decide⟩
    · rcases List.mem_pair.mp hg with rfl | rfl <;>
        exact ⟨⟨"b", rfl, by decide⟩, by decide⟩
  have hnodup : (before ++ d :: later).Nodup := by decide
  have hat : v.disk.At q l := Disk.reaches_nil.mpr rfl
  have hstay : v.node.SourcesStay := by decide +kernel
  have hbefore : ((writeDependencies c q before).run.run v).1.toOption = some () := by
    decide +kernel
  have hreturns := returns_of_fst (Resolution.Sample.eq_ok hbefore)
  obtain ⟨hname, hfolders, hkeeps⟩ := folders_apart c q l v (before ++ d :: later)
  exact ⟨(hname _ _ _ _ (by decide) (by decide)).mpr ⟨rfl, "b", .stripped "b", .unchanged nofun⟩,
    hfolders hnodup fun g hg => (hplain g hg).1.isHexAccount, _, hreturns,
    fun k => (hkeeps hnodup hplain hstay hat before d later rfl k).2 _ hreturns⟩

/-- Names that are not the same may lead to the same folder. -/
theorem dotted_account_overwrites :
    let c := MoveSkeleton.Sample.client
    let q : Path := ⟨.here, []⟩
    let v := Sample.dotted
    let d : Dependency := ⟨"0xb", "Q"⟩
    let later : List Dependency := [⟨"0xb/.", "Q"⟩]
    (d :: later).Nodup ∧ (∀ g ∈ d :: later, IsHexAccount g.account) ∧
      ((d :: later).map Dependency.folder).Nodup ∧
      ∃ u u', Returns (writeDependencies c q [d]) v () u ∧
        Returns (writeDependencies c q (d :: later)) v () u' ∧
          u'.disk.item? ["w", d.folder, Text.ofString Manifest.fileName] ≠
            u.disk.item? ["w", d.folder, Text.ofString Manifest.fileName] := by
  intro c q v d later
  have hhex : ∀ g ∈ d :: later, IsHexAccount g.account := by
    intro g hg
    rcases List.mem_pair.mp hg with rfl | rfl
    · exact ⟨"b", rfl, by decide⟩
    · exact ⟨"b/.", rfl, by decide⟩
  have hruns : ((writeDependencies c q [d]).run.run v).1.toOption = some () ∧
      ((writeDependencies c q (d :: later)).run.run v).1.toOption = some () ∧
        (after (writeDependencies c q (d :: later)) v).disk.item?
            ["w", d.folder, Text.ofString Manifest.fileName] ≠
          (after (writeDependencies c q [d]) v).disk.item?
            ["w", d.folder, Text.ofString Manifest.fileName] := by
    decide +kernel
  obtain ⟨hfirst, hboth, hne⟩ := hruns
  exact ⟨by decide, hhex, by decide, _, _, returns_of_fst (Resolution.Sample.eq_ok hfirst),
    returns_of_fst (Resolution.Sample.eq_ok hboth), hne⟩

end MoveSkeleton.Skeleton
