import MoveSkeleton.Proofs.Skeleton.Halting

/-! What a run leaves behind when it fails, at whichever of its steps. -/
namespace MoveSkeleton.Skeleton

open Resolution Activity

variable {c : Client} {v w w' : World} {root : PackageId} {folder target : Path}
  {ds : List Dependency} {e : Failure} {x : Unit}

/-- Where clearing fails nothing is new. -/
theorem fails_clear {name : Text} (hn : name ≠ "..")
    (h : Fails (clear (target.below [name])) v e v') (k : Location) :
    v'.disk.item? k = v.disk.item? k ∨ v'.disk.item? k = none := by
  unfold clear at h
  rw [fails_get_bind] at h
  rcases fails_bind.mp h with hfound | ⟨found, u, hfound, hrest⟩
  · rw [(fails_ofResult.mp hfound).2]
    exact .inl rfl
  obtain ⟨-, rfl⟩ := returns_ofResult.mp hfound
  cases found with
  | false => exact absurd hrest not_fails_pure
  | true =>
    rw [if_pos rfl] at hrest
    obtain ⟨fault, d, hd, -, rfl⟩ := fails_onDisk.mp (fails_note_bind.mp hrest)
    rcases Disk.fails_removeFolder hn hd with rfl | ⟨l, -, hfolder, rfl⟩
    · exact .inl rfl
    · dsimp only
      rw [Disk.item?_empty (by simp) hfolder]
      split
      · exact .inr rfl
      · exact .inl rfl

/-- Once it has been cleared, the folder of the root package is vacant. -/
theorem vacant_of_clear {name : Text} (hn : name ≠ "..") (hdirect : w.disk.Direct target)
    (hsound : w.disk.Sound) (h : Returns (clear (target.below [name])) w x v) :
    v.disk.Vacant (target.below [name]) (Text.ofString sourcesFolder) := by
  have hplace := place_of_clear hn h (target.below [name])
  constructor
  · rw [hplace]
    exact gone_of_clear hn hdirect hsound h
  · rw [hplace]
    exact fun d hd => founds_of_clear hn isName_sources.2 hdirect h hd

/-- A run fails at one of its five steps, after those before it have returned. -/
theorem fails_create (hname : Path.IsPart root.name) :
    Fails (create c root target) w e w' ↔
      Fails (clear (target.below [root.name])) w e w' ∨
      ∃ u, Returns (clear (target.below [root.name])) w () u ∧
        (Fails (resolve c root) u e w' ∨
        ∃ dependencies u₁ v, Returns (resolve c root) u dependencies u₁ ∧
          v = { u₁ with events := u₁.events ++ [.collected dependencies.length] } ∧
          (Fails (writePackage c root (target.below [root.name]) true) v e w' ∨
          ∃ y u₂, Returns (writePackage c root (target.below [root.name]) true) v y u₂ ∧
            (Fails (onDisk (Disk.ensureFolders ((target.below [root.name]).below
                [Text.ofString Manifest.dependenciesFolder]))) u₂ e w' ∨
            ∃ d, Returns (Disk.ensureFolders ((target.below [root.name]).below
                [Text.ofString Manifest.dependenciesFolder])) u₂.disk () d ∧
              Fails (writeDependencies c ((target.below [root.name]).below
                [Text.ofString Manifest.dependenciesFolder]) (dependencies.map (·.2)))
                { u₂ with disk := d } e w'))) := by
  unfold create dependenciesFolder
  simp only [Path.join_of_isPart hname, join_dependencies]
  constructor
  · intro h
    rcases fails_bind.mp h with hclear | ⟨⟨⟩, u, hclear, h₁⟩
    · exact .inl hclear
    refine .inr ⟨u, hclear, ?_⟩
    rcases fails_bind.mp h₁ with hresolve | ⟨dependencies, u₁, hresolve, h₂⟩
    · exact .inl hresolve
    refine .inr ⟨dependencies, u₁, _, hresolve, rfl, ?_⟩
    rcases fails_bind.mp (fails_note_bind.mp h₂) with hroot | ⟨y, u₂, hroot, h₃⟩
    · exact .inl hroot
    refine .inr ⟨y, u₂, hroot, ?_⟩
    rcases fails_bind.mp h₃ with hfolder | ⟨⟨⟩, u₃, hfolder, h₄⟩
    · exact .inl hfolder
    obtain ⟨d, hd, rfl⟩ := returns_onDisk.mp hfolder
    rcases fails_bind.mp h₄ with hwrite | ⟨_, _, -, h₅⟩
    · exact .inr ⟨d, hd, hwrite⟩
    · exact absurd h₅ not_fails_pure
  · rintro (hclear | ⟨u, hclear, hresolve | ⟨dependencies, u₁, v, hresolve, rfl, h⟩⟩)
    · exact fails_bind.mpr (.inl hclear)
    · exact fails_bind.mpr (.inr ⟨(), u, hclear, fails_bind.mpr (.inl hresolve)⟩)
    refine fails_bind.mpr (.inr ⟨(), u, hclear, fails_bind.mpr (.inr ⟨dependencies, u₁, hresolve,
      fails_note_bind.mpr (fails_bind.mpr ?_)⟩)⟩)
    rcases h with hroot | ⟨y, u₂, hroot, hfolder | ⟨d, hd, hwrite⟩⟩
    · exact .inl hroot
    · exact .inr ⟨y, u₂, hroot, fails_bind.mpr (.inl hfolder)⟩
    · exact .inr ⟨y, u₂, hroot, fails_bind.mpr (.inr ⟨(), _, returns_onDisk.mpr ⟨d, hd, rfl⟩,
        fails_bind.mpr (.inl hwrite)⟩)⟩

/-- What a run leaves that fails. If the folder of the root package cannot be cleared, nothing is
new; if the dependencies cannot be resolved, that folder is not there; and if a package fails, those
before it stand whole. -/
inductive Aftermath (c : Client) (root : PackageId) (folder : Path) (w : World) (e : Failure)
    (w' : World) : Prop where
  | clearing (fails : Fails (clear folder) w e w')
    (less : ∀ k, w'.disk.item? k = w.disk.item? k ∨ w'.disk.item? k = none)
  | resolving {u} (clears : Returns (clear folder) w () u) (fails : Fails (resolve c root) u e w')
    (gone : w'.disk.Holds (w.disk.place folder) [])
  | writing {u u' dependencies} (clears : Returns (clear folder) w () u)
    (resolves : Returns (resolve c root) u dependencies u')
    (remains : Remains c root folder (w.disk.place folder) (dependencies.map (·.2))
      { u' with events := u'.events ++ [.collected dependencies.length] } e w')

/-- Once the folder of the root package has been cleared, a manifest with a text in it is that of a
whole package. -/
theorem Aftermath.finished {u : World} {k : Location} {content : ByteArray}
    (h : Aftermath c root folder w e w') (hclear : Returns (clear folder) w () u)
    (hitem : w'.disk.item? (w.disk.place folder ++ (k ++ [Text.ofString Manifest.fileName])) =
      some (some content)) (hne : content ≠ .empty) :
    ∃ dependencies u', Returns (resolve c root) u dependencies u' ∧
      Finished c w'.disk (w.disk.place folder) root (dependencies.map (·.2)) u'.node k := by
  cases h with
  | clearing fails => exact absurd hclear fails.not_returns
  | resolving _ _ gone =>
    rw [gone] at hitem
    cases hitem
  | @writing _ u' dependencies clears resolves remains =>
    obtain ⟨-, rfl⟩ := clears.unique hclear
    exact ⟨dependencies, u', resolves, remains.finished hitem hne⟩

/-- What is left by each step of a run, if it fails. -/
theorem aftermath_of_fails (hname : Path.IsName root.name) (hdirect : w.disk.Direct target)
    (hsound : w.disk.Sound) (hms : ∀ q ∈ w.node.packages, ∀ m ∈ q.modules, m.SlashFree)
    (hds : ∀ u u' dependencies, Returns (clear (target.below [root.name])) w () u →
      Returns (resolve c root) u dependencies u' →
        (∀ d ∈ dependencies.map (·.2), d.folder.SlashFree) ∧
          ((dependencies.map (·.2)).map Dependency.folder).Nodup)
    (h : Fails (create c root target) w e w') :
    Aftermath c root (target.below [root.name]) w e w' := by
  rcases (fails_create hname.1).mp h with hclear | ⟨u, hclear, h₁⟩
  · exact .clearing hclear (fails_clear hname.2 hclear)
  have hvacant := vacant_of_clear hname.2 hdirect hsound hclear
  have hplace := place_of_clear hname.2 hclear (target.below [root.name])
  have hdisk : (after (resolve c root) u).disk = u.disk := by
    rw [after_resolve, resolveFrom_disk]
  have hlater : u.node.Later (after (resolve c root) u).node := by
    rw [after_resolve]
    exact later_resolveFrom c root [] u
  rcases h₁ with hresolve | ⟨dependencies, u₁, v, hresolve, hv, h₂⟩
  · rw [hresolve.after_eq] at hdisk
    refine .resolving hclear hresolve ?_
    rw [hdisk, ← hplace]
    exact hvacant.gone
  obtain ⟨hslash, hnodup⟩ := hds u u₁ dependencies hclear hresolve
  rw [hresolve.after_eq] at hdisk hlater
  have hnode : v.node = u₁.node := hv ▸ rfl
  have hms : ∀ q ∈ v.node.packages, ∀ m ∈ q.modules, m.SlashFree := fun q hq =>
    hms q (clear_node hclear ▸ hlater.packages (hnode ▸ hq))
  have hnames : ∀ d ∈ dependencies.map (·.2), Path.IsName d.folder := fun d hd =>
    isName_folder (hslash d hd)
  refine .writing hclear hresolve ?_
  have hsame : v.disk = u.disk := hv ▸ hdisk
  rw [← hsame] at hplace hvacant
  rw [← hplace, ← hv]
  rcases h₂ with hroot | ⟨y, u₂, hroot, hfolder | ⟨d, hd, hwrite⟩⟩
  · obtain ⟨es, hpart, hholds⟩ := writePackage_remains hvacant hms hroot
    exact .ofRoot hroot hpart hholds
  · obtain ⟨fault, d, hd, -, -⟩ := fails_onDisk.mp hfolder
    obtain ⟨d', hd', -⟩ := dependenciesFolder_returns hvacant hms hroot
    exact absurd hd' hd.not_returns
  · exact remains_of_dependencies hvacant hms hnames hnodup hroot hd hwrite

/-- A run that fails leaves the packages before the one that failed, each of them whole and as the
node told of it when it was asked, of that one a part whose manifest has no text, if there is one,
and of those after it nothing. So where there is a manifest with a text, there is a whole package.
Outside the folder of the root package it changes nothing, but for folders that were missing on the
way to it. -/
theorem create_halts (hname : Path.IsName root.name) (hdirect : w.disk.Direct target)
    (hsound : w.disk.Sound) (hms : ∀ q ∈ w.node.packages, ∀ m ∈ q.modules, m.SlashFree)
    (hds : ∀ u u' dependencies, Returns (clear (target.join root.name)) w () u →
      Returns (resolve c root) u dependencies u' →
        (∀ d ∈ dependencies.map (·.2), d.folder.SlashFree) ∧
          ((dependencies.map (·.2)).map Dependency.folder).Nodup)
    (h : Fails (create c root target) w e w') :
    w.disk.Confined (target.join root.name) w'.disk ∧
      Aftermath c root (target.join root.name) w e w' ∧
      ∀ u, Returns (clear (target.join root.name)) w () u → ∀ k content, content ≠ .empty →
        w'.disk.item? (w.disk.place (target.join root.name) ++
          (k ++ [Text.ofString Manifest.fileName])) = some (some content) →
        ∃ dependencies u', Returns (resolve c root) u dependencies u' ∧
          Finished c w'.disk (w.disk.place (target.join root.name)) root (dependencies.map (·.2))
            u'.node k := by
  have hjoin : target.join root.name = target.below [root.name] := Path.join_of_isPart hname.1
  rw [hjoin] at hds ⊢
  have haftermath := aftermath_of_fails hname hdirect hsound hms hds h
  refine ⟨?_, haftermath, fun u hu k content hne hitem => haftermath.finished hu hitem hne⟩
  rw [← h.after_eq]
  refine (tame_create hname (fun q hq m hm => (isName_sourceFile (hms q hq m hm)).stays)
    fun u u' dependencies hclear hresolve d hd => ?_).disk
  exact (isName_folder ((hds u u' dependencies hclear hresolve).1 d hd)).stays

namespace Sample

open MoveSkeleton.Sample Resolution.Sample

theorem stale_sound : stale.Sound :=
  Disk.sound_empty.put (by decide) fun k hk => by
    obtain ⟨name, rest, rfl⟩ := List.exists_cons_of_ne_nil hk
    rfl

/-- A dependency that cannot be read at first, and of which the second module is missing. The
account of the other is not there. -/
def interrupted : World where
  node := [(client.resourcesUrl "0xa",
      [answer (resources [package "P" [("0xb", "Q"), ("0xc", "R")] ["p"]])]),
    (client.resourcesUrl "0xb", [.failure .connect "refused",
      answer (resources [package "Q" [] ["q1", "q2"]])]),
    (client.interfaceUrl "0xa" "p", [answer (interface "0xa" "p")]),
    (client.interfaceUrl "0xb" "q1", [answer (interface "0xb" "q1")])]
  disk := stale

/-- The folder of the root package in the working folder. -/
def rootFolder : Path := (Path.ofText ".").below ["P"]

private def clearedWorld : World := after (clear rootFolder) interrupted

private def writtenRoot : World :=
  after (writePackage client rootPackage rootFolder true) (beforeRoot clearedWorld)

private def preparedFolder : Path := rootFolder.below [Text.ofString Manifest.dependenciesFolder]

private def preparedWorld : World :=
  { writtenRoot with disk := after (Disk.ensureFolders preparedFolder) writtenRoot.disk }

theorem interrupted_clear : Returns (clear rootFolder) interrupted () clearedWorld :=
  returns_of_fst (eq_ok (by decide +kernel))

/-- What the steps of the run come to, evaluated together as each takes up the world of the one
before. -/
private theorem interrupted_steps :
    (walked clearedWorld).pending = [] ∧ (walked clearedWorld).failure = none ∧
    (walked clearedWorld).recorded =
      [(⟨"0xb", "Q"⟩, ⟨"0xb", "Q"⟩), (⟨"0xc", "R"⟩, ⟨"0xc", "R"⟩)] ∧
    ((writePackage client rootPackage rootFolder true).run.run
      (beforeRoot clearedWorld)).1.toOption.isSome ∧
    ((Disk.ensureFolders preparedFolder).run.run writtenRoot.disk).1.toOption = some () ∧
    ((writeDependencies client preparedFolder ((walked clearedWorld).recorded.map (·.2))).run.run
      preparedWorld).1.toOption.isNone := by
  decide +kernel

theorem interrupted_recorded : (walked clearedWorld).recorded =
    [(⟨"0xb", "Q"⟩, ⟨"0xb", "Q"⟩), (⟨"0xc", "R"⟩, ⟨"0xc", "R"⟩)] :=
  interrupted_steps.2.2.1

theorem interrupted_resolve : Returns (resolve client rootPackage) clearedWorld
    (walked clearedWorld).recorded (walked clearedWorld).world :=
  resolve_of_walked interrupted_steps.1 interrupted_steps.2.1

theorem interrupted_fails : ∃ e w',
    Fails (create client rootPackage (Path.ofText ".")) interrupted e w' := by
  obtain ⟨-, -, -, hwritten, hprepared, hfails⟩ := interrupted_steps
  obtain ⟨y, hy⟩ := ok_of_isSome hwritten
  obtain ⟨e, he⟩ := error_of_isNone hfails
  exact ⟨e, _, (fails_create (by decide)).mpr (.inr ⟨_, interrupted_clear, .inr ⟨_, _, _,
    interrupted_resolve, rfl, .inr ⟨y, _, returns_of_fst hy, .inr ⟨_,
      returns_of_fst (eq_ok hprepared), fails_of_fst he⟩⟩⟩⟩)⟩

end Sample

/-- For answers that change, and a dependency of which a module is missing. -/
theorem create_halts_interrupted :
    let c := MoveSkeleton.Sample.client
    let w := Sample.interrupted
    let root := Sample.rootPackage
    let target := Path.ofText "."
    Path.IsName root.name ∧ w.disk.Direct target ∧ w.disk.Sound ∧
      (∀ q ∈ w.node.packages, ∀ m ∈ q.modules, m.SlashFree) ∧
      (∀ u u' dependencies, Returns (clear (target.join root.name)) w () u →
        Returns (resolve c root) u dependencies u' →
          (∀ d ∈ dependencies.map (·.2), d.folder.SlashFree) ∧
            ((dependencies.map (·.2)).map Dependency.folder).Nodup) ∧
      ∃ e w', Fails (create c root target) w e w' ∧
        w.disk.Confined (target.join root.name) w'.disk ∧
        Aftermath c root (target.join root.name) w e w' ∧
        ∀ u, Returns (clear (target.join root.name)) w () u → ∀ k content, content ≠ .empty →
          w'.disk.item? (w.disk.place (target.join root.name) ++
            (k ++ [Text.ofString Manifest.fileName])) = some (some content) →
          ∃ dependencies u', Returns (resolve c root) u dependencies u' ∧
            Finished c w'.disk (w.disk.place (target.join root.name)) root
              (dependencies.map (·.2)) u'.node k := by
  intro c w root target
  have hdirect : w.disk.Direct target := ⟨⟨.here, []⟩, ["w"], [], rfl, rfl, by decide⟩
  have hms : ∀ q ∈ w.node.packages, ∀ m ∈ q.modules, m.SlashFree := by
    unfold Text.SlashFree
    decide +kernel
  have hds : ∀ u u' dependencies, Returns (clear (target.join root.name)) w () u →
      Returns (resolve c root) u dependencies u' →
        (∀ d ∈ dependencies.map (·.2), d.folder.SlashFree) ∧
          ((dependencies.map (·.2)).map Dependency.folder).Nodup := by
    intro u u' dependencies hclear hresolve
    obtain ⟨-, rfl⟩ := hclear.unique Sample.interrupted_clear
    obtain ⟨rfl, -⟩ := hresolve.unique Sample.interrupted_resolve
    rw [Sample.interrupted_recorded]
    unfold Text.SlashFree
    decide
  obtain ⟨e, w', h⟩ := Sample.interrupted_fails
  exact ⟨by decide, hdirect, Sample.stale_sound, hms, hds, e, w', h,
    create_halts (by decide) hdirect Sample.stale_sound hms hds h⟩

/-- The run has found no dependencies, and its root package fails. -/
def HaltsAtRoot (c : Client) (root : PackageId) (folder : Path) (w : World) (e : Failure)
    (w' : World) : Prop :=
  ∃ u dependencies u', Returns (clear folder) w () u ∧
    Returns (resolve c root) u dependencies u' ∧ dependencies = [] ∧
    Fails (writePackage c root folder true)
      { u' with events := u'.events ++ [.collected dependencies.length] } e w'

theorem HaltsAtRoot.fails {c : Client} {root : PackageId} {target : Path} {w w' : World}
    {e : Failure} (hname : Path.IsPart root.name)
    (h : HaltsAtRoot c root (target.below [root.name]) w e w') :
    Fails (create c root target) w e w' := by
  obtain ⟨u, dependencies, u', hclear, hresolve, -, hroot⟩ := h
  exact (fails_create hname).mpr
    (.inr ⟨u, hclear, .inr ⟨dependencies, u', _, hresolve, rfl, .inl hroot⟩⟩)

namespace Sample

open MoveSkeleton.Sample Resolution.Sample

/-- A root package whose manifest names a framework package that cannot be encoded. -/
def unwritable : World where
  node := [(client.resourcesUrl "0xa",
    [answer (resources [package "P" [("0x1", ⟨[.ofNat 0xd800]⟩)] []])])]
  disk := Disk.blank ["w"]

/-- A root package of which a module is missing. -/
def lacking : World where
  node := [(client.resourcesUrl "0xa", [answer (resources [package "P" [] ["p"]])])]
  disk := stale

theorem haltsAtRoot_of_walked {folder : Path} {w : World}
    (hclear : Returns (clear folder) w () w) (hp : (walked w).pending = [])
    (hf : (walked w).failure = none) (hrecorded : (walked w).recorded = [])
    (hfails : ((writePackage client rootPackage folder true).run.run
      (beforeRoot w)).1.toOption.isNone) :
    ∃ e, HaltsAtRoot client rootPackage folder w e
      (after (writePackage client rootPackage folder true) (beforeRoot w)) := by
  obtain ⟨e, he⟩ := error_of_isNone hfails
  exact ⟨e, w, _, _, hclear, resolve_of_walked hp hf, hrecorded, fails_of_fst he⟩

theorem unwritable_halts : ∃ e w', HaltsAtRoot client rootPackage outFolder unwritable e w' ∧
    (w'.disk.item? ["w", "out", "P", "Move.toml"]).isSome := by
  obtain ⟨hp, hf, hrecorded, hfails, hmanifest⟩ :
      (walked unwritable).pending = [] ∧ (walked unwritable).failure = none ∧
      (walked unwritable).recorded = [] ∧
      ((writePackage client rootPackage outFolder true).run.run
        (beforeRoot unwritable)).1.toOption.isNone ∧
      ((after (writePackage client rootPackage outFolder true) (beforeRoot unwritable)).disk.item?
        ["w", "out", "P", "Move.toml"]).isSome := by
    decide +kernel
  have hclear : Returns (clear outFolder) unwritable () unwritable := rfl
  obtain ⟨e, he⟩ := haltsAtRoot_of_walked hclear hp hf hrecorded hfails
  exact ⟨e, _, he, hmanifest⟩

theorem lacking_halts : ∃ e w',
    HaltsAtRoot client rootPackage (roundabout.below ["P"]) lacking e w' ∧
      (w'.disk.item? ["w", "P", "deps"]).isSome := by
  obtain ⟨hp, hf, hrecorded, hfails, hdeps⟩ :
      (walked lacking).pending = [] ∧ (walked lacking).failure = none ∧
      (walked lacking).recorded = [] ∧
      ((writePackage client rootPackage (roundabout.below ["P"]) true).run.run
        (beforeRoot lacking)).1.toOption.isNone ∧
      ((after (writePackage client rootPackage (roundabout.below ["P"]) true)
        (beforeRoot lacking)).disk.item? ["w", "P", "deps"]).isSome := by
    decide +kernel
  have hclear : Returns (clear (roundabout.below ["P"])) lacking () lacking := rfl
  obtain ⟨e, he⟩ := haltsAtRoot_of_walked hclear hp hf hrecorded hfails
  exact ⟨e, _, he, hdeps⟩

end Sample

/-- Of a root package whose manifest cannot be encoded, a manifest is left without its text. And
where the way to the target leads up behind a folder that is missing, the folder of the
dependencies may stand from before. -/
theorem failing_root_leaves_more :
    let c := MoveSkeleton.Sample.client
    let root := Sample.rootPackage
    Path.IsName root.name ∧
    (let w := Sample.unwritable
      let target := Path.ofText "out"
      w.disk.Sound ∧ w.disk.exists? (target.join root.name) = .ok false ∧
        (∀ q ∈ w.node.packages, ∀ m ∈ q.modules, m.SlashFree) ∧
        ∃ e w', HaltsAtRoot c root (target.join root.name) w e w' ∧
          Fails (create c root target) w e w' ∧
          (w'.disk.item? ["w", "out", "P", "Move.toml"]).isSome) ∧
    (let w := Sample.lacking
      let target := Sample.roundabout
      w.disk.Sound ∧ w.disk.exists? (target.join root.name) = .ok false ∧
        (∀ q ∈ w.node.packages, ∀ m ∈ q.modules, m.SlashFree) ∧
        ∃ e w', HaltsAtRoot c root (target.join root.name) w e w' ∧
          Fails (create c root target) w e w' ∧
          (w'.disk.item? ["w", "P", "deps"]).isSome) := by
  have hsound : Sample.unwritable.disk.Sound :=
    Disk.sound_empty.put (by decide) fun k hk => by
      obtain ⟨name, rest, rfl⟩ := List.exists_cons_of_ne_nil hk
      rfl
  have hunwritable : ∀ q ∈ Sample.unwritable.node.packages, ∀ m ∈ q.modules, m.SlashFree := by
    unfold Text.SlashFree
    decide +kernel
  have hlacking : ∀ q ∈ Sample.lacking.node.packages, ∀ m ∈ q.modules, m.SlashFree := by
    unfold Text.SlashFree
    decide +kernel
  obtain ⟨e, w', h, hmanifest⟩ := Sample.unwritable_halts
  obtain ⟨e', u', h', hdeps⟩ := Sample.lacking_halts
  exact ⟨by decide,
    ⟨hsound, rfl, hunwritable, e, w', h, HaltsAtRoot.fails (by decide) h, hmanifest⟩,
    ⟨Sample.stale_sound, rfl, hlacking, e', u', h', HaltsAtRoot.fails (by decide) h', hdeps⟩⟩

end MoveSkeleton.Skeleton
