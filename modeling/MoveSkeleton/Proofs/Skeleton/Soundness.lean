import MoveSkeleton.Proofs.Skeleton.Confinement

/-! A sound disk stays sound: whatever the node tells, a run puts no name on the disk that the disk
could not hold. -/
namespace MoveSkeleton

namespace Disk

variable {d d' : Disk} {q : Path} {es : List DiskItem} {name : Text}

/-- Nothing that is new has a name of its own that the disk could not hold. -/
theorem Sound.gains (hd : d.Sound) (hg : Gains d es d')
    (hes : ∀ e ∈ es, ∃ l name, e.1 = l ++ [name] ∧
      Path.size name ≤ maxName ∧ ∀ x ∈ name.points, Path.Storable x) : d'.Sound := by
  intro l hl
  induction l using List.reverseRecOn with
  | nil => simp
  | append_singleton l name ih =>
    have hfolder : (d'.item? l).isSome := by
      rw [item?_eq_folder_of_isSome (by simp) hl]
      rfl
    refine List.forall_mem_append.mpr ⟨ih hfolder, List.forall_mem_singleton.mpr ?_⟩
    by_cases hm : l ++ [name] ∈ es.map (·.1)
    · obtain ⟨e, he, hk⟩ := List.mem_map.mp hm
      obtain ⟨l', name', heq, hname⟩ := hes e he
      obtain ⟨-, hlast⟩ := List.append_inj' (hk.symm.trans heq) rfl
      obtain rfl := List.singleton_inj.mp hlast
      exact hname
    · rw [hg.items, overlay_of_notMem hm] at hl
      exact hd _ hl name (by simp)

theorem Sound.ensureFolders (hd : d.Sound) (p : Path) : (after (ensureFolders p) d).Sound := by
  by_cases hf : DiskFault.ofPath? p = none
  · obtain ⟨es, hg, hes⟩ := creates_ensureFolders d p
    refine hd.gains hg fun e he => ?_
    obtain ⟨-, -, before, name, rest, hparts, hn, hr⟩ := hes e he
    obtain ⟨s, -, hlast⟩ := reaches_append.mp hr
    rcases (enter_eq_ok_iff.mp (reaches_singleton.mp hlast)).2 with ⟨hup, -⟩ | ⟨-, -, hsize, -, heq⟩
    · exact absurd hup hn
    · exact ⟨s.location, name, congrArg Spot.location heq, hsize,
        Path.ofPath?_eq_none_iff.mp hf name (by simp [hparts])⟩
  · refine after_bind (P := Sound) (fun _ h => ?_) fun _ h =>
      absurd (returns_checkPath.mp h).1 hf
    rw [fails_checkPath h]
    exact hd

theorem Sound.writeFile (hd : d.Sound) (p : Path) (content : ByteArray) :
    (after (writeFile p content) d).Sound := by
  rcases returns_or_fails (Disk.writeFile p content) d with ⟨_, h⟩ | ⟨_, h⟩
  · obtain ⟨hf, l, name, hp, -, hd'⟩ := returns_writeFile.mp h
    obtain ⟨parts, hparts, -⟩ := hp.way
    rw [hd']
    refine hd.put (List.forall_mem_append.mpr ⟨hd l (by rw [hp.folder]; rfl),
      List.forall_mem_singleton.mpr ⟨hp.name_short, ?_⟩⟩) fun k hk => ?_
    · exact Path.ofPath?_eq_none_iff.mp hf name (by simp [hparts])
    · obtain ⟨a, k, rfl⟩ := List.exists_cons_of_ne_nil hk
      rfl
  · rw [fails_writeFile h]
    exact hd

theorem Sound.removeFolder (hd : d.Sound) (hn : name ≠ "..") :
    (after (removeFolder (q.below [name])) d).Sound := by
  have hless : ∀ {d' : Disk}, (∀ k, d'.item? k = d.item? k ∨ d'.item? k = none) → d'.Sound := by
    intro d' h k hk
    rcases h k with hsame | hnone
    · exact hd k (hsame ▸ hk)
    · rw [hnone] at hk
      cases hk
  rcases returns_or_fails (Disk.removeFolder (q.below [name])) d with ⟨_, h⟩ | ⟨_, h⟩
  · obtain ⟨-, -, l, -, hfolder, -, hd'⟩ := (returns_removeFolder hn).mp h
    rw [hd']
    refine hless fun k => ?_
    rw [item?_removed (by simp) hfolder]
    split
    · exact .inr rfl
    · exact .inl rfl
  · rcases fails_removeFolder hn h with hd' | ⟨l, -, hfolder, hd'⟩
    · rw [hd']
      exact hd
    · rw [hd']
      refine hless fun k => ?_
      rw [item?_empty (by simp) hfolder]
      split
      · exact .inr rfl
      · exact .inl rfl

end Disk

namespace Skeleton

open Resolution Activity

variable {α β : Type} {c : Client} {root p : PackageId} {folder target : Path} {isRoot : Bool}

/-- Whether it returns or fails, the step keeps a sound disk sound. -/
def KeepsSound (a : Activity α) : Prop :=
  ∀ w : World, w.disk.Sound → (after a w).disk.Sound

theorem keepsSound_of_disk {a : Activity α} (h : ∀ w, (after a w).disk = w.disk) : KeepsSound a :=
  fun w hw => by rwa [h w]

theorem keepsSound_bind {a : Activity α} {f : α → Activity β} (ha : KeepsSound a)
    (hf : ∀ x, KeepsSound (f x)) : KeepsSound (a >>= f) := fun w hw =>
  after_bind (P := fun v : World => v.disk.Sound) (fun _ _ => ha w hw) fun x _ => hf x _ (ha w hw)

theorem keepsSound_onDisk {a : Disk.Action α} (h : ∀ d : Disk, d.Sound → (after a d).Sound) :
    KeepsSound (onDisk a) := fun w hw => by
  rw [after_onDisk]
  exact h w.disk hw

theorem keepsSound_note (e : Event) : KeepsSound (note e) :=
  keepsSound_of_disk fun _ => rfl

theorem keepsSound_ofResult (r : Except Failure α) : KeepsSound (ofResult r) :=
  keepsSound_of_disk fun _ => rfl

theorem keepsSound_fetchResources (account : Text) : KeepsSound (c.fetchResources account) :=
  keepsSound_of_disk fun w => c.readResources_disk account w

theorem keepsSound_fetchInterface (account module : Text) :
    KeepsSound (c.fetchInterface account module) :=
  keepsSound_of_disk fun w => c.readInterface_disk account module w

theorem keepsSound_writeText (file : Path) (t : Text) : KeepsSound (writeText file t) := by
  intro w hw
  obtain ⟨content, h⟩ := after_writeText file t w
  rw [h]
  exact hw.writeFile file content

theorem keepsSound_writeModules (account : Text) (ms : List Text) :
    KeepsSound (writeModules c account folder ms) := by
  induction ms with
  | nil => exact keepsSound_of_disk fun _ => rfl
  | cons m ms ih =>
    refine keepsSound_bind (keepsSound_fetchInterface _ _) fun i => ?_
    refine keepsSound_bind (keepsSound_writeText _ _) fun _ => ?_
    exact keepsSound_bind (keepsSound_note _) fun _ => ih

theorem keepsSound_writePackage : KeepsSound (writePackage c p folder isRoot) := by
  refine keepsSound_bind (keepsSound_note _) fun _ => ?_
  have hfiles : KeepsSound (writeFiles c p folder isRoot) := by
    refine keepsSound_bind (keepsSound_fetchResources _) fun rs => ?_
    refine keepsSound_bind (keepsSound_ofResult _) fun record => ?_
    refine keepsSound_bind (keepsSound_onDisk fun _ hd => hd.ensureFolders _) fun _ => ?_
    refine keepsSound_bind (keepsSound_writeModules _ _) fun _ => ?_
    refine keepsSound_bind (keepsSound_writeText _ _) fun _ => ?_
    exact keepsSound_bind (keepsSound_note _) fun _ => keepsSound_of_disk fun _ => rfl
  intro w hw
  rw [(run_notingFailure _ _ _ w).2.2]
  exact hfiles w hw

theorem keepsSound_writeDependencies (ds : List Dependency) :
    KeepsSound (writeDependencies c folder ds) := by
  induction ds with
  | nil => exact keepsSound_of_disk fun _ => rfl
  | cons d ds ih => exact keepsSound_bind keepsSound_writePackage fun _ => ih

theorem keepsSound_clear {name : Text} (hn : name ≠ "..") :
    KeepsSound (clear (target.below [name])) := by
  unfold clear
  refine keepsSound_bind (keepsSound_of_disk fun _ => rfl) fun _ => ?_
  refine keepsSound_bind (keepsSound_ofResult _) fun found => ?_
  split
  · exact keepsSound_bind (keepsSound_note _) fun _ => keepsSound_onDisk fun _ hd =>
      hd.removeFolder hn
  · exact keepsSound_of_disk fun _ => rfl

theorem keepsSound_resolve : KeepsSound (resolve c root) := by
  refine keepsSound_of_disk fun w => ?_
  rw [after_resolve, resolveFrom_disk]

/-- Whatever a node answers, and whether it returns or fails, a run keeps a sound disk sound. -/
theorem keepsSound_create (hname : Path.IsName root.name) : KeepsSound (create c root target) := by
  unfold create dependenciesFolder
  simp only [Path.join_of_isPart hname.1]
  refine keepsSound_bind (keepsSound_clear hname.2) fun _ => ?_
  refine keepsSound_bind keepsSound_resolve fun dependencies => ?_
  refine keepsSound_bind (keepsSound_note _) fun _ => ?_
  refine keepsSound_bind keepsSound_writePackage fun _ => ?_
  refine keepsSound_bind (keepsSound_onDisk fun _ hd => hd.ensureFolders _) fun _ => ?_
  exact keepsSound_bind (keepsSound_writeDependencies _) fun _ => keepsSound_of_disk fun _ => rfl

end Skeleton

end MoveSkeleton
