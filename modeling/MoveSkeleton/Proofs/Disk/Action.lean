import MoveSkeleton.Proofs.Disk.Path
import MoveSkeleton.Proofs.Disk.Walk
import MoveSkeleton.Proofs.Returns

/-! What the actions on a disk add to it, and when they return. -/
namespace MoveSkeleton.Disk

variable {d d' : Disk} {s : Spot} {l k : Location} {p q : Path} {name : Text} {parts : List Text}
  {new : Tree} {content : ByteArray} {x : Unit}

/-- The path names a member, there or to come, of the folder at the location. -/
structure Places (d : Disk) (p : Path) (l : Location) (name : Text) : Prop where
  short : Path.size p.text ≤ maxPath
  way : ∃ parts, p.parts = parts ++ [name] ∧ d.Reaches (d.start p) parts ⟨l, 0⟩
  folder : d.item? l = some none
  down : name ≠ ".."
  name_short : Path.size name ≤ maxName

theorem locateLast_eq_ok_iff {last : Option Text} : d.locateLast p = .ok (s, last) ↔
    Path.size p.text ≤ maxPath ∧ d.Reaches (d.start p) p.parts.dropLast s ∧ d.Opens s ∧
      last = p.parts.getLast? := by
  unfold locateLast Reaches
  by_cases hs : maxPath < Path.size p.text
  · simp [hs, Nat.not_le.mpr hs]
  · rw [if_neg hs, and_iff_right (Nat.le_of_not_lt hs)]
    cases p.parts.dropLast.foldlM d.enter (d.start p) with
    | error e => simp [bind, Except.bind]
    | ok u =>
      rw [opens_iff]
      constructor
      · intro h
        simp only [bind, Except.bind] at h
        split at h
        · next members hu =>
          obtain ⟨rfl, rfl⟩ := Prod.mk.inj (Except.ok.inj h)
          exact ⟨rfl, ⟨members, hu⟩, rfl⟩
        all_goals cases h
      · rintro ⟨hu, ⟨members, hm⟩, rfl⟩
        obtain rfl := Except.ok.inj hu
        simp only [bind, Except.bind, hm]
        rfl

/-- The last part is missing too where one before it is, or where nothing stands at the end of
those. -/
theorem locateLast_eq_missing_iff : d.locateLast p = .error .missing ↔
    Path.size p.text ≤ maxPath ∧ (d.Misses (d.start p) p.parts.dropLast ∨
      ∃ s, d.Reaches (d.start p) p.parts.dropLast s ∧ d.at? s = none) := by
  unfold locateLast Misses Reaches
  by_cases hs : maxPath < Path.size p.text
  · simp [hs, Nat.not_le.mpr hs]
  · rw [if_neg hs, and_iff_right (Nat.le_of_not_lt hs)]
    cases p.parts.dropLast.foldlM d.enter (d.start p) with
    | error e => simp [bind, Except.bind]
    | ok u =>
      simp only [bind, Except.bind]
      split <;> simp [*, pure, Except.pure]

theorem At.misses_below (hp : d.At p l) (h : d.Misses ⟨l, 0⟩ parts) :
    d.Misses (d.start (p.below parts)) (p.below parts).parts :=
  misses_append.mpr (.inr ⟨_, hp, h⟩)

/-- Where a folder is missing on the way, no folder can be created at the end of it. -/
theorem makeFolder_of_misses (hs : Path.size (q.below [name]).text ≤ maxPath)
    (h : d.Misses (d.start q) q.parts ∨ ∃ s, d.Reaches (d.start q) q.parts s ∧ d.at? s = none) :
    d.makeFolder (q.below [name]) = .error .missing := by
  have hlast : d.locateLast (q.below [name]) = .error .missing := by
    refine locateLast_eq_missing_iff.mpr ⟨hs, ?_⟩
    rwa [Path.parts_below, List.dropLast_concat]
  unfold makeFolder
  rw [hlast]
  rfl

theorem newMember_eq_ok_iff : newMember s name = .ok k ↔
    s.lost = 0 ∧ Path.size name ≤ maxName ∧ k = s.location ++ [name] := by
  unfold newMember
  split_ifs with hl hn
  · simp [Nat.pos_iff_ne_zero.mp hl]
  · simp [Nat.not_le.mpr hn]
  · simp [Nat.eq_zero_of_not_pos hl, Nat.le_of_not_lt hn, eq_comm]

private theorem places_of_newMember (h : d.locateLast p = .ok (s, some name)) (hn : name ≠ "..")
    (hk : newMember s name = .ok k) : d.Places p s.location name ∧ k = s.location ++ [name] := by
  obtain ⟨hshort, hr, ho, hlast⟩ := locateLast_eq_ok_iff.mp h
  obtain ⟨hl, hname, rfl⟩ := newMember_eq_ok_iff.mp hk
  have hs : s = ⟨s.location, 0⟩ := by rw [← hl]
  refine ⟨⟨hshort, ⟨_, (List.dropLast_append_getLast? _ hlast.symm).symm, hs ▸ hr⟩, ho hl, hn,
    hname⟩, rfl⟩

private theorem Places.locateLast (h : d.Places p l name) :
    d.locateLast p = .ok (⟨l, 0⟩, some name) ∧ newMember ⟨l, 0⟩ name = .ok (l ++ [name]) := by
  obtain ⟨parts, hp, hr⟩ := h.way
  constructor
  · refine locateLast_eq_ok_iff.mpr ⟨h.short, ?_, fun _ => h.folder, ?_⟩
    · simpa [hp] using hr
    · simp [hp]
  · exact newMember_eq_ok_iff.mpr ⟨rfl, h.name_short, rfl⟩

/-- What is done with the member of a folder that a path names is done where the path names one. -/
private theorem member_eq_ok_iff {α : Type} {bare up : DiskLapse} {f : Location → Except DiskLapse α}
    {y : α} :
    (do match ← d.locateLast p with
        | (_, none) => .error bare
        | (s, some name) => if name = ".." then .error up else f (← newMember s name)) = .ok y ↔
      ∃ l name, d.Places p l name ∧ f (l ++ [name]) = .ok y := by
  constructor
  · intro h
    cases hl : d.locateLast p with
    | error e => simp [hl, bind, Except.bind] at h
    | ok found =>
      obtain ⟨s, last⟩ := found
      cases last with
      | none => simp [hl, bind, Except.bind] at h
      | some name =>
        by_cases hn : name = ".."
        · simp [hl, bind, Except.bind, hn] at h
        · cases hk : newMember s name with
          | error e => simp [hl, bind, Except.bind, hn, hk] at h
          | ok k =>
            obtain ⟨hp, rfl⟩ := places_of_newMember hl hn hk
            simp only [hl, bind, Except.bind, hn, hk, if_false] at h
            exact ⟨s.location, name, hp, h⟩
  · rintro ⟨l, name, hp, h⟩
    obtain ⟨hl, hk⟩ := hp.locateLast
    simpa [hl, hk, hp.down, bind, Except.bind] using h

theorem makeFolder_eq_ok_iff : d.makeFolder p = .ok d' ↔ ∃ l name, d.Places p l name ∧
    d.item? (l ++ [name]) = none ∧
      d' = { d with root := d.root.put (l ++ [name]) .empty } := by
  unfold makeFolder
  refine member_eq_ok_iff.trans (exists₂_congr fun l name => and_congr_right fun _ => ?_)
  rw [get?_isSome]
  cases h : d.item? (l ++ [name]) <;> simp [pure, Except.pure, eq_comm]

theorem locateFile_eq_ok_iff : d.locateFile p = .ok k ↔ ∃ l name, d.Places p l name ∧
    d.item? (l ++ [name]) ≠ some none ∧ k = l ++ [name] := by
  have hfolder : ∀ l, d.item? l = some none ↔ ∃ members, d.root.get? l = some (.folder members) :=
    fun l => by simpa [Opens, at?] using opens_iff (d := d) (s := ⟨l, 0⟩)
  unfold locateFile
  refine member_eq_ok_iff.trans (exists₂_congr fun l name => and_congr_right fun _ => ?_)
  rw [ne_eq, hfolder]
  split
  · next members hm => simp [hm]
  · next hm => exact ⟨fun h => ⟨fun ⟨members, h'⟩ => hm members h', (Except.ok.inj h).symm⟩,
      fun h => h.2 ▸ rfl⟩

/-- A file, or an empty folder where nothing stands, is one more item. -/
theorem gains_put (hl : d.item? l = some none) (hnew : ∀ k ≠ [], new.item? k = none)
    (hold : ∀ y, d.item? (l ++ [name]) = some y → y.isSome ∧ new.content?.isSome) :
    Gains d [(l ++ [name], new.content?)]
      { d with root := d.root.put (l ++ [name]) new } := by
  have hput : ∀ k, ({ d with root := d.root.put (l ++ [name]) new } : Disk).item? k =
      Function.update d.item? (l ++ [name]) (some new.content?) k := by
    intro k
    rw [item?, Tree.item?_put (by simp) (by simpa [item?] using hl)]
    split
    · next h =>
      obtain ⟨m, rfl⟩ := h
      by_cases hm : m = []
      · simp [hm]
      · rw [List.drop_left, hnew m hm, Function.update_of_ne (by simpa using hm)]
        by_contra hne
        obtain ⟨c, hc⟩ := Option.ne_none_iff_exists'.mp (Ne.symm hne)
        have hsome : (d.item? (l ++ [name] ++ m)).isSome := by rw [hc]; rfl
        exact absurd (hold none (item?_eq_folder_of_isSome hm hsome)).1 (by simp)
    · next h =>
      rw [Function.update_of_ne]
      · rfl
      · rintro rfl
        exact h (List.prefix_refl _)
  refine ⟨⟨rfl, rfl, fun k y hy => ?_⟩, funext hput⟩
  rw [hput]
  by_cases hk : k = l ++ [name]
  · subst hk
    obtain ⟨hy, hc⟩ := hold y hy
    exact ⟨_, Function.update_self .., hc.trans hy.symm⟩
  · exact ⟨y, by rw [Function.update_of_ne hk, hy], rfl⟩

/-- A folder put where nothing stands is one more item. -/
theorem gains_empty (hl : d.item? l = some none) (hnone : d.item? (l ++ [name]) = none) :
    Gains d [(l ++ [name], none)] { d with root := d.root.put (l ++ [name]) .empty } := by
  have hempty : Tree.empty.content? = none := rfl
  refine hempty ▸ gains_put hl (fun k hk => ?_) (fun y hy => ?_)
  · obtain ⟨a, k, rfl⟩ := List.exists_cons_of_ne_nil hk
    rfl
  · rw [hnone] at hy
    cases hy

theorem gains_makeFolder (h : d.makeFolder p = .ok d') : ∃ l name, d.Places p l name ∧
    d.item? (l ++ [name]) = none ∧ Gains d [(l ++ [name], none)] d' := by
  obtain ⟨l, name, hp, hnone, rfl⟩ := makeFolder_eq_ok_iff.mp h
  exact ⟨l, name, hp, hnone, gains_empty hp.folder hnone⟩

/-- A path that names a member of a folder leads to that member once it is there. -/
theorem Places.at (h : d.Places p l name) (hg : Grows d d')
    (hsome : (d'.item? (l ++ [name])).isSome) : d'.At p (l ++ [name]) := by
  obtain ⟨parts, hp, hr⟩ := h.way
  unfold At
  rw [hp, hg.start]
  refine reaches_append.mpr ⟨⟨l, 0⟩, hg.reaches hr, reaches_singleton.mpr ?_⟩
  exact enter_eq_ok_iff.mpr ⟨hg.opens fun _ => h.folder,
    .inr ⟨h.down, rfl, h.name_short, hsome, rfl⟩⟩

theorem places_below (hq : d.At q l) (hl : d.item? l = some none) (hn : name ≠ "..")
    (hs : Path.size name ≤ maxName) (hp : Path.size (q.below [name]).text ≤ maxPath) :
    d.Places (q.below [name]) l name :=
  ⟨hp, ⟨q.parts, rfl, hq⟩, hl, hn, hs⟩

theorem Places.below_eq {k : Location} {n : Text} (h : d.Places (q.below [name]) k n)
    (hq : d.At q l) : k = l ∧ n = name := by
  obtain ⟨parts, hp, hr⟩ := h.way
  obtain ⟨hparts, hn⟩ := List.append_inj' hp (by rfl)
  obtain rfl := hparts
  exact ⟨congrArg Spot.location (hr.unique hq), (List.singleton_inj.mp hn).symm⟩

/-- What is reached under a name is not lost, and lies in a folder. -/
theorem Reaches.at_of_below {t : Spot}
    (h : d.Reaches (d.start (q.below [name])) (q.below [name]).parts t) (hn : name ≠ "..") :
    ∃ l, t = ⟨l ++ [name], 0⟩ ∧ d.At q l ∧ d.item? l = some none ∧
      Path.size name ≤ maxName := by
  obtain ⟨u, hu, hlast⟩ := reaches_append.mp h
  obtain ⟨ho, hstep⟩ := enter_eq_ok_iff.mp (reaches_singleton.mp hlast)
  rcases hstep with ⟨hdots, -⟩ | ⟨-, hlost, hs, -, rfl⟩
  · exact absurd hdots hn
  · refine ⟨u.location, rfl, ?_, ho hlost, hs⟩
    unfold At
    rw [← hlost]
    exact hu

theorem At.of_below (h : d.At (q.below [name]) (l ++ [name])) (hn : name ≠ "..") :
    d.At q l ∧ d.item? l = some none ∧ Path.size name ≤ maxName := by
  obtain ⟨k, hk, hat⟩ := Reaches.at_of_below h hn
  obtain rfl : l = k := (List.append_inj' (congrArg Spot.location hk) rfl).1
  exact hat

theorem returns_checkPath : Returns (checkPath p) d x d' ↔ DiskFault.ofPath? p = none ∧ d' = d := by
  unfold checkPath
  cases DiskFault.ofPath? p with
  | some fault => simp [not_returns_throw]
  | none => simp [returns_pure]

theorem returns_writeFile : Returns (writeFile p content) d x d' ↔
    DiskFault.ofPath? p = none ∧ ∃ l name, d.Places p l name ∧
      d.item? (l ++ [name]) ≠ some none ∧
        d' = { d with root := d.root.put (l ++ [name]) (.file content) } := by
  have hrun : Returns (writeFile p content) d x d' ↔ DiskFault.ofPath? p = none ∧
      ∃ k, d.locateFile p = .ok k ∧ d' = { d with root := d.root.put k (.file content) } := by
    unfold writeFile
    rw [returns_bind]
    simp only [returns_checkPath, returns_get_bind]
    constructor
    · rintro ⟨_, _, ⟨hf, rfl⟩, h⟩
      refine ⟨hf, ?_⟩
      split at h
      · next k hk => exact ⟨k, hk, returns_set.mp h⟩
      · exact absurd h not_returns_throw
    · rintro ⟨hf, k, hk, rfl⟩
      refine ⟨(), d, ⟨hf, rfl⟩, ?_⟩
      rw [hk]
      exact returns_set.mpr rfl
  simp only [hrun, locateFile_eq_ok_iff]
  constructor
  · rintro ⟨hf, _, ⟨l, name, hp, hne, rfl⟩, rfl⟩
    exact ⟨hf, l, name, hp, hne, rfl⟩
  · rintro ⟨hf, l, name, hp, hne, rfl⟩
    exact ⟨hf, _, ⟨l, name, hp, hne, rfl⟩, rfl⟩

/-- A file put where no folder stands is one more item. -/
theorem gains_file (hl : d.item? l = some none) (hne : d.item? (l ++ [name]) ≠ some none) :
    Gains d [(l ++ [name], some content)]
      { d with root := d.root.put (l ++ [name]) (.file content) } := by
  have hfile : (Tree.file content).content? = some content := rfl
  refine hfile ▸ gains_put hl (fun k hk => ?_) (fun y hy => ?_)
  · obtain ⟨a, k, rfl⟩ := List.exists_cons_of_ne_nil hk
    rfl
  · cases y with
    | none => exact absurd hy hne
    | some content => exact ⟨rfl, rfl⟩

/-- A file that is written is one more item in the folder that its path goes through. -/
theorem gains_writeFile (h : Returns (writeFile (q.below [name]) content) d x d')
    (hq : d.At q l) : Gains d [(l ++ [name], some content)] d' := by
  obtain ⟨-, k, n, hp, hne, rfl⟩ := returns_writeFile.mp h
  obtain ⟨rfl, rfl⟩ := hp.below_eq hq
  exact gains_file hp.folder hne

/-- What is written to a file is read from it. -/
theorem readFile_of_writeFile (h : Returns (writeFile p content) d x d') :
    d'.readFile p = .ok content := by
  obtain ⟨hf, l, name, hp, hne, rfl⟩ := returns_writeFile.mp h
  have hgains : Gains d [(l ++ [name], some content)]
      { d with root := d.root.put (l ++ [name]) (.file content) } := gains_file hp.folder hne
  have hitem := congrFun hgains.items (l ++ [name])
  rw [overlay_singleton, Function.update_self] at hitem
  generalize { d with root := d.root.put (l ++ [name]) (.file content) } = d' at hgains hitem ⊢
  obtain ⟨parts, hparts, hway⟩ := hp.way
  have hreaches : d'.Reaches (d'.start p) p.parts ⟨l ++ [name], 0⟩ := by
    rw [hgains.start, hparts]
    refine reaches_append.mpr ⟨⟨l, 0⟩, hgains.reaches hway, reaches_singleton.mpr ?_⟩
    refine enter_eq_ok_iff.mpr ⟨hgains.opens fun _ => hp.folder, .inr ?_⟩
    exact ⟨hp.down, rfl, hp.name_short, by rw [hitem]; rfl, rfl⟩
  have hlocate : d'.locate p = .ok ⟨l ++ [name], 0⟩ := by
    rw [locate, if_neg (Nat.not_lt.mpr hp.short)]
    exact hreaches
  obtain ⟨t, ht, hc⟩ : ∃ t, d'.root.get? (l ++ [name]) = some t ∧ t.content? = some content :=
    Option.map_eq_some_iff.mp hitem
  cases t with
  | folder members => cases hc
  | file content' =>
    obtain rfl := Option.some.inj hc
    simp [readFile, hf, hlocate, at?, ht]

end MoveSkeleton.Disk
