import MoveSkeleton.Proofs.Disk.Action

/-! Folders created together with those that are missing on the way to them. -/
namespace MoveSkeleton.Disk

variable {d d' e : Disk} {l : Location} {p q : Path} {name : Text} {parts more : List Text}
  {x : Unit}

/-- The path leads to a folder. -/
def HasFolder (d : Disk) (p : Path) : Prop :=
  ∃ t, d.Reaches (d.start p) p.parts t ∧ d.Opens t

/-- The path goes through a name that leads to the location. -/
def Passes (d : Disk) (p : Path) (l : Location) : Prop :=
  ∃ (before : List Text) (name : Text) (after : List Text), p.parts = before ++ name :: after ∧
    name ≠ ".." ∧ d.Reaches (d.start p) (before ++ [name]) ⟨l, 0⟩

/-- All that is new are folders that the path goes through. -/
def Creates (d : Disk) (p : Path) (d' : Disk) : Prop :=
  ∃ es, Gains d es d' ∧ ∀ e ∈ es, e.2 = none ∧ d.item? e.1 = none ∧ d'.Passes p e.1

/-- The path leads to a folder, and what is new are folders that it goes through. -/
structure Ensures (d : Disk) (p : Path) (d' : Disk) : Prop where
  short : Path.size p.text ≤ maxPath
  folder : d'.HasFolder p
  gains : ∃ es, Gains d es d' ∧ ∀ e ∈ es, e.2 = none ∧ d.item? e.1 = none ∧ d'.Passes p e.1

/-- Nothing but folders stands on the way down from the location. -/
def Passable (d : Disk) (l : Location) (parts : List Text) : Prop :=
  ∀ k, k <+: parts → ∀ content, d.item? (l ++ k) ≠ some (some content)

theorem passable_nil : d.Passable l [] ↔ ∀ content, d.item? l ≠ some (some content) := by
  simp [Passable, List.prefix_nil]

theorem passable_cons : d.Passable l (name :: parts) ↔
    (∀ content, d.item? l ≠ some (some content)) ∧ d.Passable (l ++ [name]) parts := by
  unfold Passable
  constructor
  · intro h
    refine ⟨fun content => ?_, fun k hk content => ?_⟩
    · simpa using h [] List.nil_prefix content
    · simpa using h (name :: k) (List.cons_prefix_cons.mpr ⟨rfl, hk⟩) content
  · rintro ⟨hl, h⟩ k hk content
    cases k with
    | nil => simpa using hl content
    | cons part k =>
      obtain ⟨rfl, hrest⟩ := List.cons_prefix_cons.mp hk
      simpa using h k hrest content

theorem HasFolder.mono (h : d.HasFolder p) (hg : Grows d d') : d'.HasFolder p := by
  obtain ⟨t, ht, ho⟩ := h
  exact ⟨t, hg.start p ▸ hg.reaches ht, hg.opens ho⟩

theorem At.hasFolder (h : d.At p l) (hl : d.item? l = some none) : d.HasFolder p :=
  ⟨_, h, fun _ => hl⟩

theorem isFolder?_eq_true_iff : d.isFolder? p = .ok true ↔
    DiskFault.ofPath? p = none ∧ Path.size p.text ≤ maxPath ∧ d.HasFolder p := by
  unfold isFolder? HasFolder
  cases DiskFault.ofPath? p with
  | some fault => simp
  | none =>
    simp only [Option.isSome_none, Bool.false_eq_true, if_false, true_and, ← exists_and_left,
      ← and_assoc, ← locate_eq_ok_iff]
    cases d.locate p with
    | error lapse => cases lapse <;> simp
    | ok t => simp [any_isFolder_at?_iff]

theorem exists?_eq_true_iff : d.exists? p = .ok true ↔ DiskFault.ofPath? p = none ∧
    Path.size p.text ≤ maxPath ∧ ∃ t, d.Reaches (d.start p) p.parts t := by
  unfold exists?
  cases DiskFault.ofPath? p with
  | some fault => simp
  | none =>
    simp only [Option.isSome_none, Bool.false_eq_true, if_false, true_and, ← exists_and_left,
      ← locate_eq_ok_iff]
    cases d.locate p with
    | error lapse => cases lapse <;> simp
    | ok t => simp

theorem returns_tolerate {lapse : DiskLapse} :
    Returns (tolerate p lapse) d x d' ↔ d.isFolder? p = .ok true ∧ d' = d := by
  unfold tolerate
  rw [returns_get_bind]
  constructor
  · intro h
    split at h
    · next hf => exact ⟨hf, (returns_pure.mp h).2⟩
    all_goals exact absurd h not_returns_throw
  · rintro ⟨hf, rfl⟩
    rw [hf]
    exact returns_pure.mpr ⟨rfl, rfl⟩

/-- A folder that is there is not created. -/
theorem makeFolder_of_hasFolder (h : d.HasFolder p) (hs : Path.size p.text ≤ maxPath) :
    d.makeFolder p = .error .exists := by
  obtain ⟨t, ht, ho⟩ := h
  unfold makeFolder
  by_cases hp : p.parts = []
  · have hl : d.locateLast p = .ok (d.start p, none) := by
      rw [hp, reaches_nil] at ht
      exact locateLast_eq_ok_iff.mpr ⟨hs, by simp [hp, reaches_nil], ht ▸ ho, by simp [hp]⟩
    simp [hl, bind, Except.bind]
  · obtain ⟨before, name, hlast⟩ := (List.eq_nil_or_concat' p.parts).resolve_left hp
    rw [hlast] at ht
    obtain ⟨s, hs', hstep⟩ := reaches_append.mp ht
    obtain ⟨hos, hstep⟩ := enter_eq_ok_iff.mp (reaches_singleton.mp hstep)
    have hl : d.locateLast p = .ok (s, some name) :=
      locateLast_eq_ok_iff.mpr ⟨hs, by simpa [hlast] using hs', hos, by simp [hlast]⟩
    rcases hstep with ⟨rfl, -⟩ | ⟨hn, hlost, hshort, hsome, -⟩
    · simp [hl, bind, Except.bind]
    · have hk : newMember s name = .ok (s.location ++ [name]) :=
        newMember_eq_ok_iff.mpr ⟨hlost, hshort, rfl⟩
      rw [← get?_isSome] at hsome
      simp [hl, bind, Except.bind, hn, hk, hsome]

theorem returns_ensureFolder : Returns (ensureFolder p) d x d' ↔
    d.makeFolder p = .ok d' ∨ d.isFolder? p = .ok true ∧ d' = d := by
  unfold ensureFolder
  rw [returns_get_bind]
  constructor
  · intro h
    split at h
    · next hm => exact .inl (hm.trans (congrArg _ (returns_set.mp h).symm))
    · exact absurd h not_returns_throw
    · exact .inr (returns_tolerate.mp h)
  · rintro (hm | ⟨hf, rfl⟩)
    · rw [hm]
      exact returns_set.mpr rfl
    · obtain ⟨-, hs, hfolder⟩ := isFolder?_eq_true_iff.mp hf
      rw [makeFolder_of_hasFolder hfolder hs]
      exact returns_tolerate.mpr ⟨hf, rfl⟩

theorem Ensures.of_isFolder? (h : d.isFolder? p = .ok true) : Ensures d p d := by
  obtain ⟨-, hs, hfolder⟩ := isFolder?_eq_true_iff.mp h
  exact ⟨hs, hfolder, [], .refl d, by simp⟩

theorem Ensures.of_makeFolder (h : d.makeFolder p = .ok d') : Ensures d p d' := by
  obtain ⟨l, name, hp, hnone, hg⟩ := gains_makeFolder h
  have hfolder : d'.item? (l ++ [name]) = some none := hg.folder_of_mem (by simp) (by simp)
  have hat := hp.at hg.toGrows (by simp [hfolder])
  refine ⟨hp.short, hat.hasFolder hfolder, _, hg, fun e he => ?_⟩
  obtain rfl := List.mem_singleton.mp he
  obtain ⟨parts, hparts, -⟩ := hp.way
  exact ⟨rfl, hnone, parts, name, [], hparts, hp.down, hparts ▸ hat⟩

theorem Ensures.of_returns (h : Returns (ensureFolder p) d x d') : Ensures d p d' := by
  rcases returns_ensureFolder.mp h with hm | ⟨hf, rfl⟩
  · exact .of_makeFolder hm
  · exact .of_isFolder? hf

theorem Creates.refl (d : Disk) (p : Path) : Creates d p d :=
  ⟨[], .refl d, by simp⟩

theorem Creates.grows (h : Creates d p d') : Grows d d' := by
  obtain ⟨es, hg, -⟩ := h
  exact hg.toGrows

/-- Folders on the way to a path are on the way to every path below it. -/
theorem Creates.below (h : Creates d q d') (h' : Creates d' (q.below parts) e) :
    Creates d (q.below parts) e := by
  obtain ⟨es, hg, hes⟩ := h
  obtain ⟨fs, hg', hfs⟩ := h'
  have hstart : e.start (q.below parts) = d'.start q := hg'.start q
  refine ⟨es ++ fs, hg.trans hg', fun a ha => ?_⟩
  rcases List.mem_append.mp ha with ha | ha
  · obtain ⟨hx, hnone, before, name, after, hq, hn, hr⟩ := hes a ha
    refine ⟨hx, hnone, before, name, after ++ parts, by simp [hq], hn, ?_⟩
    rw [hstart]
    exact hg'.reaches hr
  · obtain ⟨hx, hnone, hway⟩ := hfs a ha
    refine ⟨hx, ?_, hway⟩
    by_contra hne
    obtain ⟨y, hy⟩ := Option.ne_none_iff_exists'.mp hne
    obtain ⟨z, hz, -⟩ := hg.kept _ y hy
    cases hz.symm.trans hnone

theorem Creates.mono (h : Creates d q d') : Creates d (q.below parts) d' :=
  h.below (.refl d' _)

theorem Ensures.grows (h : Ensures d p d') : Grows d d' :=
  Creates.grows h.gains

theorem Ensures.below (h : Ensures d q d') (h' : Ensures d' (q.below parts) e) :
    Ensures d (q.below parts) e :=
  ⟨h'.short, h'.folder, Creates.below h.gains h'.gains⟩

/-- The path to the first parts of a path. -/
def first (p : Path) (n : Nat) : Path :=
  { p with parts := p.parts.take n }

theorem first_zero : first p 0 = { p with parts := [] } := by
  simp [first]

private theorem first_below :
    first (q.below (parts ++ more)) (q.parts.length + parts.length) = q.below parts := by
  simp [first, Path.below, List.take_append, List.take_of_length_le]

/-- If something was missing, the folders on the way are created first. -/
theorem run_upTo_of_missing {n : Nat}
    (hm : d.makeFolder (first p (n + 1)) = .error .missing) :
    (ensureFolderUpTo p (n + 1)).run.run d =
      (ensureFolderUpTo p n >>= fun _ => ensureFolder (first p (n + 1))).run.run d := by
  unfold first at hm
  rw [ensureFolderUpTo, run_get_bind, hm]
  rfl

/-- Otherwise the folder is created or found at once, or not at all. -/
theorem run_upTo_of_ne {n : Nat}
    (hm : d.makeFolder (first p (n + 1)) ≠ .error .missing) :
    (ensureFolderUpTo p (n + 1)).run.run d = (ensureFolder (first p (n + 1))).run.run d := by
  unfold first at hm ⊢
  rw [ensureFolderUpTo, run_get_bind]
  unfold ensureFolder
  rw [run_get_bind]
  rcases hmade : d.makeFolder { p with parts := p.parts.take (n + 1) } with lapse | d'
  · cases lapse with
    | missing => exact absurd hmade hm
    | _ => rfl
  · rfl

/-- One more folder is created or found at once, or after those on the way to it. -/
theorem returns_upTo_succ {n : Nat} : Returns (ensureFolderUpTo p (n + 1)) d x d' ↔
    Returns (ensureFolder (first p (n + 1))) d x d' ∨
      d.makeFolder (first p (n + 1)) = .error .missing ∧
        ∃ e, Returns (ensureFolderUpTo p n) d () e ∧
          Returns (ensureFolder (first p (n + 1))) e x d' := by
  by_cases hm : d.makeFolder (first p (n + 1)) = .error .missing
  · have hnot : ¬ Returns (ensureFolder (first p (n + 1))) d x d' := by
      intro h
      rcases returns_ensureFolder.mp h with h | ⟨h, -⟩
      · cases hm.symm.trans h
      · obtain ⟨-, hs, hfolder⟩ := isFolder?_eq_true_iff.mp h
        cases hm.symm.trans (makeFolder_of_hasFolder hfolder hs)
    rw [Returns, run_upTo_of_missing hm, or_iff_right hnot, and_iff_right hm]
    exact returns_bind.trans ⟨fun ⟨_, h⟩ => h, fun h => ⟨(), h⟩⟩
  · rw [Returns, run_upTo_of_ne hm, or_iff_left fun h => hm h.1]
    rfl

theorem returns_upTo_of_last {n : Nat} (h : Returns (ensureFolder (first p n)) d x d') :
    Returns (ensureFolderUpTo p n) d x d' := by
  cases n with
  | zero =>
    rw [first_zero] at h
    exact h
  | succ n => exact returns_upTo_succ.mpr (.inl h)

theorem ensures_of_upTo {n : Nat} (h : Returns (ensureFolderUpTo p n) d x d') :
    Ensures d (first p n) d' := by
  induction n generalizing d' x with
  | zero =>
    rw [first_zero]
    exact .of_returns h
  | succ n ih =>
    have hp : first p (n + 1) = (first p n).below ((p.parts.drop n).take 1) := by
      simp [first, Path.below, List.take_add]
    rcases returns_upTo_succ.mp h with h | ⟨-, e, h₁, h₂⟩
    · exact .of_returns h
    · rw [hp] at h₂ ⊢
      exact (ih h₁).below (.of_returns h₂)

/-- What creating a folder and those on the way to it does. -/
theorem Ensures.of_returns_folders (h : Returns (ensureFolders p) d x d') :
    DiskFault.ofPath? p = none ∧ Ensures d p d' := by
  unfold ensureFolders at h
  obtain ⟨_, d₁, hc, hrun⟩ := returns_bind.mp h
  obtain ⟨hf, rfl⟩ := returns_checkPath.mp hc
  have hp : first p p.parts.length = p := by simp [first]
  exact ⟨hf, hp ▸ ensures_of_upTo hrun⟩

/-- A way down on which nothing but folders stands leads to a folder or to nothing. -/
theorem folder_or_missing (hl : d.item? l = some none) (hd : Descends parts)
    (hn : ∀ part ∈ parts, Path.size part ≤ maxName) (hp : d.Passable l parts) :
    d.item? (l ++ parts) = some none ∧ d.Reaches ⟨l, 0⟩ parts ⟨l ++ parts, 0⟩ ∨
      d.item? (l ++ parts) = none ∧ d.Misses ⟨l, 0⟩ parts := by
  induction parts using List.reverseRecOn with
  | nil => exact .inl ⟨by simpa using hl, by simp [reaches_nil]⟩
  | append_singleton parts name ih =>
    have hd := descends_append.mp hd
    have hname := descends_singleton.mp hd.2
    have hsize := hn name (by simp)
    rcases ih hd.1 (fun part h => hn part (by simp [h]))
      fun k hk => hp k (hk.trans (List.prefix_append ..)) with ⟨hf, hr⟩ | ⟨hnone, hm⟩
    · rcases hx : d.item? (l ++ (parts ++ [name])) with _ | _ | content
      · refine .inr ⟨rfl, misses_append.mpr (.inr ⟨_, hr, misses_singleton.mpr ?_⟩)⟩
        obtain ⟨members, hat⟩ := opens_iff.mp (fun _ => hf : d.Opens ⟨l ++ parts, 0⟩)
        have hgone : (d.root.get? (l ++ (parts ++ [name]))).isSome = false := by
          rw [get?_isSome, hx]
          rfl
        simp [enter, hat, hname, Nat.not_lt.mpr hsize, hgone]
      · refine .inl ⟨rfl, reaches_append.mpr ⟨_, hr, reaches_singleton.mpr ?_⟩⟩
        exact enter_eq_ok_iff.mpr ⟨fun _ => hf, .inr ⟨hname, rfl, hsize, by simp [hx], by simp⟩⟩
      · exact absurd hx (hp _ (List.prefix_refl _) content)
    · refine .inr ⟨?_, misses_append.mpr (.inl hm)⟩
      by_contra hne
      obtain ⟨y, hy⟩ := Option.ne_none_iff_exists'.mp hne
      rw [← List.append_assoc] at hy
      have hsome : (d.item? (l ++ parts ++ [name])).isSome := by rw [hy]; rfl
      cases hnone.symm.trans (item?_eq_folder_of_isSome (by simp) hsome)

/-- Where the first parts lead is settled before, so that what is new is on the way from there. -/
theorem Creates.new_after (h : Creates d (q.below parts) d') (hq : d.At q l) :
    ∃ es, Gains d es d' ∧ ∀ e ∈ es, e.2 = none ∧
      ∃ k, k ≠ [] ∧ k <+: parts ∧ d'.Reaches ⟨l, 0⟩ k ⟨e.1, 0⟩ := by
  obtain ⟨es, hg, hes⟩ := h
  refine ⟨es, hg, fun e he => ?_⟩
  obtain ⟨hnone, hnew, before, name, after, hparts, hname, hr⟩ := hes e he
  have hq' : d'.Reaches (d'.start (q.below parts)) q.parts ⟨l, 0⟩ := hg.toGrows.at hq
  have hold : ¬ before ++ [name] <+: q.parts := by
    rintro ⟨c, hc⟩
    have hat : d.Reaches (d.start q) q.parts ⟨l, 0⟩ := hq
    rw [← hc] at hat
    obtain ⟨u, hu, -⟩ := reaches_append.mp hat
    have hu' : d'.Reaches (d'.start (q.below parts)) (before ++ [name]) u := by
      rw [hg.start]
      exact hg.reaches hu
    have hsome := hu.isSome hname
    rw [hu'.unique hr, hnew] at hsome
    cases hsome
  have hsplit : (before ++ [name]) ++ after = q.parts ++ parts := by simpa using hparts.symm
  rcases List.append_eq_append_iff.mp hsplit with ⟨c, hc, -⟩ | ⟨c, hc, hparts'⟩
  · exact absurd ⟨c, hc.symm⟩ hold
  · have hne : c ≠ [] := by
      rintro rfl
      exact hold ⟨[], by simpa using hc⟩
    rw [hc] at hr
    obtain ⟨u, hu, hrest⟩ := reaches_append.mp hr
    obtain rfl := hu.unique hq'
    exact ⟨hnone, c, hne, ⟨after, hparts'.symm⟩, hrest⟩

/-- If names lead on from there, what is new lies below. -/
theorem Creates.new_below (h : Creates d (q.below parts) d') (hq : d.At q l)
    (hd : Descends parts) : ∃ es, Gains d es d' ∧
      ∀ e ∈ es, e.2 = none ∧ ∃ k, k ≠ [] ∧ k <+: parts ∧ e.1 = l ++ k := by
  obtain ⟨es, hg, hes⟩ := h.new_after hq
  refine ⟨es, hg, fun e he => ?_⟩
  obtain ⟨hnone, k, hne, hk, hr⟩ := hes e he
  have hdown : Descends k := fun part hpart => hd part (hk.subset hpart)
  exact ⟨hnone, k, hne, hk, congrArg Spot.location (hr.down hdown hne).1⟩

/-- The folders on the way down from a location. -/
def foldersBelow (l : Location) : List Text → List DiskItem
  | [] => []
  | name :: rest => (l ++ [name], none) :: foldersBelow (l ++ [name]) rest

theorem mem_foldersBelow {a : DiskItem} :
    a ∈ foldersBelow l parts ↔ a.2 = none ∧ ∃ k, k ≠ [] ∧ k <+: parts ∧ a.1 = l ++ k := by
  induction parts generalizing l with
  | nil =>
    simp only [foldersBelow, List.not_mem_nil, List.prefix_nil, false_iff]
    rintro ⟨-, k, hk, rfl, -⟩
    exact hk rfl
  | cons name rest ih =>
    rw [foldersBelow, List.mem_cons, ih]
    constructor
    · rintro (rfl | ⟨ha, k, hk, hp, hl⟩)
      · exact ⟨rfl, [name], by simp, by simp, rfl⟩
      · exact ⟨ha, name :: k, by simp, by simpa using hp, by simpa using hl⟩
    · rintro ⟨ha, k, hk, hp, hl⟩
      cases k with
      | nil => exact absurd rfl hk
      | cons n k =>
        obtain ⟨rfl, hrest⟩ := List.cons_prefix_cons.mp hp
        by_cases hnil : k = []
        · exact .inl (Prod.ext (by simpa [hnil] using hl) ha)
        · exact .inr ⟨ha, k, hnil, hrest, by simpa using hl⟩

/-- Created from a folder down, the folders on the way are all that changes. -/
theorem gains_ensureFolders (h : Returns (ensureFolders (q.below parts)) d x d') (hq : d.At q l)
    (hd : Descends parts) :
    Gains d (foldersBelow l parts) d' ∧ d'.At (q.below parts) (l ++ parts) ∧
      d'.item? (l ++ parts) = some none := by
  obtain ⟨-, hens⟩ := Ensures.of_returns_folders h
  obtain ⟨es, hg, hes⟩ := Creates.new_below hens.gains hq hd
  obtain ⟨t, ht, ho⟩ := hens.folder
  obtain ⟨u, hu, hdown⟩ := reaches_append.mp ht
  obtain rfl := hu.unique (hg.toGrows.at hq)
  obtain rfl : t = ⟨l ++ parts, 0⟩ := by
    by_cases hnil : parts = []
    · subst hnil
      simpa using reaches_nil.mp hdown
    · exact (hdown.down hd hnil).1
  have hfolder : d'.item? (l ++ parts) = some none := ho rfl
  refine ⟨⟨hg.toGrows, funext fun k => ?_⟩, ht, hfolder⟩
  by_cases hk : k ∈ (foldersBelow l parts).map (·.1)
  · obtain ⟨⟨k, y⟩, ha, rfl⟩ := List.mem_map.mp hk
    have hc : Consistent (foldersBelow l parts) := fun a ha b hb hab =>
      Prod.ext hab ((mem_foldersBelow.mp ha).1.trans (mem_foldersBelow.mp hb).1.symm)
    obtain ⟨hy, m, -, ⟨rest, rfl⟩, hkm⟩ := mem_foldersBelow.mp ha
    obtain rfl : y = none := hy
    obtain rfl : k = l ++ m := hkm
    rw [overlay_of_mem hc ha]
    by_cases hrest : rest = []
    · simpa [hrest] using hfolder
    · refine item?_eq_folder_of_isSome hrest ?_
      rw [List.append_assoc, hfolder]
      rfl
  · rw [overlay_of_notMem hk, hg.items]
    refine overlay_of_notMem fun hm => hk ?_
    obtain ⟨a, ha, rfl⟩ := List.mem_map.mp hm
    exact List.mem_map.mpr ⟨a, mem_foldersBelow.mpr (hes a ha), rfl⟩

theorem Passable.mono (h : d.Passable l parts) (hg : Ensures d p d') : d'.Passable l parts := by
  obtain ⟨es, hg, hes⟩ := hg.gains
  intro k hk content hc
  by_cases hm : l ++ k ∈ es.map (·.1)
  · rw [hg.folder_of_mem (fun e he => (hes e he).1) hm] at hc
    cases hc
  · rw [hg.items, overlay_of_notMem hm] at hc
    exact h k hk content hc

/-- In a folder that is there, a folder is created or found. -/
theorem returns_ensureFolder_of_parent (hq : d.At q l) (hl : d.item? l = some none)
    (hn : name ≠ "..") (hshort : (q.below [name]).Short)
    (hf : DiskFault.ofPath? (q.below [name]) = none)
    (hfree : ∀ content, d.item? (l ++ [name]) ≠ some (some content)) :
    ∃ d', Returns (ensureFolder (q.below [name])) d () d' ∧
      d'.At (q.below [name]) (l ++ [name]) := by
  have hplace := places_below hq hl hn (hshort.2 name (by simp)) hshort.1
  rcases hx : d.item? (l ++ [name]) with _ | _ | content
  · have hm := makeFolder_eq_ok_iff.mpr ⟨l, name, hplace, hx, rfl⟩
    have hr := (returns_ensureFolder (x := ())).mpr (.inl hm)
    obtain ⟨k, n, hp, -, hg⟩ := gains_makeFolder hm
    obtain ⟨rfl, rfl⟩ := hp.below_eq hq
    have hfolder := hg.folder_of_mem (l := k ++ [n]) (by simp) (by simp)
    exact ⟨_, hr, hplace.at hg.toGrows (by rw [hfolder]; rfl)⟩
  · have hat := hplace.at (.refl d) (by rw [hx]; rfl)
    have hfolder := isFolder?_eq_true_iff.mpr ⟨hf, hshort.1, hat.hasFolder hx⟩
    exact ⟨d, returns_ensureFolder.mpr (.inr ⟨hfolder, rfl⟩), hat⟩
  · exact absurd hx (hfree content)

private theorem returns_upTo (hq : d.At q l) (hl : d.item? l = some none)
    (hd : Descends parts) (hp : d.Passable l parts) (hs : (q.below parts).Short)
    (hf : DiskFault.ofPath? (q.below parts) = none) :
    ∃ d', Returns (ensureFolderUpTo (q.below (parts ++ more)) (q.parts.length + parts.length))
      d () d' := by
  induction parts using List.reverseRecOn generalizing more with
  | nil =>
    rw [Path.below_nil] at hs hf
    have hfolder := isFolder?_eq_true_iff.mpr ⟨hf, hs.1, hq.hasFolder hl⟩
    refine ⟨d, returns_upTo_of_last ?_⟩
    rw [first_below, Path.below_nil]
    exact returns_ensureFolder.mpr (.inr ⟨hfolder, rfl⟩)
  | append_singleton parts name ih =>
    obtain ⟨hdown, hname⟩ := descends_append.mp hd
    have hname := descends_singleton.mp hname
    have hq' : q.below (parts ++ [name]) = (q.below parts).below [name] := Path.below_below.symm
    rw [hq'] at hs hf
    have hfirst : first (q.below (parts ++ [name] ++ more))
        (q.parts.length + (parts ++ [name]).length) = (q.below parts).below [name] := by
      rw [first_below, hq']
    have hlength : q.parts.length + (parts ++ [name]).length =
        q.parts.length + parts.length + 1 := by simp [Nat.add_assoc]
    have hpass : d.Passable l parts := fun k hk => hp k (hk.trans (List.prefix_append ..))
    have hshort : ∀ part ∈ parts, Path.size part ≤ maxName :=
      fun part h => hs.2 part (by simp [h])
    -- Whether the parent was there or has just been created, the last folder can be.
    have hlast : ∀ e, Ensures d (q.below parts) e ∨ e = d → e.At (q.below parts) (l ++ parts) →
        e.item? (l ++ parts) = some none →
        ∃ d', Returns (ensureFolder ((q.below parts).below [name])) e () d' := by
      intro e he hat hfolder
      have hpass' : e.Passable l (parts ++ [name]) := by
        rcases he with he | rfl
        exacts [hp.mono he, hp]
      obtain ⟨d', hr, -⟩ := returns_ensureFolder_of_parent hat hfolder hname hs hf
        (by rw [List.append_assoc]; exact hpass' _ (List.prefix_refl _))
      exact ⟨d', hr⟩
    have hat : ∀ e, Grows d e → e.Reaches ⟨l, 0⟩ parts ⟨l ++ parts, 0⟩ →
        e.At (q.below parts) (l ++ parts) := fun e he hr =>
      reaches_append.mpr ⟨⟨l, 0⟩, he.at hq, hr⟩
    rw [hlength] at hfirst ⊢
    rcases folder_or_missing hl hdown hshort hpass with ⟨hfolder, hr⟩ | ⟨hnone, hm⟩
    · obtain ⟨d', hr'⟩ := hlast d (.inr rfl) (hat d (.refl d) hr) hfolder
      exact ⟨d', returns_upTo_of_last (hfirst ▸ hr')⟩
    · obtain ⟨e, he⟩ := @ih ([name] ++ more) hdown hpass hs.of_below
        (Path.ofPath?_below.mp hf).1
      have hens : Ensures d (q.below parts) e := first_below ▸ ensures_of_upTo he
      obtain ⟨t, ht, -⟩ := hens.folder
      obtain ⟨u, hu, ht⟩ := reaches_append.mp ht
      obtain rfl := hu.unique (hens.grows.at hq)
      rcases folder_or_missing (hens.grows.folder hl) hdown hshort (hpass.mono hens) with
        ⟨hfolder, hr⟩ | ⟨-, hgone⟩
      · obtain ⟨d', hr'⟩ := hlast e (.inl hens) (hat e hens.grows hr) hfolder
        refine ⟨d', returns_upTo_succ.mpr (.inr ⟨?_, e, ?_, hfirst ▸ hr'⟩)⟩
        · rw [hfirst]
          exact makeFolder_of_misses hs.1 (.inl (hq.misses_below hm))
        · simpa using he
      · cases hgone.symm.trans ht

/-- Where nothing but folders stands on the way down, and the disk takes the path, a folder is
created with those that are missing on the way to it. -/
theorem returns_ensureFolders (hq : d.At q l) (hl : d.item? l = some none)
    (hd : Descends parts) (hp : d.Passable l parts) (hs : (q.below parts).Short)
    (hf : DiskFault.ofPath? (q.below parts) = none) :
    ∃ d', Returns (ensureFolders (q.below parts)) d () d' := by
  obtain ⟨d', h⟩ : ∃ d', Returns (ensureFolderUpTo (q.below (parts ++ []))
      (q.parts.length + parts.length)) d () d' := returns_upTo hq hl hd hp hs hf
  refine ⟨d', returns_bind.mpr ⟨(), d, returns_checkPath.mpr ⟨hf, rfl⟩, ?_⟩⟩
  simpa using h

end MoveSkeleton.Disk
