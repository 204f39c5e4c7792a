import MoveSkeleton.Proofs.Disk.Place
import MoveSkeleton.Proofs.Package.Folder

/-! The folder of a root package, cleared before the run and created anew. -/
namespace MoveSkeleton

namespace Disk

variable {d d' e : Disk} {l : Location} {p q target : Path} {name : Text} {names : List Text}
  {x : Unit}

/-- The first parts of the path lead to a location, and names lead on from there. Whatever leads up
stands behind what is there. -/
def Direct (d : Disk) (p : Path) : Prop :=
  ∃ q l names, p = q.below names ∧ d.At q l ∧ Descends names

/-- A folder of the name can be put into the target: the target's first parts lead to a folder and
names lead on from there, nothing but folders stands on the way down, the one of the name included,
and nothing on the way lies in that one. -/
structure Admits (d : Disk) (target : Path) (name : Text) (q : Path) (l : Location)
    (names : List Text) : Prop where
  split : target = q.below names
  way : d.At q l
  folder : d.item? l = some none
  down : Descends names
  free : d.Passable l (names ++ [name])
  apart : ∀ before u, before <+: q.parts → d.Reaches (d.start q) before u →
    ¬ l ++ (names ++ [name]) <+: u.location

private theorem not_append_concat_prefix : ¬ l ++ (names ++ [name]) <+: l ++ names := by
  intro h
  have hlen := ((List.prefix_append_right_inj _).mp h).length_le
  simp only [List.length_append, List.length_singleton] at hlen
  omega

theorem Admits.direct (h : d.Admits target name q l names) : d.Direct target :=
  ⟨q, l, names, h.split, h.way, h.down⟩

/-- The whole way to the target keeps out of the folder of the name in it. -/
theorem Admits.apart_target (h : d.Admits target name q l names) {before : List Text} {u : Spot}
    (hb : before <+: target.parts) (hr : d.Reaches (d.start q) before u) :
    ¬ l ++ (names ++ [name]) <+: u.location := by
  have hparts : target.parts = q.parts ++ names := by rw [h.split, Path.parts_below]
  obtain ⟨after, ha⟩ := hb
  rw [hparts] at ha
  rcases List.append_eq_append_iff.mp ha with ⟨c, hc, -⟩ | ⟨c, rfl, hnames⟩
  · exact h.apart before u ⟨c, hc.symm⟩ hr
  · obtain ⟨s, hs, hdown⟩ := reaches_append.mp hr
    obtain rfl := hs.unique h.way
    have hu : u = ⟨l ++ c, 0⟩ := by
      by_cases hnil : c = []
      · subst hnil
        simpa using reaches_nil.mp hdown
      · have hdesc := h.down
        rw [hnames] at hdesc
        exact (hdown.down (descends_append.mp hdesc).1 hnil).1
    rw [hu]
    have hc : l ++ c <+: l ++ names :=
      (List.prefix_append_right_inj _).mpr ⟨after, hnames.symm⟩
    exact fun hpre => not_append_concat_prefix (hpre.trans hc)

/-- Where something stands below a folder that a path leads to, that is not missed. -/
theorem exists?_ne_false_of_item (hf : DiskFault.ofPath? (q.below names) = none) (hq : d.At q l)
    (hd : Descends names) (hn : ∀ part ∈ names, Path.size part ≤ maxName)
    (hsome : (d.item? (l ++ names)).isSome) : d.exists? (q.below names) ≠ .ok false := by
  have hreach : d.Reaches (d.start (q.below names)) (q.below names).parts ⟨l ++ names, 0⟩ :=
    reaches_append.mpr ⟨_, hq, reaches_down hd hn fun _ => hsome⟩
  by_cases hs : Path.size (q.below names).text ≤ maxPath
  · rw [exists?_eq_true_iff.mpr ⟨hf, hs, _, hreach⟩]
    simp
  · unfold exists? locate
    simp [hf, Nat.lt_of_not_le hs]

/-- All names on the disk are such as a disk can hold. -/
def Sound (d : Disk) : Prop :=
  ∀ l, (d.item? l).isSome → ∀ name ∈ l,
    Path.size name ≤ maxName ∧ ∀ x ∈ name.points, Path.Storable x

/-- On such a disk a path that leads somewhere can be held by it. -/
theorem Sound.storable {s t : Spot} {parts : List Text} (hd : d.Sound)
    (h : d.Reaches s parts t) : ∀ part ∈ parts, ∀ x ∈ part.points, Path.Storable x :=
  h.forall_parts (by decide) fun _ part _ hsome => (hd _ hsome part (by simp)).2

/-- A disk with nothing on it. -/
theorem sound_empty {here : Location} : Sound { root := .empty, here } := by
  intro l hl
  cases l with
  | nil => simp
  | cons => cases hl

/-- On such a disk a file or an empty folder can be put wherever names lead that it can hold. -/
theorem Sound.put {new : Tree} (hd : d.Sound)
    (hl : ∀ name ∈ l, Path.size name ≤ maxName ∧ ∀ x ∈ name.points, Path.Storable x)
    (hnew : ∀ k ≠ [], new.item? k = none) : Sound { d with root := d.root.put l new } := by
  intro k hk name hname
  rcases Tree.isSome_of_put hk with hold | hpre | ⟨m, rfl, hm⟩
  · exact hd k hold name hname
  · exact hl name (hpre.subset hname)
  · by_cases hnil : m = []
    · rw [hnil, List.append_nil] at hname
      exact hl name hname
    · rw [hnew m hnil] at hm
      cases hm

/-- What is new at the location is at most the folder there and the one of the name in it. -/
def Founds (d : Disk) (l : Location) (name : Text) (d' : Disk) : Prop :=
  ∃ es, Gains d es d' ∧ ∀ e ∈ es, e.2 = none ∧ (l <+: e.1 → e.1 = l ∨ e.1 = l ++ [name])

theorem exists?_of_missing (hf : DiskFault.ofPath? p = none)
    (h : d.locate p = .error .missing) : d.exists? p = .ok false := by
  unfold exists?
  simp [hf, h]

end Disk

namespace Skeleton

open Activity

variable {v v' : World} {l : Location} {q target folder : Path} {name : Text} {names : List Text}
  {x : Unit}

theorem returns_clear : Returns (clear folder) v x v' ↔
    (v.disk.exists? folder = .ok true ∧ ∃ d, Returns (Disk.removeFolder folder) v.disk () d ∧
      v' = { v with events := v.events ++ [.removing folder], disk := d }) ∨
    v.disk.exists? folder = .ok false ∧ v' = v := by
  unfold clear
  rw [returns_get_bind]
  constructor
  · intro h
    obtain ⟨found, u, hfound, hrest⟩ := returns_bind.mp h
    obtain ⟨hfound, hu⟩ := returns_ofResult.mp hfound
    subst hu
    cases he : u.disk.exists? folder with
    | error fault =>
      rw [he] at hfound
      cases hfound
    | ok b =>
      rw [he] at hfound
      obtain rfl := Except.ok.inj hfound
      cases b with
      | true =>
        rw [if_pos rfl] at hrest
        obtain ⟨d, hd, rfl⟩ := returns_onDisk.mp (returns_note_bind.mp hrest)
        exact .inl ⟨rfl, d, hd, rfl⟩
      | false => exact .inr ⟨rfl, (returns_pure.mp hrest).2⟩
  · rintro (⟨he, d, hd, rfl⟩ | ⟨he, rfl⟩)
    · refine returns_bind.mpr ⟨true, v, returns_ofResult.mpr ⟨by rw [he]; rfl, rfl⟩, ?_⟩
      rw [if_pos rfl]
      exact returns_note_bind.mpr (returns_onDisk.mpr ⟨d, hd, rfl⟩)
    · exact returns_bind.mpr ⟨false, v', returns_ofResult.mpr ⟨by rw [he]; rfl, rfl⟩,
        returns_pure.mpr ⟨rfl, rfl⟩⟩

theorem clear_node (h : Returns (clear folder) v x v') : v'.node = v.node := by
  rcases returns_clear.mp h with ⟨-, d, -, rfl⟩ | ⟨-, rfl⟩ <;> rfl

/-- Created after clearing, the folder at the location is new, and holds one folder only. -/
structure Renewed (d : Disk) (folder : Path) (name : Text) (l : Location) (d' : Disk) : Prop where
  gone : ∀ k, d.item? (l ++ k) = none
  way : d'.At (folder.below [name]) (l ++ [name])
  there : d'.item? (l ++ [name]) = some none
  gains : ∃ es, Disk.Gains d es d' ∧
    ∀ e ∈ es, e.2 = none ∧ (l <+: e.1 → e.1 = l ∨ e.1 = l ++ [name])

/-- Nothing but that one folder stands there yet. -/
theorem Renewed.absent {d d' : Disk} (h : Renewed d folder name l d') {k : Location} (hk : k ≠ [])
    (hn : k ≠ [name]) : d'.item? (l ++ k) = none := by
  obtain ⟨es, hes, hnew⟩ := h.gains
  rw [hes.items, Disk.overlay_of_notMem]
  · exact h.gone k
  · intro hm
    obtain ⟨a, ha, hak⟩ := List.mem_map.mp hm
    rcases (hnew a ha).2 (hak ▸ List.prefix_append ..) with heq | heq
    · exact hk (by simpa using hak.symm.trans heq)
    · exact hn (by simpa using hak.symm.trans heq)

variable {d : Disk} {sub : Text} {y : Unit}

private theorem eq_or_eq_concat {a k : Location} (ha : a <+: k) (hk : k <+: a ++ [sub]) :
    k = a ∨ k = a ++ [sub] := by
  rcases List.prefix_concat_iff.mp hk with h | h
  · exact .inr h
  · exact .inl (h.eq_of_length_le ha.length_le)

/-- Where a folder has been removed. -/
private theorem founds_of_removed {d' : Disk} (hn : name ≠ "..") (hsub : sub ≠ "..")
    (hremove : Returns (Disk.removeFolder (target.below [name])) v.disk () d')
    (h : Disk.Creates d' ((target.below [name]).below [sub]) d) :
    Disk.Founds d' (v.disk.place (target.below [name])) sub d := by
  obtain ⟨-, -, m, hm, hfolder, ⟨s, hs, -⟩, hd'⟩ := (Disk.returns_removeFolder hn).mp hremove
  obtain ⟨es, hg, hes⟩ := h
  rw [Disk.place_below_name hn, ← hm.location]
  refine ⟨es, hg, fun e he => ?_⟩
  obtain ⟨hnone, -, before, n, after, hparts, hup, hr⟩ := hes e he
  refine ⟨hnone, fun hpre => ?_⟩
  have hstart : (d.start ((target.below [name]).below [sub])).location =
      (v.disk.start target).location := by
    rw [hg.start, hd', Disk.start_location_removed]
    rfl
  have hsplit : (before ++ [n]) ++ after = target.parts ++ [name, sub] := by
    simpa using hparts.symm
  -- While the folder was empty, the way to what holds it went through nothing inside it.
  have hold : before ++ [n] <+: target.parts → e.1 = m ++ [name] := by
    rintro ⟨c, hc⟩
    rw [← hc] at hs
    obtain ⟨u, hu, -⟩ := Disk.reaches_append.mp hs
    have hloc : u.location = e.1 := by
      refine hu.location_eq hr (Eq.trans ?_ hstart.symm)
      unfold Disk.start
      cases target.anchor <;> rfl
    rw [← hloc] at hpre ⊢
    exact hu.location_eq_of_empty (by simp) hfolder hup hpre
  rcases List.append_eq_append_iff.mp hsplit with ⟨c, hc, -⟩ | ⟨c, hc, hparts'⟩
  · exact .inl (hold ⟨c, hc.symm⟩)
  · by_cases hnil : c = []
    · exact .inl (hold ⟨[], by simpa [hnil] using hc⟩)
    · have hnames : c <+: [name, sub] := ⟨after, hparts'.symm⟩
      have hdown : Disk.Descends [name, sub] :=
        List.forall_mem_cons.mpr ⟨hn, Disk.descends_singleton.mpr hsub⟩
      have hdesc : Disk.Descends c := fun part hpart => hdown part (hnames.subset hpart)
      have heq : e.1 = m ++ c := by
        have hloc := hr.location
        rwa [hc, Disk.follow_append, hstart, ← Disk.place, ← hm.location,
          Disk.follow_of_descends hdesc] at hloc
      rw [heq] at hpre ⊢
      rcases eq_or_eq_concat ((List.prefix_append_right_inj _).mp hpre) hnames with rfl | rfl
      · exact .inl rfl
      · exact .inr (by simp)

/-- The folder of the name in the target stands where names lead down to it. -/
private theorem place_of_direct (hq : v.disk.At q l) (hdown : Disk.Descends names)
    (hn : name ≠ "..") : v.disk.place ((q.below names).below [name]) = l ++ (names ++ [name]) := by
  rw [Path.below_below, Disk.place_below, ← hq.location, Disk.follow_of_descends
    (Disk.descends_append.mpr ⟨hdown, Disk.descends_singleton.mpr hn⟩)]

/-- Where names lead down. -/
private theorem founds_of_direct (hn : name ≠ "..") (hsub : sub ≠ "..")
    (hdirect : v.disk.Direct target)
    (h : Disk.Creates v.disk ((target.below [name]).below [sub]) d) :
    Disk.Founds v.disk (v.disk.place (target.below [name])) sub d := by
  obtain ⟨q, l, names, rfl, hq, hdown⟩ := hdirect
  have hpath : ((q.below names).below [name]).below [sub] = q.below (names ++ [name] ++ [sub]) := by
    simp [Path.below_below]
  have hdown' : Disk.Descends (names ++ [name] ++ [sub]) :=
    Disk.descends_append.mpr ⟨Disk.descends_append.mpr
      ⟨hdown, Disk.descends_singleton.mpr hn⟩, Disk.descends_singleton.mpr hsub⟩
  obtain ⟨es, hg, hes⟩ := Disk.Creates.new_below (hpath ▸ h) hq hdown'
  rw [place_of_direct hq hdown hn]
  refine ⟨es, hg, fun e he => ?_⟩
  obtain ⟨hnone, k, -, hk, heq⟩ := hes e he
  refine ⟨hnone, fun hpre => ?_⟩
  rw [heq] at hpre ⊢
  rcases eq_or_eq_concat ((List.prefix_append_right_inj _).mp hpre) hk with rfl | rfl
  · exact .inl rfl
  · exact .inr (by simp)

theorem place_of_clear (hn : name ≠ "..") (h : Returns (clear (target.below [name])) v x v')
    (p : Path) : v'.disk.place p = v.disk.place p := by
  rcases returns_clear.mp h with ⟨-, d, hd, rfl⟩ | ⟨-, rfl⟩
  · have hhere := (Disk.confined_removeFolder (d := v.disk) (q := target) hn).here
    rw [hd.after_eq] at hhere
    exact Disk.place_of_here hhere p
  · rfl

/-- Once the folder has been cleared, creating it adds nothing else at its place. -/
theorem founds_of_clear (hn : name ≠ "..") (hsub : sub ≠ "..") (hdirect : v.disk.Direct target)
    (hclear : Returns (clear (target.below [name])) v x v')
    (h : Disk.Creates v'.disk ((target.below [name]).below [sub]) d) :
    Disk.Founds v'.disk (v.disk.place (target.below [name])) sub d := by
  rcases returns_clear.mp hclear with ⟨-, e, he, rfl⟩ | ⟨-, rfl⟩
  · exact founds_of_removed hn hsub he h
  · exact founds_of_direct hn hsub hdirect h

/-- Nothing is left of a folder that has been removed. -/
private theorem gone_of_removed {d' : Disk} (hn : name ≠ "..")
    (h : Returns (Disk.removeFolder (target.below [name])) v.disk () d') (k : Location) :
    d'.item? (v.disk.place (target.below [name]) ++ k) = none := by
  obtain ⟨-, -, m, hm, hfolder, -, rfl⟩ := (Disk.returns_removeFolder hn).mp h
  rw [Disk.place_below_name hn, ← hm.location, Disk.item?_removed (by simp) hfolder]
  simp

/-- Nothing stands at the place of a folder that was not found, if its path can be held. -/
private theorem gone_of_absent (hq : v.disk.At q l) (hdown : Disk.Descends (names ++ [name]))
    (habsent : v.disk.exists? (q.below (names ++ [name])) = .ok false)
    (hheld : (v.disk.item? (l ++ (names ++ [name]))).isSome →
      DiskFault.ofPath? (q.below (names ++ [name])) = none ∧
        ∀ part ∈ names ++ [name], Path.size part ≤ Disk.maxName) (k : Location) :
    v.disk.item? (l ++ (names ++ [name]) ++ k) = none := by
  by_contra hne
  have hsome : (v.disk.item? (l ++ (names ++ [name]))).isSome := by
    by_cases hk : k = []
    · rw [hk, List.append_nil] at hne
      exact Option.isSome_iff_ne_none.mpr hne
    · rw [Disk.item?_eq_folder_of_isSome hk (Option.isSome_iff_ne_none.mpr hne)]
      rfl
  obtain ⟨hf, hshort⟩ := hheld hsome
  exact Disk.exists?_ne_false_of_item hf hq hdown hshort hsome habsent

/-- Once it has been cleared, nothing stands at the place of the folder. -/
theorem gone_of_clear (hn : name ≠ "..") (hdirect : v.disk.Direct target) (hsound : v.disk.Sound)
    (hclear : Returns (clear (target.below [name])) v x v') (k : Location) :
    v'.disk.item? (v.disk.place (target.below [name]) ++ k) = none := by
  rcases returns_clear.mp hclear with ⟨-, e, he, rfl⟩ | ⟨habsent, rfl⟩
  · exact gone_of_removed hn he k
  · obtain ⟨q, l, names, rfl, hq, hdown⟩ := hdirect
    rw [place_of_direct hq hdown hn]
    rw [Path.below_below] at habsent
    refine gone_of_absent hq (Disk.descends_append.mpr ⟨hdown, Disk.descends_singleton.mpr hn⟩)
      habsent (fun hsome => ?_) k
    have hnames := fun part hpart => hsound _ hsome part (List.mem_append_right l hpart)
    refine ⟨Path.ofPath?_below.mpr ⟨Path.ofPath?_eq_none_iff.mpr (hsound.storable hq), ?_⟩, ?_⟩
    · exact fun part hpart => (hnames part hpart).2
    · exact fun part hpart => (hnames part hpart).1

/-- Whatever stood at the path of the folder before, what stands there once it has been cleared
and created is new. -/
theorem renewed_of_clear (hn : name ≠ "..") (hsub : sub ≠ "..") (hdirect : v.disk.Direct target)
    (hclear : Returns (clear (target.below [name])) v x v')
    (hens : Returns (Disk.ensureFolders ((target.below [name]).below [sub])) v'.disk y d) :
    ∃ l, Renewed v'.disk (target.below [name]) sub l d := by
  obtain ⟨hf, hens⟩ := Disk.Ensures.of_returns_folders hens
  obtain ⟨hway, hthere, hat, -⟩ := hens.at_place hsub
  rw [place_of_clear hn hclear] at hway hthere hat
  refine ⟨_, fun k => ?_, hway, hthere, founds_of_clear hn hsub hdirect hclear hens.gains⟩
  rcases returns_clear.mp hclear with ⟨-, e, he, rfl⟩ | ⟨habsent, rfl⟩
  · exact gone_of_removed hn he k
  · obtain ⟨q, m, names, rfl, hq, hdown⟩ := hdirect
    rw [place_of_direct hq hdown hn] at hat ⊢
    rw [Path.below_below] at habsent hat
    obtain ⟨u, -, hlast⟩ := Disk.reaches_append.mp hat
    rw [Path.below_below (p := q)] at hf
    exact gone_of_absent hq (Disk.descends_append.mpr ⟨hdown, Disk.descends_singleton.mpr hn⟩)
      habsent (fun _ => ⟨(Path.ofPath?_below.mp hf).1, hlast.short⟩) k

/-- A folder that is there can be removed if nothing on the way to what holds it lies in it. -/
private theorem remove_returns {d : Disk} (hway : d.Admits target name q l names)
    (hn : name ≠ "..") (hs : (target.below [name]).Short)
    (hfolder : d.item? (l ++ (names ++ [name])) = some none)
    (hr : d.Reaches ⟨l, 0⟩ (names ++ [name]) ⟨l ++ (names ++ [name]), 0⟩) :
    ∃ d', Returns (Disk.removeFolder (target.below [name])) d () d' ∧
      d'.start q = d.start q ∧
      ∀ k, d'.item? k = if l ++ (names ++ [name]) <+: k then none else d.item? k := by
  obtain ⟨s, hnames, hlast⟩ := Disk.reaches_append.mp hr
  obtain ⟨ho, hstep⟩ := Disk.enter_eq_ok_iff.mp (Disk.reaches_singleton.mp hlast)
  rcases hstep with ⟨hdots, -⟩ | ⟨-, hlost, -, -, heq⟩
  · exact absurd hdots hn
  have hassoc : l ++ (names ++ [name]) = l ++ names ++ [name] := (List.append_assoc ..).symm
  obtain rfl : s = ⟨l ++ names, 0⟩ := by
    have hl := congrArg Spot.location heq
    rw [hassoc] at hl
    rw [(List.append_inj' hl rfl).1, ← hlost]
  have hat : d.At target (l ++ names) := by
    rw [hway.split]
    exact Disk.reaches_append.mpr ⟨_, hway.way, hnames⟩
  have hne : l ++ (names ++ [name]) ≠ [] := by simp
  have hstart : ¬ l ++ (names ++ [name]) <+: (d.start q).location :=
    hway.apart [] _ List.nil_prefix (Disk.reaches_nil.mpr rfl)
  have hempty : (d.empty (l ++ (names ++ [name]))).HasFolder target := by
    refine ⟨⟨l ++ names, 0⟩, ?_, fun _ => ?_⟩
    · have htarget : (d.empty (l ++ (names ++ [name]))).start target = d.start target := by
        rw [hway.split]
        exact Disk.start_empty hstart
      rw [htarget]
      refine hat.of_same fun before u hb hu => ?_
      have hstart' : d.start target = d.start q := by rw [hway.split]; rfl
      rw [Disk.item?_empty hne hfolder,
        if_neg fun h => hway.apart_target hb (hstart' ▸ hu) h.1]
    · rw [Disk.item?_empty hne hfolder, if_neg fun h => Disk.not_append_concat_prefix h.1]
      exact ho hlost
  rw [hassoc] at hfolder hempty
  refine ⟨_, (Disk.returns_removeFolder hn).mpr ⟨hs.1, hs.2 name (by simp), l ++ names, hat,
    hfolder, hempty, rfl⟩, ?_, fun k => ?_⟩
  · exact Disk.start_removed (hassoc ▸ hstart)
  · rw [hassoc]
    exact Disk.item?_removed (by simp) hfolder k

/-- Where the way is there and nothing at its end, the folder can be created. -/
private theorem ensure_returns {d : Disk} (hdown : Disk.Descends (names ++ [name]))
    (hsub : sub ≠ "..") (hs : (q.below (names ++ [name] ++ [sub])).Short)
    (hf : DiskFault.ofPath? (q.below (names ++ [name] ++ [sub])) = none) (hat : d.At q l)
    (hl : d.item? l = some none) (hnone : d.item? (l ++ (names ++ [name])) = none)
    (hpass : d.Passable l (names ++ [name])) :
    ∃ d', Returns (Disk.ensureFolders (q.below (names ++ [name] ++ [sub]))) d () d' := by
  refine Disk.returns_ensureFolders hat hl
    (Disk.descends_append.mpr ⟨hdown, Disk.descends_singleton.mpr hsub⟩) ?_ hs hf
  intro k hk content hc
  rcases List.prefix_concat_iff.mp hk with rfl | hk
  · rw [← List.append_assoc] at hc
    cases hnone.symm.trans (Disk.item?_eq_folder_of_isSome (k := [sub]) (by simp)
      (by rw [hc]; rfl))
  · exact hpass k hk content hc

/-- The folder of the root package can be cleared and created anew. -/
theorem clear_returns (hway : v.disk.Admits target name q l names) (hn : name ≠ "..")
    (hsub : sub ≠ "..") (hs : ((target.below [name]).below [sub]).Short)
    (hf : DiskFault.ofPath? ((target.below [name]).below [sub]) = none) :
    ∃ v' d, Returns (clear (target.below [name])) v () v' ∧
      Returns (Disk.ensureFolders ((target.below [name]).below [sub])) v'.disk () d := by
  have hfolder : target.below [name] = q.below (names ++ [name]) := by
    rw [hway.split, Path.below_below]
  have hpath : (target.below [name]).below [sub] = q.below (names ++ [name] ++ [sub]) := by
    rw [hfolder, Path.below_below]
  have hdown : Disk.Descends (names ++ [name]) :=
    Disk.descends_append.mpr ⟨hway.down, Disk.descends_singleton.mpr hn⟩
  have hshort : ∀ part ∈ names ++ [name], Path.size part ≤ Disk.maxName := by
    intro part hpart
    apply hs.of_below.2
    rw [hfolder, Path.parts_below]
    exact List.mem_append_right _ hpart
  obtain ⟨hf', -⟩ := Path.ofPath?_below.mp hf
  rcases Disk.folder_or_missing hway.folder hdown hshort hway.free with ⟨hthere, hr⟩ | ⟨hgone, hm⟩
  · obtain ⟨d, hd, hstart, hitem⟩ := remove_returns hway hn hs.of_below hthere hr
    have hexists : v.disk.exists? (target.below [name]) = .ok true := by
      refine Disk.exists?_eq_true_iff.mpr ⟨hf', hs.of_below.1, ⟨l ++ (names ++ [name]), 0⟩, ?_⟩
      rw [hfolder]
      exact Disk.reaches_append.mpr ⟨_, hway.way, hr⟩
    -- What has been removed was neither on the way nor at its beginning.
    have hat : d.At q l := by
      unfold Disk.At
      rw [hstart]
      refine hway.way.of_same fun before u hb hu => ?_
      rw [hitem, if_neg (hway.apart before u hb hu)]
    have hl : d.item? l = some none := by
      rw [hitem, if_neg fun h => Disk.not_append_concat_prefix (h.trans (List.prefix_append ..))]
      exact hway.folder
    have hpass : d.Passable l (names ++ [name]) := by
      intro k hk content hc
      rw [hitem] at hc
      split at hc
      · cases hc
      · exact hway.free k hk content hc
    have hnone : d.item? (l ++ (names ++ [name])) = none := by
      rw [hitem, if_pos (List.prefix_refl _)]
    obtain ⟨d', hd'⟩ := ensure_returns hdown hsub (hpath ▸ hs) (hpath ▸ hf) hat hl hnone hpass
    exact ⟨{ v with events := v.events ++ [.removing (target.below [name])], disk := d }, d',
      returns_clear.mpr (.inl ⟨hexists, d, hd, rfl⟩), hpath ▸ hd'⟩
  · have hlocate : v.disk.locate (target.below [name]) = .error .missing := by
      refine Disk.locate_eq_missing_iff.mpr ⟨hs.of_below.1, ?_⟩
      rw [hfolder]
      exact hway.way.misses_below hm
    obtain ⟨d', hd'⟩ := ensure_returns hdown hsub (hpath ▸ hs) (hpath ▸ hf) hway.way hway.folder
      hgone hway.free
    exact ⟨v, d', returns_clear.mpr (.inr ⟨Disk.exists?_of_missing hf' hlocate, rfl⟩), hpath ▸ hd'⟩

end Skeleton

end MoveSkeleton
