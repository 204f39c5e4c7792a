import Mathlib.Data.List.Infix
import MoveSkeleton.Proofs.Disk.Again
import MoveSkeleton.Proofs.Disk.Same

/-! Disks that differ in one folder at most: the folder taken away, and what happens in it alone. -/
namespace MoveSkeleton.Disk

variable {A : Prop} {d d' d'' e e' : Disk} {l k : Location} {p target : Path} {name : Text}
  {parts : List Text} {content : ByteArray}

/-- The way to a path, as its parts lead, begins outside of what stands at the location and goes
through nothing inside it. -/
structure Skirts (d : Disk) (p : Path) (l : Location) : Prop where
  start : ¬ l <+: (d.start p).location
  inside : ∀ before ∈ p.parts.inits, l <+: d.place { p with parts := before } →
    d.place { p with parts := before } = l

instance (d : Disk) (p : Path) (l : Location) : Decidable (d.Skirts p l) :=
  decidable_of_iff (¬ l <+: (d.start p).location ∧ ∀ before ∈ p.parts.inits,
      l <+: d.place { p with parts := before } → d.place { p with parts := before } = l)
    ⟨fun h => ⟨h.1, h.2⟩, fun h => ⟨h.start, h.inside⟩⟩

/-- Nothing stands at the place of the path, or the path leads to a folder there. -/
def Clearable (d : Disk) (p : Path) : Prop :=
  d.item? (d.place p) = none ∨ d.isFolder? p = .ok true

/-- The disks differ in what stands at and below the location at most. -/
structure AgreeOutside (l : Location) (d e : Disk) : Prop where
  here : e.here = d.here
  lost : ¬ l <+: d.here → e.lost = d.lost
  item : ∀ k, ¬ l <+: k → e.item? k = d.item? k

/-- The second disk is the first without what stands at and below the location. -/
structure Cleared (l : Location) (d e : Disk) : Prop extends AgreeOutside l d e where
  gone : ∀ k, l <+: k → e.item? k = none

/-- If the path leads to a folder at the location, the disk has grown there only. -/
def GrowsWithin (p : Path) (l : Location) (d d' : Disk) : Prop :=
  d.At p l → d.item? l = some none → Grows d d' ∧ ∀ k, ¬ l <+: k → d'.item? k = d.item? k

/-- Below where nothing stands nothing stands either. -/
theorem item?_eq_none_below (h : d.item? l = none) (hk : l <+: k) : d.item? k = none := by
  obtain ⟨m, rfl⟩ := hk
  by_cases hm : m = []
  · rwa [hm, List.append_nil]
  · by_contra hne
    cases h.symm.trans (item?_eq_folder_of_isSome hm (Option.isSome_iff_ne_none.mpr hne))

theorem Skirts.of_here (h : d.Skirts p l) (hhere : d'.here = d.here) : d'.Skirts p l where
  start := by
    have hstart : (d'.start p).location = (d.start p).location := by
      unfold Disk.start
      cases p.anchor <;> simp [hhere]
    rw [hstart]
    exact h.start
  inside before hb := by
    rw [place_of_here hhere]
    exact h.inside before hb

/-- If paths may begin at the working folder, that lies outside of what the way skirts. -/
theorem Skirts.here (h : d.Skirts p l) (ha : p.anchor = .here) : ¬ l <+: d.here := by
  have hs := h.start
  rwa [Disk.start, ha] at hs

theorem Cleared.of_absent (h : d.item? l = none) : Cleared l d d :=
  ⟨⟨rfl, fun _ => rfl, fun _ _ => rfl⟩, fun _ => item?_eq_none_below h⟩

theorem AgreeOutside.same_of_absent (h : AgreeOutside l d e) (hA : A → ¬ l <+: d.here)
    (hd : ∀ k, l <+: k → d.item? k = none) (he : ∀ k, l <+: k → e.item? k = none) :
    Same A d e where
  here ha := ⟨h.here.symm, (h.lost (hA ha)).symm⟩
  item k := by
    by_cases hk : l <+: k
    · rw [hd k hk, he k hk]
    · exact (h.item k hk).symm

/-- Nothing is left in which the disks could differ. -/
theorem AgreeOutside.same_of_cleared (h : AgreeOutside l d d') (hA : A → ¬ l <+: d.here)
    (he : Cleared l d e) (he' : Cleared l d' e') : Same A e e' := by
  refine AgreeOutside.same_of_absent (l := l) ?_ (fun ha => ?_) he.gone he'.gone
  · exact {
      here := he'.here.trans (h.here.trans he.here.symm)
      lost := fun hl => by
        rw [he.here] at hl
        exact (he'.lost (h.here ▸ hl)).trans ((h.lost hl).trans (he.lost hl).symm)
      item := fun k hk => (he'.item k hk).trans ((h.item k hk).trans (he.item k hk).symm) }
  · rw [he.here]
    exact hA ha

/-- A folder at the end of a way that skirts it can be removed. -/
theorem Skirts.removeFolder (hn : name ≠ "..")
    (hway : d.Skirts target (d.place (target.below [name])))
    (hold : d.isFolder? (target.below [name]) = .ok true) :
    ∃ e, Returns (Disk.removeFolder (target.below [name])) d () e ∧
      Cleared (d.place (target.below [name])) d e := by
  obtain ⟨-, hs, t, ht, ho⟩ := isFolder?_eq_true_iff.mp hold
  obtain ⟨m, rfl, hat, hm, hsize⟩ := ht.at_of_below hn
  have hplace : d.place (target.below [name]) = m ++ [name] := ht.location.symm
  rw [hplace] at hway ⊢
  have hfolder : d.item? (m ++ [name]) = some none := ho rfl
  have hempty : (d.empty (m ++ [name])).HasFolder target := by
    refine At.hasFolder (l := m) ?_ ?_
    · unfold At
      rw [start_empty hway.start]
      refine Reaches.of_same hat fun before u hb hu => ?_
      rw [item?_empty (by simp) hfolder, if_neg]
      have hplace : u.location = d.place { target with parts := before } := hu.location
      rintro ⟨hpre, hne⟩
      rw [hplace] at hpre hne
      exact hne (hway.inside before ((List.mem_inits _ _).mpr hb) hpre)
    · rw [item?_empty (by simp) hfolder, if_neg]
      · exact hm
      · rintro ⟨hpre, -⟩
        exact absurd hpre.length_le (by simp)
  refine ⟨_, (returns_removeFolder hn).mpr ⟨hs, hsize, m, hat, hfolder, hempty, rfl⟩, ?_⟩
  refine ⟨⟨rfl, fun hl => ?_, fun k hk => ?_⟩, fun k hk => ?_⟩
  · simp [erase, empty, hl]
  · rw [item?_removed (by simp) hfolder, if_neg hk]
  · rw [item?_removed (by simp) hfolder, if_pos hk]

/-- What a path with a name at its end leads to stands in its place. -/
theorem isSome_of_exists? (hn : name ≠ "..") (h : d.exists? (target.below [name]) = .ok true) :
    (d.item? (d.place (target.below [name]))).isSome := by
  obtain ⟨-, -, t, ht⟩ := exists?_eq_true_iff.mp h
  have hr : d.Reaches (d.start (target.below [name])) (target.parts ++ [name]) t := ht
  have hsome := hr.isSome hn
  rwa [hr.location] at hsome

/-- Names that are short enough are not too long. -/
theorem foldlM_enter_ne {s : Spot} (h : ∀ part ∈ parts, Path.size part ≤ maxName) :
    parts.foldlM d.enter s ≠ .error .nameTooLong := by
  induction parts generalizing s with
  | nil => exact fun h => by cases h
  | cons part rest ih =>
    obtain ⟨hp, hrest⟩ := List.forall_mem_cons.mp h
    rw [List.foldlM_cons]
    have hstep : d.enter s part ≠ .error .nameTooLong := by
      unfold enter
      split
      · simp
      · simp
      · split_ifs <;> simp
        omega
    cases hs : d.enter s part with
    | ok t => exact ih hrest
    | error lapse =>
      rw [hs] at hstep
      exact hstep

/-- Whether something is at the end of a path can be told, if the path is short enough. -/
theorem exists?_isOk (h : p.Short) : ∃ found, d.exists? p = .ok found := by
  unfold exists? locate
  rw [if_neg (Nat.not_lt.mpr h.1)]
  split
  · exact ⟨false, rfl⟩
  · split
    · exact ⟨true, rfl⟩
    · next hl => exact absurd hl (foldlM_enter_ne h.2)
    · exact ⟨false, rfl⟩

theorem short_of_isFolder? (h : d.isFolder? p = .ok true) : p.Short := by
  obtain ⟨-, hs, t, ht, -⟩ := isFolder?_eq_true_iff.mp h
  exact ⟨hs, ht.short⟩

theorem exists?_of_isFolder? (h : d.isFolder? p = .ok true) : d.exists? p = .ok true := by
  obtain ⟨hf, hs, t, ht, -⟩ := isFolder?_eq_true_iff.mp h
  exact exists?_eq_true_iff.mpr ⟨hf, hs, t, ht⟩

/-- A folder that cannot be created in another one, where nothing stood before, leaves that other
one unfound as well. -/
theorem exists?_of_fails {sub : Text} {fault : DiskFault} (hn : name ≠ "..") (hsub : sub ≠ "..")
    (hsize : Path.size sub ≤ maxName) (hstorable : ∀ x ∈ sub.points, Path.Storable x)
    (hgone : ∀ k, d.place (target.below [name]) <+: k → d.item? k = none)
    (h : Fails (ensureFolders ((target.below [name]).below [sub])) d fault d') :
    d'.exists? (target.below [name]) ≠ .ok true := by
  intro htrue
  obtain ⟨hf, hs, t, ht⟩ := exists?_eq_true_iff.mp htrue
  have hsome := isSome_of_exists? hn htrue
  obtain ⟨es, hg, hes⟩ := h.after_eq ▸ creates_ensureFolders d ((target.below [name]).below [sub])
  rw [place_of_here hg.here] at hsome
  -- All that can be new in its place are folders.
  have hfolder : ∀ k, d.place (target.below [name]) <+: k → ∀ content,
      d'.item? k ≠ some (some content) := by
    intro k hk content hc
    by_cases hm : k ∈ es.map (·.1)
    · cases (hg.folder_of_mem (fun e he => (hes e he).1) hm).symm.trans hc
    · rw [hg.items, overlay_of_notMem hm, hgone k hk] at hc
      cases hc
  obtain ⟨l, rfl, -, -, -⟩ := ht.at_of_below hn
  have hplace : l ++ [name] = d.place (target.below [name]) :=
    ht.location.trans (place_of_here hg.here _)
  have hl : d'.item? (l ++ [name]) = some none := by
    rw [← hplace] at hsome
    obtain ⟨y, hy⟩ := Option.isSome_iff_exists.mp hsome
    cases y with
    | none => exact hy
    | some content => exact absurd hy (hfolder _ (hplace ▸ List.prefix_refl _) content)
  have hpass : d'.Passable (l ++ [name]) [sub] := fun k _ =>
    hfolder _ (hplace ▸ List.prefix_append ..)
  have hlong : Path.size ((target.below [name]).below [sub]).text ≤ maxPath := by
    by_contra hlong
    have hsame := h.after_eq.symm.trans (after_ensureFolders_of_long (Nat.lt_of_not_le hlong))
    rw [hsame, hgone _ (hplace ▸ List.prefix_refl _)] at hl
    cases hl
  have hshort : ((target.below [name]).below [sub]).Short := by
    refine ⟨hlong, List.forall_mem_append.mpr ⟨ht.short, List.forall_mem_singleton.mpr hsize⟩⟩
  obtain ⟨e, he⟩ := returns_ensureFolders ht hl (descends_singleton.mpr hsub) hpass hshort
    (Path.ofPath?_below.mpr ⟨hf, List.forall_mem_singleton.mpr hstorable⟩)
  obtain ⟨fault', h'⟩ := fails_ensureFolders_again h
  exact h'.not_returns he

theorem GrowsWithin.refl (p : Path) (l : Location) (d : Disk) : GrowsWithin p l d d :=
  fun _ _ => ⟨.refl d, fun _ _ => rfl⟩

theorem GrowsWithin.trans (h : GrowsWithin p l d d') (h' : GrowsWithin p l d' d'') :
    GrowsWithin p l d d'' := by
  intro hat hl
  obtain ⟨hg, hout⟩ := h hat hl
  obtain ⟨hg', hout'⟩ := h' (hg.at hat) (hg.folder hl)
  exact ⟨hg.trans hg', fun k hk => (hout' k hk).trans (hout k hk)⟩

/-- Folders below a path are created in its place. -/
theorem growsWithin_ensureFolders (hw : Path.within 0 parts = true) :
    GrowsWithin p l d (after (ensureFolders (p.below parts)) d) := by
  intro hat _
  have h := extends_ensureFolders [] (List.forall_mem_nil _) (Nat.zero_le 1) hw hat
  rw [Path.below_nil, List.append_nil] at h
  exact ⟨h.toGrows, h.apart⟩

/-- A file below a path is written in its place. -/
theorem growsWithin_writeFile (hw : Path.within 0 parts = true) :
    GrowsWithin p l d (after (writeFile (p.below parts) content) d) := by
  intro hat _
  have h : Extends d (l ++ []) (after (writeFile ((p.below []).below parts) content) d) :=
    extends_writeFile [] (List.forall_mem_nil _) hw hat
  rw [Path.below_nil, List.append_nil] at h
  exact ⟨h.toGrows, h.apart⟩

/-- Cleared of what has been written in it, a folder is created as it was before. -/
theorem Cleared.returns_ensureFolders {f : Disk} (hc : Cleared l e f)
    (h : Returns (ensureFolders p) d () d') (hfits : Fits A p) (hA : A → ¬ l <+: d.here)
    (hgone : d.item? l = none) (hgrows : Grows d' e)
    (hout : ∀ k, ¬ l <+: k → e.item? k = d'.item? k) :
    ∃ f', Returns (ensureFolders p) f () f' ∧ Same A d' f' := by
  have hens := (Ensures.of_returns_folders h).2
  have hhere : e.here = d.here := hgrows.here.trans hens.grows.here
  -- Where the working folder is makes no difference unless paths begin there.
  let f₀ : Disk := { f with here := d.here, lost := d.lost }
  have hitem : ∀ k, f₀.item? k = f.item? k := fun _ => rfl
  have hsame : Same A f₀ f := ⟨hitem, fun ha => ⟨(hc.here.trans hhere).symm,
    ((hc.lost (hhere ▸ hA ha)).trans (hgrows.lost.trans hens.grows.lost)).symm⟩⟩
  have hle : Under d f₀ := by
    refine ⟨rfl, rfl, fun k y hy => ?_⟩
    have hk : ¬ l <+: k := by
      intro hk
      cases (item?_eq_none_below hgone hk).symm.trans hy
    rw [hitem, hc.item k hk, hout k hk]
    exact hens.under.item k y hy
  have hge : Under f₀ d' := by
    refine ⟨hens.grows.here, hens.grows.lost, fun k y hy => ?_⟩
    rw [hitem] at hy
    have hk : ¬ l <+: k := by
      intro hk
      cases (hc.gone k hk).symm.trans hy
    rwa [hc.item k hk, hout k hk] at hy
  obtain ⟨f₁, hf₁, hhere₁, hlost₁, hitem₁⟩ := hle.returns_ensureFolders hge h
  have hboth := together_ensureFolders hfits f₀ f hsame
  rw [show _ = _ from hf₁] at hboth
  rcases hr : (ensureFolders p).run.run f with ⟨r, f'⟩
  rw [hr] at hboth
  cases hboth with
  | returned hf' =>
    exact ⟨f', hr, fun k => (hitem₁ k).symm.trans (hf'.item k), fun ha =>
      ⟨hhere₁.symm.trans (hf'.here ha).1, hlost₁.symm.trans (hf'.here ha).2⟩⟩

end MoveSkeleton.Disk
