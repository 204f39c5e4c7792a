import MoveSkeleton.Proofs.Disk.Folders

/-! Folders removed with all that is in them. -/
namespace MoveSkeleton.Disk

variable {d d' : Disk} {l k : Location} {p q : Path} {name : Text} {x : Unit}

theorem item?_empty (hl : l ≠ []) (hfolder : d.item? l = some none) (k : Location) :
    (d.empty l).item? k = if l <+: k ∧ k ≠ l then none else d.item? k := by
  have hparent : d.root.item? l.dropLast = some none := by
    obtain ⟨m, name, rfl⟩ := (List.eq_nil_or_concat' l).resolve_left hl
    rw [List.dropLast_concat]
    exact Tree.item?_eq_folder_of_isSome (k := [name]) (by simp) (by
      rw [item?] at hfolder
      rw [hfolder]
      rfl)
  have hput : (d.empty l).item? k = if l <+: k then Tree.empty.item? (k.drop l.length)
      else d.root.item? k := Tree.item?_put hl hparent k
  rw [hput]
  by_cases hp : l <+: k
  · obtain ⟨m, rfl⟩ := hp
    by_cases hm : m = []
    · simp [hm, hfolder, Tree.content?, Tree.empty]
    · obtain ⟨a, m, rfl⟩ := List.exists_cons_of_ne_nil hm
      simp
  · simp [hp, item?]

theorem item?_erase (hl : l ≠ []) (k : Location) :
    (d.erase l).item? k = if l <+: k then none else d.item? k :=
  Tree.item?_erase hl k

/-- Emptied and erased, a folder is gone with what it held. -/
theorem item?_removed (hl : l ≠ []) (hfolder : d.item? l = some none) (k : Location) :
    ((d.empty l).erase l).item? k = if l <+: k then none else d.item? k := by
  rw [item?_erase hl, item?_empty hl hfolder]
  by_cases hp : l <+: k <;> simp [hp]

theorem start_location_removed (p : Path) :
    (((d.empty l).erase l).start p).location = (d.start p).location := by
  unfold start
  cases p.anchor <;> rfl

/-- A path that starts outside a folder starts where it did, whatever becomes of that folder. -/
private theorem start_of_apart (hhere : d'.here = d.here)
    (hlost : ¬ l <+: d.here → d'.lost = d.lost) (h : ¬ l <+: (d.start p).location) :
    d'.start p = d.start p := by
  unfold start at h ⊢
  cases ha : p.anchor with
  | here =>
    rw [ha] at h
    rw [hhere, hlost h]
  | _ => rfl

/-- A path that does not start in what is emptied or removed starts where it did. -/
theorem start_empty (h : ¬ l <+: (d.start p).location) : (d.empty l).start p = d.start p := by
  refine start_of_apart rfl (fun hl => ?_) h
  simp [empty, hl]

theorem start_removed (h : ¬ l <+: (d.start p).location) :
    ((d.empty l).erase l).start p = d.start p := by
  refine start_of_apart rfl (fun hl => ?_) h
  simp [empty, erase, hl]

/-- In a folder that has been emptied names lead nowhere. -/
theorem Reaches.location_eq_of_empty {s t : Spot} {before : List Text} (hl : l ≠ [])
    (hfolder : d.item? l = some none) (h : (d.empty l).Reaches s (before ++ [name]) t)
    (hn : name ≠ "..") (hpre : l <+: t.location) : t.location = l := by
  have hsome := h.isSome hn
  rw [item?_empty hl hfolder] at hsome
  by_contra hne
  rw [if_pos ⟨hpre, hne⟩] at hsome
  cases hsome

theorem At.below (hq : d.At q l) (hl : d.item? l = some none) (hn : name ≠ "..")
    (hs : Path.size name ≤ maxName) (hsome : (d.item? (l ++ [name])).isSome) :
    d.At (q.below [name]) (l ++ [name]) :=
  reaches_append.mpr ⟨_, hq, reaches_singleton.mpr (enter_eq_ok_iff.mpr
    ⟨fun _ => hl, .inr ⟨hn, rfl, hs, hsome, rfl⟩⟩)⟩

private theorem returns_removeEmptied (hn : name ≠ "..") :
    Returns (removeEmptied (q.below [name])) d x d' ↔
      Path.size (q.below [name]).text ≤ maxPath ∧
        ∃ s, d.Reaches (d.start q) q.parts s ∧ d.Opens s ∧ d' = d.erase (s.location ++ [name]) := by
  have hlocate : ∀ s last, d.locateLast (q.below [name]) = .ok (s, last) ↔
      Path.size (q.below [name]).text ≤ maxPath ∧ d.Reaches (d.start q) q.parts s ∧ d.Opens s ∧
        last = some name := by
    intro s last
    rw [locateLast_eq_ok_iff]
    simp only [Path.parts_below, List.dropLast_concat, List.getLast?_concat]
    rfl
  unfold removeEmptied
  rw [returns_get_bind]
  constructor
  · intro h
    split at h
    · exact absurd h not_returns_throw
    · next s hl =>
      obtain ⟨-, -, -, hlast⟩ := (hlocate _ _).mp hl
      cases hlast
    · next s last hl =>
      obtain ⟨hs, hr, ho, hlast⟩ := (hlocate _ _).mp hl
      obtain rfl := Option.some.inj hlast
      rw [if_neg hn] at h
      exact ⟨hs, s, hr, ho, returns_set.mp h⟩
  · rintro ⟨hs, s, hr, ho, rfl⟩
    rw [(hlocate _ _).mpr ⟨hs, hr, ho, rfl⟩]
    dsimp only
    rw [if_neg hn]
    exact returns_set.mpr rfl

/-- A folder can be removed if the path to what holds it still leads there once it is empty. -/
theorem returns_removeFolder (hn : name ≠ "..") :
    Returns (removeFolder (q.below [name])) d x d' ↔
      Path.size (q.below [name]).text ≤ maxPath ∧ Path.size name ≤ maxName ∧
        ∃ l, d.At q l ∧ d.item? (l ++ [name]) = some none ∧
          (d.empty (l ++ [name])).HasFolder q ∧
            d' = (d.empty (l ++ [name])).erase (l ++ [name]) := by
  have hloc : ∀ {l s}, d.At q l →
      (d.empty (l ++ [name])).Reaches ((d.empty (l ++ [name])).start q) q.parts s →
        s.location = l := by
    intro l s hq hr
    refine Reaches.location_eq hr hq ?_
    unfold start
    cases q.anchor <;> rfl
  unfold removeFolder
  rw [returns_get_bind]
  constructor
  · intro h
    split at h
    · exact absurd h not_returns_throw
    · next t ht =>
      obtain ⟨hs, ht⟩ := locate_eq_ok_iff.mp ht
      obtain ⟨l, rfl, hq, -, hsize⟩ := ht.at_of_below hn
      split at h
      · next members hm =>
        have ho : d.Opens ⟨l ++ [name], 0⟩ := opens_iff.mpr ⟨members, hm⟩
        rw [if_pos rfl] at h
        obtain ⟨_, e, hset, hrest⟩ := returns_bind.mp h
        obtain rfl := returns_set.mp hset
        obtain ⟨-, s, hr, hos, rfl⟩ := (returns_removeEmptied hn).mp hrest
        exact ⟨hs, hsize, l, hq, ho rfl, ⟨s, hr, hos⟩, by rw [hloc hq hr]⟩
      · exact absurd h not_returns_throw
  · rintro ⟨hs, hsize, l, hq, hfolder, ⟨s, hr, ho⟩, rfl⟩
    have hparent := item?_eq_folder_of_isSome (d := d) (l := l) (k := [name]) (by simp)
      (by rw [hfolder]; rfl)
    have hat : d.At (q.below [name]) (l ++ [name]) :=
      hq.below hparent hn hsize (by rw [hfolder]; rfl)
    obtain ⟨members, hm⟩ := opens_iff.mp (fun _ => hfolder : d.Opens ⟨l ++ [name], 0⟩)
    rw [locate_eq_ok_iff.mpr ⟨hs, hat⟩]
    dsimp only
    rw [hm]
    dsimp only
    rw [if_pos rfl]
    refine returns_bind.mpr ⟨(), d.empty (l ++ [name]), returns_set.mpr rfl, ?_⟩
    refine (returns_removeEmptied hn).mpr ⟨hs, s, hr, ho, ?_⟩
    rw [hloc hq hr]

end MoveSkeleton.Disk
