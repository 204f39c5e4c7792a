import MoveSkeleton.Proofs.Disk.Item

/-! How paths are followed on a disk, and what stays of it while the disk grows. -/
namespace MoveSkeleton.Disk

variable {d d' e : Disk} {s s' t u : Spot} {l : Location} {p : Path} {part : Text}
  {parts more : List Text} {es fs : List DiskItem}

/-- A folder stands at the spot, or once stood there. -/
def Opens (d : Disk) (s : Spot) : Prop :=
  s.lost = 0 → d.item? s.location = some none

/-- From one spot the parts lead to the other. -/
def Reaches (d : Disk) (s : Spot) (parts : List Text) (t : Spot) : Prop :=
  parts.foldlM d.enter s = .ok t

/-- On the way from the spot along the parts something is missing. -/
def Misses (d : Disk) (s : Spot) (parts : List Text) : Prop :=
  parts.foldlM d.enter s = .error .missing

/-- No part leads up. -/
def Descends (parts : List Text) : Prop :=
  ∀ part ∈ parts, part ≠ ".."

instance : Decidable (Descends parts) :=
  inferInstanceAs (Decidable (∀ part ∈ parts, part ≠ Text.ofString ".."))

/-- The path leads to the location. -/
def At (d : Disk) (p : Path) (l : Location) : Prop :=
  d.Reaches (d.start p) p.parts ⟨l, 0⟩

theorem opens_iff : d.Opens s ↔ ∃ members, d.at? s = some (.folder members) := by
  unfold Opens at? item? Tree.item?
  by_cases h : s.lost = 0
  · simp only [h, forall_const, if_true, Option.map_eq_some_iff]
    constructor
    · rintro ⟨u, hu, hc⟩
      cases u with
      | file content => cases hc
      | folder members => exact ⟨members, hu⟩
    · rintro ⟨members, hu⟩
      exact ⟨_, hu, rfl⟩
  · simp [h, Tree.empty]

theorem any_isFolder_at?_iff : (d.at? s).any Tree.isFolder = true ↔ d.Opens s := by
  rw [opens_iff]
  cases d.at? s with
  | none => simp
  | some t => cases t <;> simp [Tree.isFolder]

/-- Two dots lead out of any folder, a name into one that has not been removed and holds it. -/
theorem enter_eq_ok_iff : d.enter s part = .ok t ↔ d.Opens s ∧
    (part = ".." ∧ t = ⟨s.location.dropLast, s.lost - 1⟩ ∨
      part ≠ ".." ∧ s.lost = 0 ∧ Path.size part ≤ maxName ∧
        (d.item? (s.location ++ [part])).isSome ∧ t = ⟨s.location ++ [part], 0⟩) := by
  unfold enter
  constructor
  · intro h
    split at h
    · cases h
    · cases h
    · next members ha =>
      refine ⟨opens_iff.mpr ⟨members, ha⟩, ?_⟩
      split at h
      · next hp => exact .inl ⟨hp, (Except.ok.inj h).symm⟩
      · next hp =>
        split_ifs at h with hl hs hg
        rw [get?_isSome] at hg
        exact .inr ⟨hp, Nat.eq_zero_of_not_pos hl, Nat.le_of_not_lt hs, hg,
          (Except.ok.inj h).symm⟩
  · rintro ⟨ho, h⟩
    obtain ⟨members, ha⟩ := opens_iff.mp ho
    rw [ha]
    dsimp only
    rcases h with ⟨hp, rfl⟩ | ⟨hp, hl, hs, hg, rfl⟩
    · rw [if_pos hp]
    · rw [if_neg hp, if_neg (by omega), if_neg (by omega), get?_isSome, if_pos hg]

theorem locate_eq_ok_iff : d.locate p = .ok t ↔
    Path.size p.text ≤ maxPath ∧ d.Reaches (d.start p) p.parts t := by
  unfold locate Reaches
  split_ifs with h
  · simp [Nat.not_le.mpr h]
  · simp [Nat.le_of_not_lt h]

theorem reaches_nil : d.Reaches s [] t ↔ t = s := by
  simp [Reaches, pure, Except.pure, eq_comm]

theorem reaches_append : d.Reaches s (parts ++ more) t ↔
    ∃ u, d.Reaches s parts u ∧ d.Reaches u more t := by
  unfold Reaches
  rw [List.foldlM_append]
  cases parts.foldlM d.enter s <;> simp [bind, Except.bind]

theorem reaches_singleton : d.Reaches s [part] t ↔ d.enter s part = .ok t := by
  unfold Reaches
  rw [List.foldlM_cons]
  cases d.enter s part <;> simp [bind, Except.bind, pure, Except.pure]

theorem misses_append : d.Misses s (parts ++ more) ↔
    d.Misses s parts ∨ ∃ u, d.Reaches s parts u ∧ d.Misses u more := by
  unfold Misses Reaches
  rw [List.foldlM_append]
  cases parts.foldlM d.enter s <;> simp [bind, Except.bind]

theorem misses_singleton : d.Misses s [part] ↔ d.enter s part = .error .missing := by
  unfold Misses
  rw [List.foldlM_cons]
  cases d.enter s part <;> simp [bind, Except.bind, pure, Except.pure]

theorem locate_eq_missing_iff : d.locate p = .error .missing ↔
    Path.size p.text ≤ maxPath ∧ d.Misses (d.start p) p.parts := by
  unfold locate Misses
  split_ifs with h
  · simp [Nat.not_le.mpr h]
  · simp [Nat.le_of_not_lt h]

theorem descends_append : Descends (parts ++ more) ↔ Descends parts ∧ Descends more :=
  List.forall_mem_append

theorem descends_singleton : Descends [part] ↔ part ≠ ".." :=
  List.forall_mem_singleton

theorem Reaches.unique (h : d.Reaches s parts t) (h' : d.Reaches s parts u) : t = u :=
  Except.ok.inj (h.symm.trans h')

/-- Where parts lead does not depend on the disk, as long as they lead anywhere. -/
theorem Reaches.location_eq (h : d.Reaches s parts t) (h' : e.Reaches s' parts u)
    (hs : s.location = s'.location) : t.location = u.location := by
  induction parts using List.reverseRecOn generalizing t u with
  | nil =>
    rw [reaches_nil] at h h'
    rw [h, h', hs]
  | append_singleton parts part ih =>
    obtain ⟨v, hv, ht⟩ := reaches_append.mp h
    obtain ⟨v', hv', hu⟩ := reaches_append.mp h'
    have hl := ih hv hv'
    rcases (enter_eq_ok_iff.mp (reaches_singleton.mp ht)).2 with ⟨hp, rfl⟩ | ⟨hp, -, -, -, rfl⟩ <;>
      rcases (enter_eq_ok_iff.mp (reaches_singleton.mp hu)).2 with ⟨hq, rfl⟩ | ⟨hq, -, -, -, rfl⟩
    · exact congrArg List.dropLast hl
    · exact absurd hp hq
    · exact absurd hq hp
    · exact congrArg (· ++ [part]) hl

/-- Names lead down, to where something stands. -/
theorem Reaches.down (h : d.Reaches ⟨l, 0⟩ parts t) (hp : Descends parts) (hne : parts ≠ []) :
    t = ⟨l ++ parts, 0⟩ ∧ (d.item? (l ++ parts)).isSome := by
  induction parts using List.reverseRecOn generalizing t with
  | nil => exact absurd rfl hne
  | append_singleton parts part ih =>
    rw [descends_append, descends_singleton] at hp
    obtain ⟨v, hv, ht⟩ := reaches_append.mp h
    obtain rfl : v = ⟨l ++ parts, 0⟩ := by
      by_cases hnil : parts = []
      · subst hnil
        simpa using reaches_nil.mp hv
      · exact (ih hv hp.1 hnil).1
    rcases (enter_eq_ok_iff.mp (reaches_singleton.mp ht)).2 with ⟨hq, -⟩ | ⟨-, -, -, hsome, rfl⟩
    · exact absurd hq hp.2
    · simpa using hsome

/-- What holds of two dots and of each name that leads to where something stands holds of parts that
lead anywhere. -/
theorem Reaches.forall_parts {P : Text → Prop} (h : d.Reaches s parts t) (hdots : P "..")
    (hname : ∀ l part, Path.size part ≤ maxName → (d.item? (l ++ [part])).isSome → P part) :
    ∀ part ∈ parts, P part := by
  induction parts using List.reverseRecOn generalizing t with
  | nil => simp
  | append_singleton parts part ih =>
    obtain ⟨u, hu, ht⟩ := reaches_append.mp h
    refine List.forall_mem_append.mpr ⟨ih hu, List.forall_mem_singleton.mpr ?_⟩
    rcases (enter_eq_ok_iff.mp (reaches_singleton.mp ht)).2 with ⟨rfl, -⟩ | ⟨-, -, hn, hsome, -⟩
    · exact hdots
    · exact hname _ _ hn hsome

/-- Parts that lead anywhere are not too long. -/
theorem Reaches.short (h : d.Reaches s parts t) : ∀ part ∈ parts, Path.size part ≤ maxName :=
  h.forall_parts (by decide) fun _ _ hn _ => hn

/-- Names that are not too long lead down to all that stands below a folder. -/
theorem reaches_down (hp : Descends parts) (hn : ∀ part ∈ parts, Path.size part ≤ maxName)
    (h : parts ≠ [] → (d.item? (l ++ parts)).isSome) :
    d.Reaches ⟨l, 0⟩ parts ⟨l ++ parts, 0⟩ := by
  induction parts using List.reverseRecOn with
  | nil => simp [reaches_nil]
  | append_singleton parts part ih =>
    rw [descends_append, descends_singleton] at hp
    have hsome := h (by simp)
    rw [← List.append_assoc] at hsome
    have hfolder := item?_eq_folder_of_isSome (by simp) hsome
    refine reaches_append.mpr ⟨⟨l ++ parts, 0⟩, ?_, ?_⟩
    · exact ih hp.1 (fun part h => hn part (by simp [h])) fun _ => by simp [hfolder]
    · refine reaches_singleton.mpr (enter_eq_ok_iff.mpr ⟨fun _ => hfolder, .inr ?_⟩)
      exact ⟨hp.2, rfl, hn part (by simp), hsome, by simp⟩

/-- Parts lead to the same spot on a disk where the same stands at every spot on the way. -/
theorem Reaches.of_same (h : d.Reaches s parts t)
    (hsame : ∀ before u, before <+: parts → d.Reaches s before u →
      d'.item? u.location = d.item? u.location) : d'.Reaches s parts t := by
  induction parts using List.reverseRecOn generalizing t with
  | nil => exact h
  | append_singleton parts part ih =>
    obtain ⟨u, hu, ht⟩ := reaches_append.mp h
    have hu' := ih hu fun before v hb => hsame before v (hb.trans (List.prefix_append ..))
    obtain ⟨ho, hstep⟩ := enter_eq_ok_iff.mp (reaches_singleton.mp ht)
    have hprefix : parts <+: parts ++ [part] := List.prefix_append ..
    refine reaches_append.mpr ⟨u, hu', reaches_singleton.mpr (enter_eq_ok_iff.mpr ⟨?_, ?_⟩)⟩
    · intro hl
      rw [hsame parts u hprefix hu]
      exact ho hl
    · refine hstep.imp_right ?_
      rintro ⟨hdots, hl, hn, hsome, rfl⟩
      have hlast := hsame _ _ (List.prefix_refl _) h
      exact ⟨hdots, hl, hn, hlast ▸ hsome, rfl⟩

/-- Where a name leads something stands. -/
theorem Reaches.isSome (h : d.Reaches s (parts ++ [part]) t) (hp : part ≠ "..") :
    (d.item? t.location).isSome := by
  obtain ⟨u, -, ht⟩ := reaches_append.mp h
  rcases (enter_eq_ok_iff.mp (reaches_singleton.mp ht)).2 with ⟨hdots, -⟩ | ⟨-, -, -, hsome, rfl⟩
  · exact absurd hdots hp
  · exact hsome

/-- Nothing vanishes, and what is a folder stays one. -/
structure Grows (d d' : Disk) : Prop where
  here : d'.here = d.here
  lost : d'.lost = d.lost
  kept : ∀ l x, d.item? l = some x → ∃ y, d'.item? l = some y ∧ y.isSome = x.isSome

theorem Grows.refl (d : Disk) : Grows d d :=
  ⟨rfl, rfl, fun _ x h => ⟨x, h, rfl⟩⟩

theorem Grows.trans (h : Grows d d') (h' : Grows d' e) : Grows d e where
  here := h'.here.trans h.here
  lost := h'.lost.trans h.lost
  kept l x hx := by
    obtain ⟨y, hy, hyx⟩ := h.kept l x hx
    obtain ⟨z, hz, hzy⟩ := h'.kept l y hy
    exact ⟨z, hz, hzy.trans hyx⟩

theorem Grows.folder (h : Grows d d') (hl : d.item? l = some none) :
    d'.item? l = some none := by
  obtain ⟨y, hy, hx⟩ := h.kept l none hl
  cases y with
  | none => exact hy
  | some content => cases hx

theorem Grows.isSome (h : Grows d d') (hl : (d.item? l).isSome) : (d'.item? l).isSome := by
  obtain ⟨x, hx⟩ := Option.isSome_iff_exists.mp hl
  obtain ⟨y, hy, -⟩ := h.kept l x hx
  simp [hy]

theorem Grows.start (h : Grows d d') (p : Path) : d'.start p = d.start p := by
  unfold Disk.start
  rw [h.here, h.lost]

theorem Grows.opens (h : Grows d d') (hs : d.Opens s) : d'.Opens s :=
  fun hl => h.folder (hs hl)

theorem Grows.reaches (h : Grows d d') (hr : d.Reaches s parts t) : d'.Reaches s parts t := by
  induction parts using List.reverseRecOn generalizing t with
  | nil => exact hr
  | append_singleton parts part ih =>
    obtain ⟨v, hv, ht⟩ := reaches_append.mp hr
    rw [reaches_singleton, enter_eq_ok_iff] at ht
    obtain ⟨ho, hstep⟩ := ht
    refine reaches_append.mpr ⟨v, ih hv, reaches_singleton.mpr (enter_eq_ok_iff.mpr ?_)⟩
    refine ⟨h.opens ho, hstep.imp_right ?_⟩
    rintro ⟨hdots, hl, hn, hsome, rfl⟩
    exact ⟨hdots, hl, hn, h.isSome hsome, rfl⟩

theorem Grows.at (h : Grows d d') (hp : d.At p l) : d'.At p l := by
  unfold At
  rw [h.start]
  exact h.reaches hp

/-- The disk has grown by the items, written in turn. -/
structure Gains (d : Disk) (es : List DiskItem) (d' : Disk) : Prop extends Grows d d' where
  items : d'.item? = overlay es d.item?

theorem Gains.refl (d : Disk) : Gains d [] d :=
  ⟨.refl d, rfl⟩

theorem Gains.trans (h : Gains d es d') (h' : Gains d' fs e) : Gains d (es ++ fs) e where
  toGrows := h.toGrows.trans h'.toGrows
  items := by rw [h'.items, h.items, overlay_append]

theorem Gains.folder_of_mem (h : Gains d es d') (hes : ∀ e ∈ es, e.2 = none)
    (hl : l ∈ es.map (·.1)) : d'.item? l = some none := by
  have hc : Consistent es := by
    intro a ha b hb hab
    exact Prod.ext hab ((hes a ha).trans (hes b hb).symm)
  obtain ⟨⟨k, x⟩, hx, rfl⟩ := List.mem_map.mp hl
  obtain rfl : x = none := hes _ hx
  rw [h.items, overlay_of_mem hc hx]

end MoveSkeleton.Disk
