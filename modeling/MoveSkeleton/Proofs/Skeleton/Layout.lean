import MoveSkeleton.Proofs.Skeleton.Dependencies

/-! The layout of a skeleton: what stands where in the folder of the root package. -/
namespace MoveSkeleton.Skeleton

open Resolution

variable {c : Client} {w : World} {root p : PackageId} {ds : List Dependency} {isRoot : Bool}
  {a b : DiskItem}

/-- All that stands in the folder of the root package, from that folder on. -/
def layout (c : Client) (w : World) (root : PackageId) (ds : List Dependency) : List DiskItem :=
  packageItems c w true root ++ ([Text.ofString Manifest.dependenciesFolder], none) ::
    ds.flatMap fun d => under [Text.ofString Manifest.dependenciesFolder, d.folder]
      (packageItems c w false d.target)

theorem sourceFile_inj {m n : Text} (h : sourceFile m = sourceFile n) : m = n := by
  have hpoints := congrArg Text.points h
  obtain ⟨points⟩ := m
  obtain ⟨points'⟩ := n
  exact congrArg Text.mk (List.append_cancel_right hpoints)

/-- In the folder of a package stand the folder itself, the one of its sources, sources there and
the manifest. -/
private theorem mem_packageItems (h : a ∈ packageItems c w isRoot p) :
    a = ([], none) ∨ a = ([Text.ofString sourcesFolder], none) ∨
      (∃ m, a = textItem [Text.ofString sourcesFolder, sourceFile m]
        (sourceAt c w p.account m)) ∨
      ∃ record, recordOf (answersAt c w) p = .ok record ∧
        a = textItem [Text.ofString Manifest.fileName] (Manifest.text isRoot p.name record) := by
  rcases List.mem_cons.mp h with rfl | h
  · exact .inl rfl
  rcases List.mem_cons.mp h with rfl | h
  · exact .inr (.inl rfl)
  cases hrec : recordOf (answersAt c w) p with
  | error e => simp [packageFiles, hrec] at h
  | ok record =>
    simp only [packageFiles, hrec, List.mem_append, List.mem_map, List.mem_singleton] at h
    rcases h with ⟨m, -, rfl⟩ | rfl
    · exact .inr (.inr (.inl ⟨m, rfl⟩))
    · exact .inr (.inr (.inr ⟨record, rfl, rfl⟩))

theorem consistent_packageItems : Disk.Consistent (packageItems c w isRoot p) := by
  have hne : Text.ofString sourcesFolder ≠ Text.ofString Manifest.fileName := by decide
  intro a ha b hb hab
  rcases mem_packageItems ha with rfl | rfl | ⟨m, rfl⟩ | ⟨r, hr, rfl⟩ <;>
    rcases mem_packageItems hb with rfl | rfl | ⟨n, rfl⟩ | ⟨r', hr', rfl⟩ <;>
    simp only [textItem, List.cons.injEq, reduceCtorEq, and_true, and_false, true_and, hne,
      hne.symm] at hab
  · rfl
  · rfl
  · obtain rfl := sourceFile_inj hab
    rfl
  · obtain rfl := Except.ok.inj (hr.symm.trans hr')
    rfl

/-- No package has anything of its own in the folder of the dependencies. -/
theorem apart_packageItems (h : a ∈ packageItems c w isRoot p) {k : Location} :
    a.1 ≠ Text.ofString Manifest.dependenciesFolder :: k := by
  have hs : Text.ofString sourcesFolder ≠ Text.ofString Manifest.dependenciesFolder := by decide
  have hm : Text.ofString Manifest.fileName ≠ Text.ofString Manifest.dependenciesFolder := by
    decide
  rcases mem_packageItems h with rfl | rfl | ⟨m, rfl⟩ | ⟨r, -, rfl⟩ <;> simp [textItem, hs, hm]

/-- Files of a package change nothing in the folder of the dependencies. -/
theorem item?_dependencies {d d' : Disk} {l k : Location}
    (h : Disk.Gains d (under l (packageFiles c w isRoot p)) d') :
    d'.item? (l ++ Text.ofString Manifest.dependenciesFolder :: k) =
      d.item? (l ++ Text.ofString Manifest.dependenciesFolder :: k) := by
  rw [h.items, Disk.overlay_of_notMem]
  intro hmem
  obtain ⟨a, ha, hak⟩ := List.mem_map.mp hmem
  obtain ⟨e, he, rfl⟩ := List.mem_map.mp ha
  have hmem' : e ∈ packageItems c w isRoot p := List.mem_cons_of_mem _ (List.mem_cons_of_mem _ he)
  exact apart_packageItems hmem' (List.append_cancel_left hak)

/-- In the folder of a dependency stands what belongs to it, if no other has that folder. -/
theorem mem_layout_dependency (hinj : ∀ d ∈ ds, ∀ d' ∈ ds, d.folder = d'.folder → d = d')
    {d : Dependency} (hd : d ∈ ds) {k : Location} {e : Option ByteArray} :
    (Text.ofString Manifest.dependenciesFolder :: d.folder :: k, e) ∈ layout c w root ds ↔
      (k, e) ∈ packageItems c w false d.target := by
  rw [layout, List.mem_append, List.mem_cons, List.mem_flatMap]
  constructor
  · rintro (h | h | ⟨d', hd', h⟩)
    · exact absurd rfl (apart_packageItems h)
    · simp at h
    · obtain ⟨⟨k', e'⟩, hk, heq⟩ := List.mem_map.mp h
      simp only [Prod.mk.injEq, List.cons_append, List.nil_append, List.cons.injEq, true_and]
        at heq
      obtain ⟨⟨hf, rfl⟩, rfl⟩ := heq
      obtain rfl := hinj d' hd' d hd hf
      exact hk
  · exact fun h => .inr (.inr ⟨d, hd, List.mem_map.mpr ⟨(k, e), h, rfl⟩⟩)

theorem consistent_layout (hinj : ∀ d ∈ ds, ∀ d' ∈ ds, d.folder = d'.folder → d = d') :
    Disk.Consistent (layout c w root ds) := by
  have hshape : ∀ a ∈ layout c w root ds, a ∈ packageItems c w true root ∨
      a = ([Text.ofString Manifest.dependenciesFolder], none) ∨
        ∃ d ∈ ds, ∃ k, a.1 = Text.ofString Manifest.dependenciesFolder :: d.folder :: k ∧
          (k, a.2) ∈ packageItems c w false d.target := by
    intro a ha
    rcases List.mem_append.mp ha with ha | ha
    · exact .inl ha
    rcases List.mem_cons.mp ha with rfl | ha
    · exact .inr (.inl rfl)
    obtain ⟨d, hd, ha⟩ := List.mem_flatMap.mp ha
    obtain ⟨e, he, rfl⟩ := List.mem_map.mp ha
    exact .inr (.inr ⟨d, hd, e.1, rfl, he⟩)
  intro a ha b hb hab
  rcases hshape a ha with ha | rfl | ⟨d, hd, k, hk, ha⟩ <;>
    rcases hshape b hb with hb | rfl | ⟨d', hd', k', hk', hb⟩
  · exact consistent_packageItems a ha b hb hab
  · exact absurd hab (apart_packageItems ha)
  · exact absurd (hab.trans hk') (apart_packageItems ha)
  · exact absurd hab.symm (apart_packageItems hb)
  · rfl
  · simp [hk'] at hab
  · exact absurd (hab.symm.trans hk) (apart_packageItems hb)
  · simp [hk] at hab
  · rw [hk, hk'] at hab
    simp only [List.cons.injEq, true_and] at hab
    obtain ⟨hf, rfl⟩ := hab
    obtain rfl := hinj d hd d' hd' hf
    have heq := consistent_packageItems _ ha _ hb rfl
    exact Prod.ext (hk.trans hk'.symm) (Prod.mk.inj heq).2

theorem consistent_under {l : Location} {es : List DiskItem} (h : Disk.Consistent es) :
    Disk.Consistent (under l es) := by
  intro a ha b hb hab
  obtain ⟨e, he, rfl⟩ := List.mem_map.mp ha
  obtain ⟨f, hf, rfl⟩ := List.mem_map.mp hb
  rw [h e he f hf (List.append_cancel_left hab)]

theorem mem_under {l k : Location} {es : List DiskItem} {e : Option ByteArray} :
    (l ++ k, e) ∈ under l es ↔ (k, e) ∈ es := by
  simp [under]

end MoveSkeleton.Skeleton
