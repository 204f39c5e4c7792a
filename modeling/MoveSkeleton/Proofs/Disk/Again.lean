import MoveSkeleton.Proofs.Disk.Place

/-! Folders created again. Where all is there that was created before, nothing more is; where some
of it is missing, it comes back. -/
namespace MoveSkeleton.Disk

variable {a a' b c d d' : Disk} {s t : Spot} {l : Location} {p q : Path} {name : Text}
  {parts : List Text} {es : List DiskItem} {n : Nat} {x : Unit} {fault : DiskFault}

/-- What is a folder once the disk has grown was one before, or nothing stood there. -/
theorem Grows.at?_eq (h : Grows d d') (ho : d'.Opens s) :
    d.at? s = none ∨ ∃ members, d.at? s = some (.folder members) := by
  rcases hat : d.at? s with _ | content | members
  · exact .inl rfl
  · have hlost : s.lost = 0 := by
      by_contra hne
      rw [at?, if_neg hne] at hat
      cases hat
    have hfile : d.item? s.location = some (some content) := by
      rw [at?, if_pos hlost] at hat
      rw [item?, Tree.item?, hat]
      rfl
    obtain ⟨y, hy, hsome⟩ := h.kept _ _ hfile
    rw [ho hlost] at hy
    obtain rfl := Option.some.inj hy
    cases hsome
  · exact .inr ⟨members, rfl⟩

/-- A way that leads somewhere once the disk has grown led there before, or something was missing
on it. -/
theorem Grows.reaches_or_misses (h : Grows d d') (hr : d'.Reaches s parts t) :
    d.Reaches s parts t ∨ d.Misses s parts := by
  induction parts using List.reverseRecOn generalizing t with
  | nil => exact .inl hr
  | append_singleton parts part ih =>
    obtain ⟨u, hu, ht⟩ := reaches_append.mp hr
    obtain ⟨ho, hstep⟩ := enter_eq_ok_iff.mp (reaches_singleton.mp ht)
    have hlast : d.enter u part = .ok t ∨ d.enter u part = .error .missing := by
      unfold enter
      rcases h.at?_eq ho with hat | ⟨members, hat⟩
      · rw [hat]
        exact .inr rfl
      · rw [hat]
        rcases hstep with ⟨rfl, rfl⟩ | ⟨hn, hlost, hsize, -, rfl⟩
        · exact .inl rfl
        · dsimp only
          rw [if_neg hn, if_neg (by omega), if_neg (by omega)]
          split
          · exact .inl rfl
          · exact .inr rfl
    rcases ih hu with hu | hm
    · rcases hlast with hlast | hlast
      · exact .inl (reaches_append.mpr ⟨u, hu, reaches_singleton.mpr hlast⟩)
      · exact .inr (misses_append.mpr (.inr ⟨u, hu, misses_singleton.mpr hlast⟩))
    · exact .inr (misses_append.mpr (.inl hm))

/-- Where the folder that is to hold another comes to be only later, that other cannot be created
for want of something. -/
theorem Grows.hasFolder_or_missing (h : Grows d d') (hq : d'.HasFolder q)
    (hs : Path.size (q.below [name]).text ≤ maxPath) :
    d.HasFolder q ∨ d.makeFolder (q.below [name]) = .error .missing := by
  obtain ⟨t, ht, ho⟩ := hq
  rw [h.start] at ht
  -- The folder is not found on the way, or nothing is found there.
  rcases h.reaches_or_misses ht with hr | hm
  · rcases h.at?_eq ho with hat | hat
    · exact .inr (makeFolder_of_misses hs (.inr ⟨t, hr, hat⟩))
    · exact .inl ⟨t, hr, opens_iff.mpr hat⟩
  · exact .inr (makeFolder_of_misses hs (.inl hm))

/-- All that stands on the first disk stands on the second. -/
structure Under (d d' : Disk) : Prop where
  here : d'.here = d.here
  lost : d'.lost = d.lost
  item : ∀ l x, d.item? l = some x → d'.item? l = some x

theorem Under.refl (d : Disk) : Under d d :=
  ⟨rfl, rfl, fun _ _ h => h⟩

theorem Under.trans (h : Under a b) (h' : Under b c) : Under a c :=
  ⟨h'.here.trans h.here, h'.lost.trans h.lost, fun l x hx => h'.item l x (h.item l x hx)⟩

theorem Under.grows (h : Under d d') : Grows d d' :=
  ⟨h.here, h.lost, fun l x hx => ⟨x, h.item l x hx, rfl⟩⟩

theorem Under.antisymm (h : Under a b) (h' : Under b a) (l : Location) : a.item? l = b.item? l := by
  cases hb : b.item? l with
  | some x => exact h'.item l x hb
  | none =>
    by_contra hne
    obtain ⟨x, hx⟩ := Option.ne_none_iff_exists'.mp hne
    cases hb.symm.trans (h.item l x hx)

/-- What is written where nothing stood leaves all that stood. -/
theorem Gains.under (h : Gains d es d') (hes : ∀ e ∈ es, d.item? e.1 = none) : Under d d' := by
  refine ⟨h.here, h.lost, fun l y hl => ?_⟩
  rw [h.items, overlay_of_notMem]
  · exact hl
  · intro hm
    obtain ⟨e, he, rfl⟩ := List.mem_map.mp hm
    cases (hes e he).symm.trans hl

/-- What stands on the second disk already may be written on the first. -/
theorem Under.of_gains (h : Under a b) (hg : Gains a es a')
    (hes : ∀ e ∈ es, b.item? e.1 = some e.2) : Under a' b := by
  have hc : Consistent es := fun e he f hf hef => Prod.ext hef
    (Option.some.inj ((hes e he).symm.trans ((congrArg b.item? hef).trans (hes f hf))))
  refine ⟨h.here.trans hg.here.symm, h.lost.trans hg.lost.symm, fun l y hl => ?_⟩
  rw [hg.items] at hl
  by_cases hm : l ∈ es.map (·.1)
  · obtain ⟨e, he, rfl⟩ := List.mem_map.mp hm
    exact (hes e he).trans ((overlay_of_mem hc he).symm.trans hl)
  · rw [overlay_of_notMem hm] at hl
    exact h.item l y hl

/-- Where folders are created all else stays. -/
theorem Creates.under (h : Creates d p d') : Under d d' := by
  obtain ⟨es, hg, hes⟩ := h
  exact hg.under fun e he => (hes e he).2.1

theorem Ensures.under (h : Ensures d p d') : Under d d' :=
  Creates.under h.gains

theorem Places.mono (h : d.Places p l name) (hg : Grows d d') : d'.Places p l name where
  short := h.short
  way := by
    obtain ⟨parts, hparts, hr⟩ := h.way
    exact ⟨parts, hparts, hg.start p ▸ hg.reaches hr⟩
  folder := hg.folder h.folder
  down := h.down
  name_short := h.name_short

theorem HasFolder.of_below (h : d.HasFolder (q.below [name])) : d.HasFolder q := by
  obtain ⟨t, ht, -⟩ := h
  obtain ⟨u, hu, hlast⟩ := reaches_append.mp ht
  exact ⟨u, hu, (enter_eq_ok_iff.mp (reaches_singleton.mp hlast)).1⟩

/-- A folder is created only in one that is there. -/
theorem hasFolder_of_returns (h : Returns (ensureFolder (q.below [name])) d x d') :
    d.HasFolder q := by
  rcases returns_ensureFolder.mp h with hm | ⟨hthere, -⟩
  · obtain ⟨l, n, hp, -, -⟩ := makeFolder_eq_ok_iff.mp hm
    obtain ⟨parts, hparts, hr⟩ := hp.way
    obtain ⟨rfl, -⟩ := List.append_inj' hparts rfl
    exact ⟨_, hr, fun _ => hp.folder⟩
  · exact (isFolder?_eq_true_iff.mp hthere).2.2.of_below

/-- Where some of what is there once a folder has been created was there already, the folder can be
created as well. -/
theorem Under.returns_ensureFolder (hb : Under a b) (hc : Under b c)
    (h : Returns (ensureFolder p) a x a') (ha' : Under a' c) (hf : DiskFault.ofPath? p = none) :
    ∃ b', Returns (ensureFolder p) b x b' ∧ Under a' b' ∧ Under b' c := by
  rcases Disk.returns_ensureFolder.mp h with hm | ⟨hthere, rfl⟩
  · obtain ⟨l, name, hp, hnone, rfl⟩ := makeFolder_eq_ok_iff.mp hm
    have hpb := hp.mono hb.grows
    have hga := gains_empty hp.folder hnone
    have hnew : c.item? (l ++ [name]) = some none :=
      ha'.item _ _ (hga.folder_of_mem (by simp) (by simp))
    cases hy : b.item? (l ++ [name]) with
    | none =>
      have hgb := gains_empty hpb.folder hy
      refine ⟨_, Disk.returns_ensureFolder.mpr (.inl (makeFolder_eq_ok_iff.mpr
        ⟨l, name, hpb, hy, rfl⟩)), (hb.trans (hgb.under (by simpa using hy))).of_gains hga ?_,
        hc.of_gains hgb (by simpa using hnew)⟩
      simpa using hgb.folder_of_mem (l := l ++ [name]) (by simp) (by simp)
    | some y =>
      have hfolder : b.item? (l ++ [name]) = some none := by
        rw [hy, ← hnew]
        exact (hc.item _ _ hy).symm
      have hthere := (hpb.at (.refl b) (by simp [hfolder])).hasFolder hfolder
      exact ⟨b, Disk.returns_ensureFolder.mpr (.inr
        ⟨isFolder?_eq_true_iff.mpr ⟨hf, hp.short, hthere⟩, rfl⟩),
        hb.of_gains hga (by simpa using hfolder), hc⟩
  · obtain ⟨-, hs, hfolder⟩ := isFolder?_eq_true_iff.mp hthere
    have hthere' := isFolder?_eq_true_iff.mpr ⟨hf, hs, hfolder.mono hb.grows⟩
    exact ⟨b, Disk.returns_ensureFolder.mpr (.inr ⟨hthere', rfl⟩), hb, hc⟩

theorem ofPath?_first (hf : DiskFault.ofPath? p = none) : DiskFault.ofPath? (first p n) = none :=
  Path.ofPath?_eq_none_iff.mpr fun part hpart =>
    Path.ofPath?_eq_none_iff.mp hf part (List.mem_of_mem_take hpart)

theorem first_succ (hn : n < p.parts.length) :
    first p (n + 1) = (first p n).below [p.parts[n]] := by
  rw [first, first, Path.below, List.take_append_getElem hn]

/-- Nothing is done for a folder that is there. -/
theorem returns_upTo_of_hasFolder (hf : DiskFault.ofPath? p = none)
    (hs : Path.size (first p n).text ≤ maxPath) (h : d.HasFolder (first p n)) :
    Returns (ensureFolderUpTo p n) d () d :=
  returns_upTo_of_last (returns_ensureFolder.mpr (.inr
    ⟨isFolder?_eq_true_iff.mpr ⟨ofPath?_first hf, hs, h⟩, rfl⟩))

private theorem Under.returns_upTo (hf : DiskFault.ofPath? p = none) (hn : n ≤ p.parts.length)
    (hb : Under a b) (hc : Under b c) (h : Returns (ensureFolderUpTo p n) a x a')
    (ha' : Under a' c) :
    ∃ b', Returns (ensureFolderUpTo p n) b x b' ∧ Under a' b' ∧ Under b' c := by
  induction n generalizing a' x with
  | zero =>
    refine hb.returns_ensureFolder hc h ha' ?_
    rw [← first_zero]
    exact ofPath?_first hf
  | succ n ih =>
    rcases returns_upTo_succ.mp h with h | ⟨-, a₁, h₁, h₂⟩
    · obtain ⟨b', hb', hunder⟩ := hb.returns_ensureFolder hc h ha' (ofPath?_first hf)
      exact ⟨b', returns_upTo_succ.mpr (.inl hb'), hunder⟩
    · have hens := Ensures.of_returns h₂
      obtain ⟨b₁, hb₁, hab, hbc⟩ := ih (Nat.le_of_succ_le hn) h₁ (hens.under.trans ha')
      obtain ⟨b', hb', hunder⟩ := hab.returns_ensureFolder hbc h₂ ha' (ofPath?_first hf)
      refine ⟨b', ?_, hunder⟩
      have hs : Path.size ((first p n).below [p.parts[n]]).text ≤ maxPath :=
        first_succ hn ▸ hens.short
      have hens₁ := ensures_of_upTo hb₁
      rcases hens₁.grows.hasFolder_or_missing hens₁.folder hs with hthere | hm
      · obtain ⟨-, rfl⟩ := (returns_upTo_of_hasFolder hf
          (Path.size_text_le_of_below hs) hthere).unique hb₁
        exact returns_upTo_succ.mpr (.inl hb')
      · exact returns_upTo_succ.mpr (.inr ⟨first_succ hn ▸ hm, b₁, hb₁, hb'⟩)

/-- Where some of the folders that were created are there and others are not, the same folders come
to be there. -/
theorem Under.returns_ensureFolders (hb : Under a b) (hc : Under b a')
    (h : Returns (ensureFolders p) a x a') :
    ∃ b', Returns (ensureFolders p) b x b' ∧ b'.here = a'.here ∧ b'.lost = a'.lost ∧
      ∀ l, b'.item? l = a'.item? l := by
  obtain ⟨_, u, hcheck, hrun⟩ := returns_bind.mp h
  obtain ⟨hf, rfl⟩ := returns_checkPath.mp hcheck
  obtain ⟨b', hb', hle, hge⟩ := hb.returns_upTo hf (Nat.le_refl _) hc hrun (.refl a')
  exact ⟨b', returns_bind.mpr ⟨(), b, returns_checkPath.mpr ⟨hf, rfl⟩, hb'⟩, hle.here, hle.lost,
    hge.antisymm hle⟩

private theorem fails_upTo_again (hf : DiskFault.ofPath? p = none) (hn : n ≤ p.parts.length)
    (h : Fails (ensureFolderUpTo p n) d fault d') :
    ∃ fault', Fails (ensureFolderUpTo p n) d' fault' d' := by
  induction n generalizing fault d d' with
  | zero =>
    obtain rfl := fails_ensureFolder h
    exact ⟨fault, h⟩
  | succ n ih =>
    by_cases hm : d.makeFolder (first p (n + 1)) = .error .missing
    · rcases fails_bind.mp ((run_upTo_of_missing hm).symm.trans h) with h | ⟨_, e, h, hlast⟩
      · obtain ⟨fault', h'⟩ := ih (Nat.le_of_succ_le hn) h
        by_cases hm' : d'.makeFolder (first p (n + 1)) = .error .missing
        · exact ⟨fault', (run_upTo_of_missing hm').trans (fails_bind.mpr (.inl h'))⟩
        · -- The folder that is to hold the last one could not be created.
          rcases returns_or_fails (ensureFolder (first p (n + 1))) d' with ⟨x, hr⟩ | ⟨fault', hr⟩
          · have hs := (Ensures.of_returns hr).short
            rw [first_succ hn] at hr hs
            exact absurd (returns_upTo_of_hasFolder hf (Path.size_text_le_of_below hs)
              (hasFolder_of_returns hr)) h'.not_returns
          · have hsame := fails_ensureFolder hr
            rw [hsame] at hr
            exact ⟨fault', (run_upTo_of_ne hm').trans hr⟩
      · obtain rfl := fails_ensureFolder hlast
        have hens := ensures_of_upTo h
        by_cases hm' : d'.makeFolder (first p (n + 1)) = .error .missing
        · refine ⟨fault, (run_upTo_of_missing hm').trans (fails_bind.mpr (.inr
            ⟨(), d', returns_upTo_of_hasFolder hf hens.short hens.folder, hlast⟩))⟩
        · exact ⟨fault, (run_upTo_of_ne hm').trans hlast⟩
    · have hlast : Fails (ensureFolder (first p (n + 1))) d fault d' :=
        (run_upTo_of_ne hm).symm.trans h
      obtain rfl := fails_ensureFolder hlast
      exact ⟨fault, h⟩

/-- What could not be created cannot be created after that, and nothing more comes of it. -/
theorem fails_ensureFolders_again (h : Fails (ensureFolders p) d fault d') :
    ∃ fault', Fails (ensureFolders p) d' fault' d' := by
  rcases fails_bind.mp h with hcheck | ⟨_, u, hcheck, hrun⟩
  · obtain rfl := fails_checkPath hcheck
    exact ⟨fault, h⟩
  · obtain ⟨hf, rfl⟩ := returns_checkPath.mp hcheck
    obtain ⟨fault', h'⟩ := fails_upTo_again hf (Nat.le_refl _) hrun
    exact ⟨fault', fails_bind.mpr (.inr ⟨(), d', returns_checkPath.mpr ⟨hf, rfl⟩, h'⟩)⟩

/-- Nothing is created at a path that is too long. -/
theorem after_ensureFolders_of_long (h : maxPath < Path.size p.text) :
    after (ensureFolders p) d = d := by
  have hlong : after (ensureFolder p) d = d := by
    rcases returns_or_fails (ensureFolder p) d with ⟨x, hr⟩ | ⟨fault, hr⟩
    · exact absurd (Ensures.of_returns hr).short (Nat.not_le.mpr h)
    · exact fails_ensureFolder hr
  have hp : first p p.parts.length = p := by simp [first]
  refine after_bind (P := (· = d)) (fun _ hc => fails_checkPath hc) fun _ hc => ?_
  rw [(returns_checkPath.mp hc).2]
  cases hn : p.parts.length with
  | zero =>
    rw [hn, first_zero] at hp
    rw [ensureFolderUpTo, hp]
    exact hlong
  | succ n =>
    rw [hn] at hp
    have hm : d.makeFolder (first p (n + 1)) ≠ .error .missing := by
      rw [hp, makeFolder, locateLast, if_pos h]
      simp [bind, Except.bind]
    have hrun := run_upTo_of_ne hm
    rw [hp] at hrun
    exact (congrArg Prod.snd hrun).trans hlong

end MoveSkeleton.Disk
