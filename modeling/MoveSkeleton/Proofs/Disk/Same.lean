import MoveSkeleton.Proofs.Disk.Folders
import MoveSkeleton.Proofs.Together

/-! Disks on which the same stands everywhere. What is done on the one can be done on the other. -/
namespace MoveSkeleton.Disk

variable {A : Prop} {d e d' : Disk} {s : Spot} {l : Location} {p : Path} {part : Text}
  {lapse : DiskLapse} {content : ByteArray}

/-- The same stands everywhere on both disks. If paths may begin at the working folder, that is the
same too. -/
structure Same (A : Prop) (d e : Disk) : Prop where
  item : ∀ l, d.item? l = e.item? l
  here : A → d.here = e.here ∧ d.lost = e.lost

/-- The path begins at the working folder only if paths may. -/
def Fits (A : Prop) (p : Path) : Prop :=
  p.anchor = .here → A

theorem Fits.join (h : Fits A p) (t : Text) : Fits A (p.join t) := by
  unfold Fits Path.join at *
  dsimp only
  split
  · exact h
  · next hne => exact fun ha => absurd ha hne

theorem Same.refl (A : Prop) (d : Disk) : Same A d d :=
  ⟨fun _ => rfl, fun _ => ⟨rfl, rfl⟩⟩

theorem Same.start (h : Same A d e) (hp : Fits A p) : d.start p = e.start p := by
  unfold Disk.start
  cases ha : p.anchor with
  | here =>
    obtain ⟨hhere, hlost⟩ := h.here (hp ha)
    rw [hhere, hlost]
  | root | doubleRoot => rfl

/-- Of the same kind is what stands at a spot of both disks, if the same stands in its place. -/
theorem at?_of_item (hs : d.item? s.location = e.item? s.location) :
    (d.at? s = none ∧ e.at? s = none) ∨
      (∃ content, d.at? s = some (.file content) ∧ e.at? s = some (.file content)) ∨
      ∃ members members', d.at? s = some (.folder members) ∧ e.at? s = some (.folder members') := by
  have hat : (d.at? s).map Tree.content? = (e.at? s).map Tree.content? := by
    unfold at?
    split
    · exact hs
    · rfl
  rcases hd : d.at? s with _ | content | members <;>
    rcases he : e.at? s with _ | content' | members' <;> simp_all [Tree.content?]

/-- A member of a folder is entered on both disks alike, if the same stands in the place of the
folder and of the member. -/
theorem enter_of_items (hs : d.item? s.location = e.item? s.location)
    (hp : d.item? (s.location ++ [part]) = e.item? (s.location ++ [part])) :
    d.enter s part = e.enter s part := by
  unfold enter
  rw [get?_isSome, get?_isSome, hp]
  rcases at?_of_item hs with ⟨hd, he⟩ | ⟨_, hd, he⟩ | ⟨_, _, hd, he⟩ <;> rw [hd, he]

theorem Same.enter (h : Same A d e) : d.enter = e.enter :=
  funext₂ fun _ _ => enter_of_items (h.item _) (h.item _)

theorem Same.locate (h : Same A d e) (hp : Fits A p) : d.locate p = e.locate p := by
  unfold Disk.locate
  rw [h.start hp, h.enter]

theorem Same.exists? (h : Same A d e) (hp : Fits A p) : d.exists? p = e.exists? p := by
  unfold Disk.exists?
  rw [h.locate hp]

theorem Same.isFolder (h : Same A d e) (s : Spot) :
    (d.at? s).any Tree.isFolder = (e.at? s).any Tree.isFolder := by
  rw [Bool.eq_iff_iff, any_isFolder_at?_iff, any_isFolder_at?_iff, Opens, Opens, h.item]

theorem Same.isFolder? (h : Same A d e) (hp : Fits A p) : d.isFolder? p = e.isFolder? p := by
  unfold Disk.isFolder?
  simp only [h.locate hp, h.isFolder]

theorem Same.locateLast (h : Same A d e) (hp : Fits A p) : d.locateLast p = e.locateLast p := by
  unfold Disk.locateLast
  rw [h.start hp, h.enter]
  split
  · rfl
  · cases p.parts.dropLast.foldlM e.enter (e.start p) with
    | error lapse => rfl
    | ok s =>
      simp only [bind, Except.bind]
      rcases at?_of_item (h.item s.location) with ⟨hd, he⟩ | ⟨_, hd, he⟩ | ⟨_, _, hd, he⟩ <;>
        rw [hd, he]

/-- The location of a folder that can be created. -/
def vacancy (d : Disk) (p : Path) : Except DiskLapse Location := do
  match ← d.locateLast p with
  | (_, none) => .error .exists
  | (s, some name) =>
    if name = ".." then .error .exists
    else
      let l ← newMember s name
      if (d.root.get? l).isSome then .error .exists else return l

theorem makeFolder_eq (d : Disk) (p : Path) :
    d.makeFolder p = (d.vacancy p).map fun l => { d with root := d.root.put l .empty } := by
  unfold makeFolder vacancy
  rcases d.locateLast p with lapse | ⟨s, _ | name⟩
  · rfl
  · rfl
  · simp only [bind, Except.bind]
    by_cases hn : name = ".."
    · rw [if_pos hn, if_pos hn]
      rfl
    · rw [if_neg hn, if_neg hn]
      cases newMember s name with
      | error lapse => rfl
      | ok l => cases h : (d.root.get? l).isSome <;> simp [h] <;> rfl

theorem Same.vacancy (h : Same A d e) (hp : Fits A p) : d.vacancy p = e.vacancy p := by
  unfold Disk.vacancy
  simp only [h.locateLast hp, get?_isSome, h.item]

/-- The same can be put in the same folder of both disks. -/
theorem Same.put (h : Same A d e) (hl : l ≠ []) (hfolder : d.item? l.dropLast = some none)
    (new : Tree) :
    Same A { d with root := d.root.put l new } { e with root := e.root.put l new } where
  item k := by
    have hfolder' : e.item? l.dropLast = some none := h.item _ ▸ hfolder
    have hitem := h.item k
    unfold Disk.item? at *
    rw [Tree.item?_put hl hfolder, Tree.item?_put hl hfolder', hitem]
  here := h.here

theorem Same.reaches {parts : List Text} {t : Spot} (h : Same A d e) :
    d.Reaches s parts t ↔ e.Reaches s parts t := by
  rw [Reaches, Reaches, h.enter]

theorem Same.places {name : Text} (h : Same A d e) (hp : Fits A p) (hd : d.Places p l name) :
    e.Places p l name where
  short := hd.short
  way := by
    obtain ⟨parts, hparts, hr⟩ := hd.way
    exact ⟨parts, hparts, h.start hp ▸ h.reaches.mp hr⟩
  folder := h.item l ▸ hd.folder
  down := hd.down
  name_short := hd.name_short

/-- What can be put into a folder of the one disk can be put there on the other. -/
theorem Same.put_places {name : Text} (h : Same A d e) (hd : d.Places p l name) (new : Tree) :
    Same A { d with root := d.root.put (l ++ [name]) new }
      { e with root := e.root.put (l ++ [name]) new } :=
  h.put (by simp) (by simpa using hd.folder) new

theorem Same.makeFolder (h : Same A d e) (hp : Fits A p) :
    (∃ lapse, d.makeFolder p = .error lapse ∧ e.makeFolder p = .error lapse) ∨
      ∃ d' e', d.makeFolder p = .ok d' ∧ e.makeFolder p = .ok e' ∧ Same A d' e' := by
  cases hd : d.makeFolder p with
  | error lapse =>
    refine .inl ⟨lapse, rfl, ?_⟩
    rw [makeFolder_eq, ← h.vacancy hp]
    rw [makeFolder_eq] at hd
    cases hv : d.vacancy p with
    | error lapse' =>
      rw [hv] at hd
      cases hd
      rfl
    | ok l =>
      rw [hv] at hd
      cases hd
  | ok d' =>
    obtain ⟨l, name, hplaces, hnone, rfl⟩ := makeFolder_eq_ok_iff.mp hd
    refine .inr ⟨_, _, rfl, makeFolder_eq_ok_iff.mpr ⟨l, name, h.places hp hplaces, ?_, rfl⟩, ?_⟩
    · rw [← h.item, hnone]
    · exact h.put_places hplaces .empty

theorem Same.locateFile (h : Same A d e) (hp : Fits A p) : d.locateFile p = e.locateFile p := by
  unfold Disk.locateFile
  rw [h.locateLast hp]
  rcases e.locateLast p with lapse | ⟨s, _ | name⟩
  · rfl
  · rfl
  · simp only [bind, Except.bind]
    split
    · rfl
    · cases newMember s name with
      | error lapse => rfl
      | ok l =>
        dsimp only
        rcases at?_of_item (s := ⟨l, 0⟩) (h.item l) with ⟨hd, he⟩ | ⟨_, hd, he⟩ | ⟨_, _, hd, he⟩ <;>
          simp only [at?, if_true] at hd he <;> rw [hd, he]

theorem together_checkPath (p : Path) :
    Together (Same A) (checkPath p) (checkPath p) (fun _ _ => Same A) (Same A) := by
  unfold checkPath
  cases DiskFault.ofPath? p with
  | some fault => exact .throw fun _ _ h => h
  | none => exact .pure fun _ _ h => h

theorem together_tolerate (hp : Fits A p) (lapse : DiskLapse) :
    Together (Same A) (tolerate p lapse) (tolerate p lapse) (fun _ _ => Same A) (Same A) := by
  unfold tolerate
  refine .get_bind fun d e h => ?_
  rw [h.isFolder? hp]
  rcases e.isFolder? p with fault | _ | _
  · exact .failed h
  · exact .failed h
  · exact .returned h

theorem together_ensureFolder (hp : Fits A p) :
    Together (Same A) (ensureFolder p) (ensureFolder p) (fun _ _ => Same A) (Same A) := by
  unfold ensureFolder
  refine .get_bind fun d e h => ?_
  rcases h.makeFolder hp with ⟨lapse, hd, he⟩ | ⟨d', e', hd, he, h'⟩
  · rw [hd, he]
    cases lapse with
    | missing => exact .failed h
    | _ => exact together_tolerate hp _ d e h
  · rw [hd, he]
    exact .returned h'

theorem together_ensureFolderUpTo (hp : Fits A p) (n : Nat) :
    Together (Same A) (ensureFolderUpTo p n) (ensureFolderUpTo p n) (fun _ _ => Same A)
      (Same A) := by
  induction n with
  | zero => exact together_ensureFolder (p := { p with parts := [] }) hp
  | succ n ih =>
    have hq : Fits A { p with parts := p.parts.take (n + 1) } := hp
    unfold ensureFolderUpTo
    refine .get_bind fun d e h => ?_
    rcases h.makeFolder hq with ⟨lapse, hd, he⟩ | ⟨d', e', hd, he, h'⟩
    · rw [hd, he]
      cases lapse with
      | missing => exact ih.bind (fun _ _ => together_ensureFolder hq) d e h
      | _ => exact together_tolerate hq _ d e h
    · rw [hd, he]
      exact .returned h'

/-- A folder and those on the way to it are created on both disks, or on neither. -/
theorem together_ensureFolders (hp : Fits A p) :
    Together (Same A) (ensureFolders p) (ensureFolders p) (fun _ _ => Same A) (Same A) :=
  (together_checkPath p).bind fun _ _ => together_ensureFolderUpTo hp _

/-- A file is written on both disks, or on neither. -/
theorem together_writeFile (hp : Fits A p) (content : ByteArray) :
    Together (Same A) (writeFile p content) (writeFile p content) (fun _ _ => Same A)
      (Same A) := by
  refine (together_checkPath p).bind fun _ _ => .get_bind fun d e h => ?_
  cases hl : d.locateFile p with
  | error lapse =>
    rw [← h.locateFile hp, hl]
    exact .failed h
  | ok k =>
    obtain ⟨l, name, hplaces, -, rfl⟩ := locateFile_eq_ok_iff.mp hl
    rw [← h.locateFile hp, hl]
    exact .returned (h.put_places hplaces (.file content))

end MoveSkeleton.Disk
