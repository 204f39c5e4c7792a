import MoveSkeleton.Proofs.Disk.Removal
import MoveSkeleton.Proofs.Failing

/-! Where paths lead by their parts alone, and what stays on a disk outside the place of a path. -/
namespace MoveSkeleton

namespace Path

/-- Whether the parts lead up no further than what is `depth` above their beginning. -/
def within : Nat → List Text → Bool
  | _, [] => true
  | depth, part :: rest =>
    if part = ".." then decide (0 < depth) && within (depth - 1) rest else within (depth + 1) rest

/-- The text names a path from here on that leads up no further than `depth`. -/
def Stays (depth : Nat) (t : Text) : Prop :=
  (ofText t).anchor = .here ∧ within depth (ofText t).parts = true

instance (depth : Nat) : DecidablePred (Stays depth) :=
  fun t => inferInstanceAs (Decidable ((ofText t).anchor = .here ∧
    within depth (ofText t).parts = true))

variable {m n : Nat} {part t : Text} {parts more : List Text} {p : Path}

theorem within_cons_of_ne (h : part ≠ "..") :
    within n (part :: parts) = within (n + 1) parts := by
  rw [within, if_neg h]

theorem within_mono (h : within m parts = true) (hmn : m ≤ n) : within n parts = true := by
  induction parts generalizing m n with
  | nil => rfl
  | cons part rest ih =>
    rw [within] at h ⊢
    split at h
    · next hp =>
      rw [if_pos hp]
      simp only [Bool.and_eq_true, decide_eq_true_eq] at h ⊢
      exact ⟨by omega, ih h.2 (by omega)⟩
    · next hp =>
      rw [if_neg hp]
      exact ih h (by omega)

theorem within_append (h : within n parts = true) (h' : within 0 more = true) :
    within n (parts ++ more) = true := by
  induction parts generalizing n with
  | nil => exact within_mono h' (Nat.zero_le n)
  | cons part rest ih =>
    rw [List.cons_append, within]
    rw [within] at h
    split at h
    · next hp =>
      rw [if_pos hp]
      simp only [Bool.and_eq_true] at h ⊢
      exact ⟨h.1, ih h.2⟩
    · next hp =>
      rw [if_neg hp]
      exact ih h

theorem within_of_prefix (h : within n more = true) (hp : parts <+: more) :
    within n parts = true := by
  induction parts generalizing n more with
  | nil => rfl
  | cons part rest ih =>
    obtain ⟨after, rfl⟩ := hp
    rw [List.cons_append, within] at h
    rw [within]
    split at h
    · next hp =>
      rw [if_pos hp]
      simp only [Bool.and_eq_true] at h ⊢
      exact ⟨h.1, ih h.2 (List.prefix_append ..)⟩
    · next hp =>
      rw [if_neg hp]
      exact ih h (List.prefix_append ..)

theorem join_of_here (h : (ofText t).anchor = .here) : p.join t = p.below (ofText t).parts := by
  unfold join
  dsimp only
  rw [h]
  rfl

theorem IsName.within (h : IsName t) : within n [t] = true :=
  within_cons_of_ne h.2

theorem IsName.stays (h : IsName t) : Stays n t := by
  unfold Stays
  rw [ofText_of_isPart h.1]
  exact ⟨rfl, h.within⟩

end Path

namespace Disk

variable {d d' e : Disk} {l k : Location} {p q : Path} {name : Text} {parts more : List Text}
  {s t : Spot} {content : ByteArray}

/-- Where parts lead from a location, if folders stand on the way. -/
def follow : Location → List Text → Location
  | l, [] => l
  | l, part :: rest => follow (if part = ".." then l.dropLast else l ++ [part]) rest

/-- Where a path leads, if folders stand on the way. -/
def place (d : Disk) (p : Path) : Location :=
  follow (d.start p).location p.parts

/-- Outside the place of the path nothing has changed, but for folders that were missing on the way
to it and are there now. -/
structure Confined (d : Disk) (p : Path) (d' : Disk) : Prop where
  here : d'.here = d.here
  apart : ∀ k, ¬ d.place p <+: k → d'.item? k = d.item? k ∨
    d.item? k = none ∧ d'.item? k = some none ∧
      ∃ parts, parts <+: p.parts ∧ k = d.place { p with parts := parts }

/-- The disk has grown, by nothing outside the location. -/
structure Extends (d : Disk) (l : Location) (d' : Disk) : Prop extends Grows d d' where
  apart : ∀ k, ¬ l <+: k → d'.item? k = d.item? k

theorem follow_append : follow l (parts ++ more) = follow (follow l parts) more := by
  induction parts generalizing l with
  | nil => rfl
  | cons part rest ih => exact ih

theorem follow_singleton (h : name ≠ "..") : follow l [name] = l ++ [name] := by
  rw [follow, if_neg h, follow]

/-- Names lead down. -/
theorem follow_of_descends (h : Descends parts) : follow l parts = l ++ parts := by
  induction parts generalizing l with
  | nil => exact (List.append_nil l).symm
  | cons part rest ih =>
    obtain ⟨hp, hrest⟩ := List.forall_mem_cons.mp h
    rw [follow, if_neg hp, ih hrest, List.append_assoc, List.singleton_append]

/-- Parts that do not lead up too far lead to what is below. -/
theorem prefix_follow (h : Path.within m parts = true) (hk : m ≤ k.length) :
    l <+: follow (l ++ k) parts := by
  induction parts generalizing m k with
  | nil => exact List.prefix_append ..
  | cons part rest ih =>
    rw [Path.within] at h
    rw [follow]
    split at h
    · next hp =>
      simp only [Bool.and_eq_true, decide_eq_true_eq] at h
      have hne : k ≠ [] := List.length_pos_iff.mp (by omega)
      rw [if_pos hp, List.dropLast_append_of_ne_nil hne]
      exact ih h.2 (by rw [List.length_dropLast]; omega)
    · next hp =>
      rw [if_neg hp, List.append_assoc]
      exact ih h (by rw [List.length_append]; exact Nat.add_le_add_right hk 1)

theorem Reaches.location (h : d.Reaches s parts t) : t.location = follow s.location parts := by
  induction parts using List.reverseRecOn generalizing t with
  | nil =>
    rw [reaches_nil.mp h]
    rfl
  | append_singleton parts part ih =>
    obtain ⟨u, hu, ht⟩ := reaches_append.mp h
    rw [follow_append, ← ih hu]
    rcases (enter_eq_ok_iff.mp (reaches_singleton.mp ht)).2 with ⟨rfl, rfl⟩ | ⟨hp, -, -, -, rfl⟩
    · rfl
    · exact (follow_singleton hp).symm

theorem At.location (h : d.At p l) : l = d.place p :=
  Reaches.location h

theorem place_of_here (h : d'.here = d.here) (p : Path) : d'.place p = d.place p := by
  have hstart : (d'.start p).location = (d.start p).location := by
    unfold start
    cases p.anchor <;> simp [h]
  rw [place, place, hstart]

theorem place_below : d.place (p.below parts) = follow (d.place p) parts :=
  follow_append

theorem place_below_name (h : name ≠ "..") : d.place (p.below [name]) = d.place p ++ [name] := by
  rw [place_below, follow_singleton h]

theorem Passes.location (h : d.Passes p l) :
    ∃ before, before <+: p.parts ∧ l = d.place { p with parts := before } := by
  obtain ⟨before, name, after, hparts, -, hr⟩ := h
  exact ⟨before ++ [name], ⟨after, by simp [hparts]⟩, hr.location⟩

theorem Confined.refl (d : Disk) (p : Path) : Confined d p d :=
  ⟨rfl, fun _ _ => .inl rfl⟩

theorem Confined.trans (h : Confined d p d') (h' : Confined d' p e) : Confined d p e where
  here := h'.here.trans h.here
  apart k hk := by
    rcases h'.apart k (by rwa [place_of_here h.here]) with heq | ⟨hnone, hthere, parts, hp, hk'⟩
    · rw [heq]
      exact h.apart k hk
    · rcases h.apart k hk with heq | ⟨-, hfolder, -⟩
      · exact .inr ⟨heq ▸ hnone, hthere, parts, hp, by rw [hk', place_of_here h.here]⟩
      · cases hnone.symm.trans hfolder

/-- What changes nothing outside the place of a path is confined to it. -/
theorem Confined.of_same (hhere : d'.here = d.here)
    (h : ∀ k, ¬ d.place p <+: k → d'.item? k = d.item? k) : Confined d p d' :=
  ⟨hhere, fun k hk => .inl (h k hk)⟩

/-- A folder that is ensured in another one stands in its place, and so does the other. -/
theorem Ensures.at_place (h : Ensures d (q.below [name]) d') (hn : name ≠ "..") :
    d'.At (q.below [name]) (d.place q ++ [name]) ∧ d'.item? (d.place q ++ [name]) = some none ∧
      d'.At q (d.place q) ∧ d'.item? (d.place q) = some none := by
  obtain ⟨t, ht, ho⟩ := h.folder
  obtain ⟨l, rfl, hq, hl, -⟩ := ht.at_of_below hn
  obtain rfl : l = d.place q := hq.location.trans (place_of_here h.grows.here q)
  exact ⟨ht, ho rfl, hq, hl⟩

theorem fails_tolerate {lapse : DiskLapse} {fault : DiskFault}
    (h : Fails (tolerate p lapse) d fault d') : d' = d := by
  unfold tolerate at h
  rw [fails_get_bind] at h
  split at h
  · exact absurd h not_fails_pure
  all_goals exact (fails_throw.mp h).2

theorem after_tolerate {lapse : DiskLapse} : after (tolerate p lapse) d = d := by
  rcases returns_or_fails (tolerate p lapse) d with ⟨x, h⟩ | ⟨fault, h⟩
  · exact (returns_tolerate.mp h).2
  · exact fails_tolerate h

theorem fails_ensureFolder {fault : DiskFault} (h : Fails (ensureFolder p) d fault d') :
    d' = d := by
  unfold ensureFolder at h
  rw [fails_get_bind] at h
  split at h
  · exact absurd h not_fails_set
  · exact (fails_throw.mp h).2
  · exact fails_tolerate h

theorem creates_ensureFolder (d : Disk) (p : Path) : Creates d p (after (ensureFolder p) d) := by
  rcases returns_or_fails (ensureFolder p) d with ⟨x, h⟩ | ⟨fault, h⟩
  · exact (Ensures.of_returns h).gains
  · rw [fails_ensureFolder h]
    exact .refl d p

private theorem creates_upTo (d : Disk) (p : Path) (n : Nat) :
    Creates d { p with parts := p.parts.take n } (after (ensureFolderUpTo p n) d) := by
  induction n with
  | zero => exact creates_ensureFolder d { p with parts := [] }
  | succ n ih =>
    have hq : ({ p with parts := p.parts.take (n + 1) } : Path) =
        ({ p with parts := p.parts.take n } : Path).below ((p.parts.drop n).take 1) := by
      simp [Path.below, List.take_add]
    have hone := creates_ensureFolder d { p with parts := p.parts.take (n + 1) }
    rw [ensureFolderUpTo]
    refine after_bind (P := Creates d _) (fun _ _ => .refl d _) fun d₀ hd₀ => ?_
    obtain ⟨rfl, hd⟩ := returns_get.mp hd₀
    rw [hd]
    split
    · next hm => exact (Ensures.of_makeFolder hm).gains
    · rw [hq]
      exact after_bind (P := Creates d₀ _) (fun _ _ => ih.mono) fun _ _ =>
        ih.below (creates_ensureFolder ..)
    · rw [after_tolerate]
      exact .refl d₀ _

/-- Whether it returns or fails, creating a folder and those on the way to it changes nothing
else. -/
theorem creates_ensureFolders (d : Disk) (p : Path) : Creates d p (after (ensureFolders p) d) := by
  refine after_bind (P := Creates d p) (fun fault h => ?_) fun x h => ?_
  · rw [fails_checkPath h]
    exact .refl d p
  · obtain ⟨-, hd⟩ := returns_checkPath.mp h
    have hupTo := creates_upTo d p p.parts.length
    rw [List.take_length] at hupTo
    rwa [hd]

/-- Folders on the way to a path below another are on the way to that, or in its place. -/
theorem Creates.confined (h : Creates d (p.below parts) d') (hw : Path.within 0 parts = true) :
    Confined d p d' := by
  obtain ⟨es, hg, hes⟩ := h
  refine ⟨hg.here, fun k hk => ?_⟩
  by_cases hm : k ∈ es.map (·.1)
  · obtain ⟨e, he, rfl⟩ := List.mem_map.mp hm
    obtain ⟨-, hnone, hpass⟩ := hes e he
    refine .inr ⟨hnone, hg.folder_of_mem (fun e he => (hes e he).1) hm, ?_⟩
    obtain ⟨before, hb, hplace⟩ := hpass.location
    rw [place_of_here hg.here] at hplace
    obtain ⟨rest, hrest⟩ := hb
    rcases List.append_eq_append_iff.mp hrest with ⟨c, hc, -⟩ | ⟨c, rfl, hc⟩
    · exact ⟨before, ⟨c, hc.symm⟩, hplace⟩
    · refine absurd ?_ hk
      have hpath : ({ p.below parts with parts := p.parts ++ c } : Path) = p.below c := rfl
      rw [hplace, hpath, place_below]
      have hpre := prefix_follow (l := d.place p) (k := [])
        (Path.within_of_prefix hw ⟨rest, hc.symm⟩) (by simp)
      rwa [List.append_nil] at hpre
  · rw [hg.items, overlay_of_notMem hm]
    exact .inl rfl

/-- What a path below another one names stands in the place of that one. -/
theorem Places.prefix_of_within (h : d.Places (p.below parts) l name)
    (hw : Path.within 0 parts = true) : d.place p <+: l ++ [name] := by
  obtain ⟨before, hbefore, hr⟩ := h.way
  have hplace : l ++ [name] = d.place (p.below parts) := by
    rw [place, hbefore, follow_append, ← hr.location, follow_singleton h.down]
  have hpre := prefix_follow (l := d.place p) (k := []) hw (by simp)
  rwa [List.append_nil, ← place_below, ← hplace] at hpre

/-- A file below a path is written in its place. -/
theorem confined_writeFile (hw : Path.within 0 parts = true) :
    Confined d p (after (writeFile (p.below parts) content) d) := by
  rcases returns_or_fails (writeFile (p.below parts) content) d with ⟨x, h⟩ | ⟨fault, h⟩
  · obtain ⟨-, l, name, hp, -, hd'⟩ := returns_writeFile.mp h
    rw [hd']
    refine .of_same rfl fun k hk => ?_
    rw [item?, Tree.item?_put (by simp) (by simpa [item?] using hp.folder),
      if_neg fun h => hk ((hp.prefix_of_within hw).trans h)]
    rfl
  · rw [fails_writeFile h]
    exact .refl d p

theorem Extends.refl (d : Disk) (l : Location) : Extends d l d :=
  ⟨.refl d, fun _ _ => rfl⟩

theorem Extends.trans (h : Extends d l d') (h' : Extends d' l e) : Extends d l e :=
  ⟨h.toGrows.trans h'.toGrows, fun k hk => (h'.apart k hk).trans (h.apart k hk)⟩

theorem Extends.of_gains {es : List DiskItem} (h : Gains d es d') (hes : ∀ a ∈ es, l <+: a.1) :
    Extends d l d' := by
  refine ⟨h.toGrows, fun k hk => ?_⟩
  rw [h.items, overlay_of_notMem]
  intro hm
  obtain ⟨a, ha, rfl⟩ := List.mem_map.mp hm
  exact hk (hes a ha)

/-- Folders below a folder that is there, or below a member of it, are created in the place of that
one. -/
theorem extends_ensureFolders (front : List Text) (hfront : Descends front)
    (hone : front.length ≤ 1) (hw : Path.within 0 parts = true) (hq : d.At q l) :
    Extends d (l ++ front) (after (ensureFolders ((q.below front).below parts)) d) := by
  rw [Path.below_below]
  obtain ⟨es, hg, hes⟩ := (creates_ensureFolders d (q.below (front ++ parts))).new_after hq
  refine .of_gains hg fun a ha => ?_
  obtain ⟨-, k, hk, hp, hr⟩ := hes a ha
  have hlength : front.length ≤ k.length := hone.trans (List.length_pos_iff.mpr hk)
  obtain ⟨m, rfl⟩ := List.prefix_of_prefix_length_le (List.prefix_append front parts) hp hlength
  have hm : m <+: parts := (List.prefix_append_right_inj front).mp hp
  have hloc : a.1 = follow (l ++ front) m := by
    rw [← follow_of_descends hfront, ← follow_append]
    exact hr.location
  have hpre := prefix_follow (l := l ++ front) (k := []) (Path.within_of_prefix hw hm) (by simp)
  rwa [List.append_nil, ← hloc] at hpre

/-- A file below a folder that is there, or below what is to be in it, is written in the place of
that one. -/
theorem extends_writeFile (front : List Text) (hfront : Descends front)
    (hw : Path.within 0 parts = true) (hq : d.At q l) :
    Extends d (l ++ front) (after (writeFile ((q.below front).below parts) content) d) := by
  rcases returns_or_fails (writeFile ((q.below front).below parts) content) d with
    ⟨x, h⟩ | ⟨fault, h⟩
  · obtain ⟨-, m, last, hp, hne, hd'⟩ := returns_writeFile.mp h
    rw [hd']
    refine .of_gains (gains_file hp.folder hne) fun a ha => ?_
    obtain rfl := List.mem_singleton.mp ha
    rw [hq.location, ← follow_of_descends hfront, ← place_below]
    exact hp.prefix_of_within hw
  · rw [fails_writeFile h]
    exact .refl ..

theorem fails_removeEmptied {fault : DiskFault} (h : Fails (removeEmptied p) d fault d') :
    d' = d := by
  unfold removeEmptied at h
  rw [fails_get_bind] at h
  split at h
  · exact (fails_throw.mp h).2
  · exact (fails_throw.mp h).2
  · split at h
    · exact (fails_throw.mp h).2
    · exact absurd h not_fails_set

/-- A folder that is not removed has at most been emptied. -/
theorem fails_removeFolder {fault : DiskFault} (hn : name ≠ "..")
    (h : Fails (removeFolder (q.below [name])) d fault d') :
    d' = d ∨ ∃ l, d.At q l ∧ d.item? (l ++ [name]) = some none ∧ d' = d.empty (l ++ [name]) := by
  unfold removeFolder at h
  rw [fails_get_bind] at h
  split at h
  · exact .inl (fails_throw.mp h).2
  · next t ht =>
    split at h
    · next members hm =>
      obtain ⟨l, rfl, hq, -⟩ := (locate_eq_ok_iff.mp ht).2.at_of_below hn
      have ho : d.Opens ⟨l ++ [name], 0⟩ := opens_iff.mpr ⟨members, hm⟩
      rw [if_pos rfl] at h
      rcases fails_bind.mp h with h | ⟨_, u, hset, h⟩
      · exact absurd h not_fails_set
      · obtain rfl := returns_set.mp hset
        exact .inr ⟨l, hq, ho rfl, fails_removeEmptied h⟩
    · exact .inl (fails_throw.mp h).2

/-- A folder is removed from its own place. -/
theorem confined_removeFolder (hn : name ≠ "..") :
    Confined d (q.below [name]) (after (removeFolder (q.below [name])) d) := by
  have hplace : ∀ {l}, d.At q l → l ++ [name] = d.place (q.below [name]) := fun hq => by
    rw [place_below_name hn, ← hq.location]
  rcases returns_or_fails (removeFolder (q.below [name])) d with ⟨x, h⟩ | ⟨fault, h⟩
  · obtain ⟨-, -, l, hq, hfolder, -, hd'⟩ := (returns_removeFolder hn).mp h
    rw [hd']
    refine .of_same rfl fun k hk => ?_
    rw [item?_removed (by simp) hfolder, if_neg (by rwa [hplace hq])]
  · rcases fails_removeFolder hn h with hd' | ⟨l, hq, hfolder, hd'⟩
    · rw [hd']
      exact .refl d _
    · rw [hd']
      refine .of_same rfl fun k hk => ?_
      rw [item?_empty (by simp) hfolder, if_neg fun h => hk (hplace hq ▸ h.1)]

end Disk

end MoveSkeleton
