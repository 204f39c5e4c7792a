import MoveSkeleton.Proofs.Returns

/-! Steps that fail, and what a step leaves whether it returns or fails. -/
namespace MoveSkeleton

section
variable {ε σ α β : Type} {a : ExceptT ε (StateM σ) α} {f : α → ExceptT ε (StateM σ) β}
  {s s' t : σ} {x : α} {e : ε}

/-- From `s` the step fails with `e` and leaves `s'`. -/
def Fails (a : ExceptT ε (StateM σ) α) (s : σ) (e : ε) (s' : σ) : Prop :=
  a.run.run s = (.error e, s')

/-- What the step leaves, whether it returns or fails. -/
def after (a : ExceptT ε (StateM σ) α) (s : σ) : σ :=
  (a.run.run s).2

theorem Returns.after_eq (h : Returns a s x t) : after a s = t :=
  congrArg Prod.snd h

theorem Fails.after_eq (h : Fails a s e t) : after a s = t :=
  congrArg Prod.snd h

theorem returns_of_fst (h : (a.run.run s).1 = .ok x) : Returns a s x (after a s) :=
  Prod.ext h rfl

theorem exists_returns_iff : (∃ t, Returns a s x t) ↔ (a.run.run s).1 = .ok x := by
  constructor
  · rintro ⟨t, h⟩
    exact congrArg Prod.fst h
  · exact fun h => ⟨_, returns_of_fst h⟩

theorem fails_of_fst (h : (a.run.run s).1 = .error e) : Fails a s e (after a s) :=
  Prod.ext h rfl

theorem returns_or_fails (a : ExceptT ε (StateM σ) α) (s : σ) :
    (∃ x, Returns a s x (after a s)) ∨ ∃ e, Fails a s e (after a s) := by
  unfold Returns Fails after
  rcases a.run.run s with ⟨e | x, t⟩
  · exact .inr ⟨e, rfl⟩
  · exact .inl ⟨x, rfl⟩

theorem Fails.not_returns (h : Fails a s e t) : ¬ Returns a s x s' := by
  intro hr
  cases h.symm.trans hr

theorem fails_bind : Fails (a >>= f) s e s' ↔
    Fails a s e s' ∨ ∃ x t, Returns a s x t ∧ Fails (f x) t e s' := by
  constructor
  · intro h
    rcases hr : a.run.run s with ⟨e' | x, t⟩
    · have hbind : (a >>= f).run.run s = (.error e', t) := run_bind_of_error hr
      obtain ⟨he, rfl⟩ := Prod.mk.inj (hbind.symm.trans h)
      obtain rfl := Except.error.inj he
      exact .inl hr
    · exact .inr ⟨x, t, hr, (run_bind_of_ok hr).symm.trans h⟩
  · rintro (h | ⟨x, t, hr, h⟩)
    · exact run_bind_of_error h
    · exact (run_bind_of_ok hr).trans h

theorem not_fails_pure : ¬ Fails (pure x : ExceptT ε (StateM σ) α) s e s' := by
  intro h
  cases (show ((Except.ok x : Except ε α), s) = (.error e, s') from h)

theorem fails_throw {e' : ε} :
    Fails (throw e' : ExceptT ε (StateM σ) α) s e s' ↔ e = e' ∧ s' = s := by
  constructor
  · intro h
    obtain ⟨he, rfl⟩ := Prod.mk.inj (show ((Except.error e' : Except ε α), s) = (.error e, s') from h)
    exact ⟨(Except.error.inj he).symm, rfl⟩
  · rintro ⟨rfl, rfl⟩
    rfl

theorem not_fails_set : ¬ Fails (set t : ExceptT ε (StateM σ) PUnit) s e s' := by
  intro h
  cases (show ((Except.ok ⟨⟩ : Except ε PUnit), t) = (.error e, s') from h)

theorem fails_get_bind {g : σ → ExceptT ε (StateM σ) β} :
    Fails (get >>= g) s e s' ↔ Fails (g s) s e s' := by
  rw [fails_bind]
  constructor
  · rintro (h | ⟨t, u, hg, h⟩)
    · cases (show ((Except.ok s : Except ε σ), s) = (.error e, s') from h)
    · obtain ⟨rfl, rfl⟩ := returns_get.mp hg
      exact h
  · exact fun h => .inr ⟨s, s, returns_get.mpr ⟨rfl, rfl⟩, h⟩

theorem Returns.after_bind (h : Returns a s x t) : after (a >>= f) s = after (f x) t :=
  congrArg Prod.snd (run_bind_of_ok h)

theorem Fails.after_bind (h : Fails a s e t) : after (a >>= f) s = t :=
  congrArg Prod.snd (run_bind_of_error h)

/-- What two steps leave is what the first leaves if it fails, and what the second leaves from there
if it returns. -/
theorem after_bind {P : σ → Prop} (hfails : ∀ e, Fails a s e (after a s) → P (after a s))
    (hreturns : ∀ x, Returns a s x (after a s) → P (after (f x) (after a s))) :
    P (after (a >>= f) s) := by
  rcases returns_or_fails a s with ⟨x, h⟩ | ⟨e, h⟩
  · rw [h.after_bind]
    exact hreturns x h
  · rw [h.after_bind]
    exact hfails e h

end

namespace Activity

variable {α : Type} {w w' : World} {e : Failure}

theorem fails_note_bind {event : Event} {f : Unit → Activity α} :
    Fails (note event >>= f) w e w' ↔
      Fails (f ()) { w with events := w.events ++ [event] } e w' := by
  rw [fails_bind]
  constructor
  · rintro (h | ⟨_, _, hn, h⟩)
    · cases (show ((Except.ok () : Except Failure Unit), _) = (.error e, w') from h)
    · obtain rfl := returns_note.mp hn
      exact h
  · exact fun h => .inr ⟨(), _, returns_note.mpr rfl, h⟩

theorem fails_ofResult {r : Except Failure α} :
    Fails (ofResult r) w e w' ↔ r = .error e ∧ w' = w := by
  constructor
  · intro h
    obtain ⟨hr, rfl⟩ := Prod.mk.inj (show (r, w) = (.error e, w') from h)
    exact ⟨hr, rfl⟩
  · rintro ⟨rfl, rfl⟩
    rfl

private theorem run_onDisk (a : Disk.Action α) (w : World) : (onDisk a).run.run w =
    ((a.run.run w.disk).1.mapError .disk, { w with disk := (a.run.run w.disk).2 }) := rfl

theorem after_onDisk (a : Disk.Action α) (w : World) :
    after (onDisk a) w = { w with disk := after a w.disk } :=
  congrArg Prod.snd (run_onDisk a w)

theorem fails_onDisk {a : Disk.Action α} : Fails (onDisk a) w e w' ↔
    ∃ fault d, Fails a w.disk fault d ∧ e = .disk fault ∧ w' = { w with disk := d } := by
  constructor
  · intro h
    have h := (run_onDisk a w).symm.trans h
    rcases hr : a.run.run w.disk with ⟨fault | x, d⟩
    · rw [hr] at h
      cases h
      exact ⟨fault, d, hr, rfl, rfl⟩
    · rw [hr] at h
      cases h
  · rintro ⟨fault, d, hr, rfl, rfl⟩
    exact (run_onDisk a w).trans (by rw [show _ = _ from hr]; rfl)

theorem after_writeText (file : Path) (t : Text) (w : World) : ∃ content,
    after (writeText file t) w =
      { w with disk := after (Disk.writeFile file content) w.disk } := by
  unfold writeText
  cases t.toUtf8 with
  | ok content => exact ⟨content, after_onDisk ..⟩
  | error lapse =>
    refine ⟨.empty, ?_⟩
    rw [← after_onDisk]
    exact after_bind (P := (· = after (onDisk (Disk.writeFile file .empty)) w)) (fun _ _ => rfl)
      fun _ _ => rfl

/-- A step whose failures are noted comes to what the step itself comes to, but for the events. -/
theorem run_notingFailure_eq (which : Failure → Bool) (event : Failure → Event) (a : Activity α)
    (w : World) : ∃ events, (notingFailure which event a).run.run w =
      ((a.run.run w).1, { after a w with events := events }) := by
  unfold after notingFailure
  simp only [ExceptT.run_mk, StateT.run]
  split
  · next hr =>
    rw [hr]
    exact ⟨_, rfl⟩
  · next hr =>
    rw [hr]
    split <;> exact ⟨_, rfl⟩

/-- A step whose failures are noted has the outcome of the step itself, and leaves the same node and
disk. -/
theorem run_notingFailure (which : Failure → Bool) (event : Failure → Event) (a : Activity α)
    (w : World) : ((notingFailure which event a).run.run w).1 = (a.run.run w).1 ∧
      (after (notingFailure which event a) w).node = (after a w).node ∧
      (after (notingFailure which event a) w).disk = (after a w).disk := by
  obtain ⟨events, h⟩ := run_notingFailure_eq which event a w
  rw [after, h]
  exact ⟨rfl, rfl, rfl⟩

theorem fails_notingFailure {which : Failure → Bool} {event : Failure → Event} {a : Activity α}
    (h : Fails (notingFailure which event a) w e w') :
    ∃ u, Fails a w e u ∧ w'.node = u.node ∧ w'.disk = u.disk := by
  obtain ⟨hrun, hnode, hdisk⟩ := run_notingFailure which event a w
  rw [h] at hrun
  rw [h.after_eq] at hnode hdisk
  exact ⟨after a w, fails_of_fst hrun.symm, hnode, hdisk⟩

/-- A text that is not written leaves the file alone, or empty if it could not be encoded. -/
theorem fails_writeText {file : Path} {t : Text} (h : Fails (writeText file t) w e w') :
    (∃ content fault d, Fails (Disk.writeFile file content) w.disk fault d ∧
        w' = { w with disk := d }) ∨
      ∃ fault d, t.toUtf8 = .error fault ∧ Returns (Disk.writeFile file .empty) w.disk () d ∧
        w' = { w with disk := d } := by
  unfold writeText at h
  cases ht : t.toUtf8 with
  | ok content =>
    rw [ht] at h
    obtain ⟨fault, d, hd, -, rfl⟩ := fails_onDisk.mp h
    exact .inl ⟨content, fault, d, hd, rfl⟩
  | error lapse =>
    rw [ht] at h
    rcases fails_bind.mp h with h | ⟨⟨⟩, u, hu, h⟩
    · obtain ⟨fault, d, hd, -, rfl⟩ := fails_onDisk.mp h
      exact .inl ⟨_, fault, d, hd, rfl⟩
    · obtain ⟨d, hd, rfl⟩ := returns_onDisk.mp hu
      have hw' : { w with disk := d } = w' := congrArg Prod.snd h
      exact .inr ⟨lapse, d, rfl, hd, hw'.symm⟩

end Activity

namespace Disk

variable {d d' : Disk} {p : Path} {content : ByteArray} {fault : DiskFault}

theorem fails_checkPath (h : Fails (checkPath p) d fault d') : d' = d := by
  unfold checkPath at h
  split at h
  · exact (fails_throw.mp h).2
  · exact absurd h not_fails_pure

/-- A file that is not written leaves the disk as it is. -/
theorem fails_writeFile (h : Fails (writeFile p content) d fault d') : d' = d := by
  unfold writeFile at h
  rcases fails_bind.mp h with hcheck | ⟨_, u, hu, hrest⟩
  · exact fails_checkPath hcheck
  obtain rfl : u = d := by
    unfold checkPath at hu
    split at hu
    · exact absurd hu not_returns_throw
    · exact (returns_pure.mp hu).2
  rw [fails_get_bind] at hrest
  split at hrest
  · exact absurd hrest not_fails_set
  · exact (fails_throw.mp hrest).2

end Disk

end MoveSkeleton
