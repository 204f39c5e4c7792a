import MoveSkeleton.World

/-! Steps that return, with the state that they leave. -/
namespace MoveSkeleton

section
variable {ε σ α β : Type} {a : ExceptT ε (StateM σ) α} {f : α → ExceptT ε (StateM σ) β}
  {s s' t : σ} {x x' : α} {y : β}

/-- From `s` the step returns `x` and leaves `s'`. -/
def Returns (a : ExceptT ε (StateM σ) α) (s : σ) (x : α) (s' : σ) : Prop :=
  a.run.run s = (.ok x, s')

theorem run_bind_of_ok (h : a.run.run s = (.ok x, t)) :
    (a >>= f).run.run s = (f x).run.run t := by
  have hrun : (a >>= f).run.run s = ExceptT.bindCont f (a.run.run s).1 (a.run.run s).2 := rfl
  rw [hrun, h]
  rfl

theorem run_bind_of_error {e : ε} (h : a.run.run s = (.error e, t)) :
    (a >>= f).run.run s = (.error e, t) := by
  have hrun : (a >>= f).run.run s = ExceptT.bindCont f (a.run.run s).1 (a.run.run s).2 := rfl
  rw [hrun, h]
  rfl

theorem run_get_bind {g : σ → ExceptT ε (StateM σ) β} :
    (get >>= g).run.run s = (g s).run.run s := rfl

theorem Returns.unique (h : Returns a s x t) (h' : Returns a s x' s') : x = x' ∧ t = s' := by
  obtain ⟨hx, rfl⟩ := Prod.mk.inj (h.symm.trans h')
  exact ⟨Except.ok.inj hx, rfl⟩

theorem returns_bind :
    Returns (a >>= f) s y s' ↔ ∃ x t, Returns a s x t ∧ Returns (f x) t y s' := by
  constructor
  · intro h
    rcases hr : a.run.run s with ⟨e | x, t⟩
    · cases (run_bind_of_error hr).symm.trans h
    · exact ⟨x, t, hr, (run_bind_of_ok hr).symm.trans h⟩
  · rintro ⟨x, t, hr, h⟩
    exact (run_bind_of_ok hr).trans h

theorem returns_pure : Returns (pure x' : ExceptT ε (StateM σ) α) s x s' ↔ x = x' ∧ s' = s := by
  constructor
  · intro h
    obtain ⟨hx, rfl⟩ := Prod.mk.inj (show ((Except.ok x' : Except ε α), s) = (.ok x, s') from h)
    exact ⟨(Except.ok.inj hx).symm, rfl⟩
  · rintro ⟨rfl, rfl⟩
    rfl

theorem not_returns_throw {e : ε} : ¬ Returns (throw e : ExceptT ε (StateM σ) α) s x s' := by
  intro h
  cases (show ((Except.error e : Except ε α), s) = (.ok x, s') from h)

theorem returns_get : Returns (get : ExceptT ε (StateM σ) σ) s t s' ↔ t = s ∧ s' = s := by
  constructor
  · intro h
    obtain ⟨hx, rfl⟩ := Prod.mk.inj (show ((Except.ok s : Except ε σ), s) = (.ok t, s') from h)
    exact ⟨(Except.ok.inj hx).symm, rfl⟩
  · rintro ⟨rfl, rfl⟩
    rfl

theorem returns_get_bind {g : σ → ExceptT ε (StateM σ) β} :
    Returns (get >>= g) s y s' ↔ Returns (g s) s y s' := by
  simp [returns_bind, returns_get, and_assoc]

theorem returns_set {u : PUnit} : Returns (set t : ExceptT ε (StateM σ) PUnit) s u s' ↔ s' = t := by
  constructor
  · intro h
    exact (congrArg Prod.snd h).symm
  · rintro rfl
    rfl

end

namespace Activity

variable {α : Type} {w w' : World} {x : α}

theorem returns_note {e : Event} {u : Unit} :
    Returns (note e) w u w' ↔ w' = { w with events := w.events ++ [e] } := by
  constructor
  · intro h
    exact (congrArg Prod.snd h).symm
  · rintro rfl
    rfl

theorem returns_note_bind {β : Type} {e : Event} {f : Unit → Activity β} {y : β} :
    Returns (note e >>= f) w y w' ↔
      Returns (f ()) { w with events := w.events ++ [e] } y w' := by
  rw [returns_bind]
  constructor
  · rintro ⟨_, _, hn, h⟩
    obtain rfl := returns_note.mp hn
    exact h
  · exact fun h => ⟨(), _, returns_note.mpr rfl, h⟩

theorem returns_ofResult {r : Except Failure α} :
    Returns (ofResult r) w x w' ↔ r = .ok x ∧ w' = w := by
  constructor
  · intro h
    obtain ⟨hx, rfl⟩ := Prod.mk.inj (show (r, w) = (.ok x, w') from h)
    exact ⟨hx, rfl⟩
  · rintro ⟨rfl, rfl⟩
    rfl

theorem returns_onDisk {a : Disk.Action α} :
    Returns (onDisk a) w x w' ↔ ∃ d, Returns a w.disk x d ∧ w' = { w with disk := d } := by
  have hrun : (onDisk a).run.run w =
      ((a.run.run w.disk).1.mapError .disk, { w with disk := (a.run.run w.disk).2 }) := rfl
  constructor
  · intro h
    have h := hrun.symm.trans h
    rcases hr : a.run.run w.disk with ⟨e | y, d⟩
    · rw [hr] at h
      cases h
    · rw [hr] at h
      cases h
      exact ⟨d, hr, rfl⟩
  · rintro ⟨d, hr, rfl⟩
    exact hrun.trans (by rw [hr]; rfl)

theorem returns_notingFailure {which : Failure → Bool} {event : Failure → Event}
    {a : Activity α} : Returns (notingFailure which event a) w x w' ↔ Returns a w x w' := by
  unfold Returns notingFailure
  simp only [ExceptT.run_mk, StateT.run]
  rcases a.run w with ⟨e | y, u⟩
  · exact iff_of_false (fun h => by cases h) (fun h => by cases h)
  · rfl

theorem returns_writeText {file : Path} {t : Text} {u : Unit} :
    Returns (writeText file t) w u w' ↔ ∃ content d, t.toUtf8 = .ok content ∧
      Returns (Disk.writeFile file content) w.disk u d ∧ w' = { w with disk := d } := by
  unfold writeText
  cases t.toUtf8 with
  | ok content => simp [returns_onDisk]
  | error fault =>
    simp [returns_bind, not_returns_throw]

end Activity

end MoveSkeleton
