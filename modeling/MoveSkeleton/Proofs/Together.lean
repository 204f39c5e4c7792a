import MoveSkeleton.Proofs.Failing

/-! Two steps run side by side, each from its own state. -/
namespace MoveSkeleton

section
variable {ε σ α β γ δ : Type}

/-- Two runs ended the same way: both returned, with values and states related by `Q`, or both
failed alike, with states related by `E`. -/
inductive EndTogether (Q : α → β → σ → σ → Prop) (E : σ → σ → Prop) :
    Except ε α × σ → Except ε β × σ → Prop where
  | returned {x y s t} (h : Q x y s t) : EndTogether Q E (.ok x, s) (.ok y, t)
  | failed {e s t} (h : E s t) : EndTogether Q E (.error e, s) (.error e, t)

/-- From states related by `P` two steps end the same way. -/
def Together (P : σ → σ → Prop) (a : ExceptT ε (StateM σ) α) (b : ExceptT ε (StateM σ) β)
    (Q : α → β → σ → σ → Prop) (E : σ → σ → Prop) : Prop :=
  ∀ s t, P s t → EndTogether Q E (a.run.run s) (b.run.run t)

variable {P P' E E' R : σ → σ → Prop} {a : ExceptT ε (StateM σ) α} {b : ExceptT ε (StateM σ) β}
  {f : α → ExceptT ε (StateM σ) γ} {g : β → ExceptT ε (StateM σ) δ}
  {Q Q₁ : α → β → σ → σ → Prop} {Q' : γ → δ → σ → σ → Prop} {x : α} {y : β}

theorem EndTogether.mono {r : Except ε α × σ} {r' : Except ε β × σ} (h : EndTogether Q E r r')
    (hQ : ∀ x y s t, Q x y s t → Q₁ x y s t) (hE : ∀ s t, E s t → E' s t) :
    EndTogether Q₁ E' r r' := by
  cases h with
  | returned h => exact .returned (hQ _ _ _ _ h)
  | failed h => exact .failed (hE _ _ h)

theorem Together.mono (h : Together P a b Q E) (hP : ∀ s t, P' s t → P s t)
    (hQ : ∀ x y s t, Q x y s t → Q₁ x y s t) (hE : ∀ s t, E s t → E' s t) :
    Together P' a b Q₁ E' :=
  fun s t hst => (h s t (hP s t hst)).mono hQ hE

theorem Together.bind (h : Together P a b Q E) (hf : ∀ x y, Together (Q x y) (f x) (g y) Q' E) :
    Together P (a >>= f) (b >>= g) Q' E := by
  intro s t hst
  have hab := h s t hst
  rcases hs : a.run.run s with ⟨r, s'⟩
  rcases ht : b.run.run t with ⟨r', t'⟩
  rw [hs, ht] at hab
  cases hab with
  | returned hq =>
    rw [run_bind_of_ok hs, run_bind_of_ok ht]
    exact hf _ _ _ _ hq
  | failed he =>
    rw [run_bind_of_error hs, run_bind_of_error ht]
    exact .failed he

/-- Where the values are related apart from the states. -/
theorem Together.bind_of {V : α → β → Prop} (h : Together P a b (fun x y s t => V x y ∧ R s t) E)
    (hf : ∀ x y, V x y → Together R (f x) (g y) Q' E) :
    Together P (a >>= f) (b >>= g) Q' E :=
  h.bind fun x y s t hst => hf x y hst.1 s t hst.2

theorem Together.pure (h : ∀ s t, P s t → Q x y s t) :
    Together P (Pure.pure x : ExceptT ε (StateM σ) α) (Pure.pure y : ExceptT ε (StateM σ) β) Q E :=
  fun s t hst => .returned (h s t hst)

theorem Together.throw {e : ε} (h : ∀ s t, P s t → E s t) :
    Together P (throw e : ExceptT ε (StateM σ) α) (throw e : ExceptT ε (StateM σ) β) Q E :=
  fun s t hst => .failed (h s t hst)

theorem Together.get_bind {f : σ → ExceptT ε (StateM σ) α} {g : σ → ExceptT ε (StateM σ) β}
    (h : ∀ s t, P s t → EndTogether Q E ((f s).run.run s) ((g t).run.run t)) :
    Together P (get >>= f) (get >>= g) Q E :=
  fun s t hst => h s t hst

/-- Runs that end together have the same outcome, as far as their values are the same. -/
theorem EndTogether.fst_eq {r r' : Except ε α × σ}
    (h : EndTogether (fun x y s t => x = y ∧ R s t) R r r') : r.1 = r'.1 ∧ R r.2 r'.2 := by
  cases h with
  | returned h => exact ⟨congrArg Except.ok h.1, h.2⟩
  | failed h => exact ⟨rfl, h⟩

theorem EndTogether.of_fst_eq {r r' : Except ε α × σ} (h : r.1 = r'.1) (hR : R r.2 r'.2) :
    EndTogether (fun x y s t => x = y ∧ R s t) R r r' := by
  obtain ⟨x | e, s⟩ := r
  all_goals
    obtain ⟨_, t⟩ := r'
    obtain rfl := h
  · exact .failed hR
  · exact .returned ⟨rfl, hR⟩

/-- What is left by both, whether they return or fail. -/
theorem Together.after (h : Together P a b Q E) {s t : σ} (hst : P s t)
    (hQ : ∀ x y s t, Q x y s t → R s t) (hE : ∀ s t, E s t → R s t) :
    R (after a s) (after b t) := by
  have hend := h s t hst
  unfold MoveSkeleton.after
  generalize a.run.run s = r, b.run.run t = r' at hend
  cases hend with
  | returned h => exact hQ _ _ _ _ h
  | failed h => exact hE _ _ h

end

namespace Activity

variable {α β : Type} {P E : World → World → Prop} {Q : α → β → World → World → Prop}

theorem together_note {Q : Unit → Unit → World → World → Prop} {e e' : Event}
    (h : ∀ w v, P w v → Q () () { w with events := w.events ++ [e] }
      { v with events := v.events ++ [e'] }) : Together P (note e) (note e') Q E :=
  fun w v hwv => .returned (h w v hwv)

theorem together_ofResult {r : Except Failure α} {r' : Except Failure β}
    (h : ∀ w v, P w v → EndTogether Q E (r, w) (r', v)) :
    Together P (ofResult r) (ofResult r') Q E :=
  fun w v hwv => h w v hwv

/-- Steps on the disks of two worlds. -/
theorem together_onDisk {D : Disk → Disk → Prop} {a : Disk.Action α} {b : Disk.Action β}
    {Q' : α → β → Disk → Disk → Prop} {E' : Disk → Disk → Prop} (h : Together D a b Q' E')
    (hP : ∀ w v, P w v → D w.disk v.disk)
    (hQ : ∀ w v, P w v → ∀ x y d e, Q' x y d e → Q x y { w with disk := d } { v with disk := e })
    (hE : ∀ w v, P w v → ∀ d e, E' d e → E { w with disk := d } { v with disk := e }) :
    Together P (onDisk a) (onDisk b) Q E := by
  intro w v hwv
  have hrun : ∀ {γ : Type} (c : Disk.Action γ) (u : World), (onDisk c).run.run u =
      ((c.run.run u.disk).1.mapError .disk, { u with disk := (c.run.run u.disk).2 }) :=
    fun _ _ => rfl
  have hab := h w.disk v.disk (hP w v hwv)
  rw [hrun, hrun]
  rcases ha : a.run.run w.disk with ⟨r, d⟩
  rcases hb : b.run.run v.disk with ⟨r', e⟩
  rw [ha, hb] at hab
  cases hab with
  | returned hq => exact .returned (hQ w v hwv _ _ _ _ hq)
  | failed he => exact .failed (hE w v hwv _ _ he)

/-- That failures are noted makes no difference where what is noted makes none. -/
theorem together_notingFailure {which : Failure → Bool} {event : Failure → Event} {a : Activity α}
    {b : Activity β} (h : Together P a b Q E)
    (hE : ∀ w v e, E w v → E { w with events := w.events ++ [event e] }
      { v with events := v.events ++ [event e] }) :
    Together P (notingFailure which event a) (notingFailure which event b) Q E := by
  intro w v hwv
  have hab := h w v hwv
  unfold notingFailure
  simp only [ExceptT.run_mk, StateT.run] at hab ⊢
  generalize a.run w = r, b.run v = r' at hab
  cases hab with
  | returned hq => exact .returned hq
  | @failed e _ _ he =>
    by_cases hw : which e
    · simp only [hw, if_true]
      exact .failed (hE _ _ _ he)
    · simp only [hw]
      exact .failed he

end Activity

end MoveSkeleton
