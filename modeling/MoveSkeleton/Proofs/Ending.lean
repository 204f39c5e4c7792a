import MoveSkeleton.Proofs.Failing

/-! Steps of which it is known how they end, whether they return or fail. -/
namespace MoveSkeleton

section
variable {ε σ α β : Type}

/-- A run returned, with a value and a state in `Q`, or failed with a failure in `F`. -/
inductive EndsIn (Q : α → σ → Prop) (F : ε → Prop) : Except ε α × σ → Prop where
  | returned {x s} (h : Q x s) : EndsIn Q F (.ok x, s)
  | failed {e s} (h : F e) : EndsIn Q F (.error e, s)

/-- From every state in `P` the step ends so. -/
def Ends (P : σ → Prop) (a : ExceptT ε (StateM σ) α) (Q : α → σ → Prop) (F : ε → Prop) : Prop :=
  ∀ s, P s → EndsIn Q F (a.run.run s)

variable {P P' : σ → Prop} {a : ExceptT ε (StateM σ) α} {f : α → ExceptT ε (StateM σ) β}
  {Q Q₁ : α → σ → Prop} {Q' : β → σ → Prop} {F : ε → Prop} {x : α}

theorem Ends.bind (h : Ends P a Q F) (hf : ∀ x, Ends (Q x) (f x) Q' F) :
    Ends P (a >>= f) Q' F := by
  intro s hs
  have ha := h s hs
  rcases hr : a.run.run s with ⟨r, t⟩
  rw [hr] at ha
  cases ha with
  | returned hq =>
    rw [run_bind_of_ok hr]
    exact hf _ _ hq
  | failed he =>
    rw [run_bind_of_error hr]
    exact .failed he

theorem Ends.pure (h : ∀ s, P s → Q x s) :
    Ends P (Pure.pure x : ExceptT ε (StateM σ) α) Q F :=
  fun s hs => .returned (h s hs)

theorem Ends.set {s : σ} {Q : PUnit → σ → Prop} (h : Q ⟨⟩ s) :
    Ends P (set s : ExceptT ε (StateM σ) PUnit) Q F :=
  fun _ _ => .returned h

theorem Ends.get_bind {g : σ → ExceptT ε (StateM σ) α}
    (h : ∀ s, P s → EndsIn Q F ((g s).run.run s)) : Ends P (get >>= g) Q F :=
  fun s hs => h s hs

/-- What holds whatever the state is assumed at once. -/
theorem Ends.of_and {p : Prop} (h : p → Ends P a Q F) : Ends (fun s => P s ∧ p) a Q F :=
  fun s hs => h hs.2 s hs.1

/-- How such a step ends, told apart. -/
theorem Ends.cases (h : Ends P a Q F) {s : σ} (hs : P s) :
    (∃ x t, Returns a s x t ∧ Q x t) ∨ ∃ e t, Fails a s e t ∧ F e := by
  have ha := h s hs
  unfold Returns Fails
  generalize a.run.run s = r at ha
  cases ha with
  | returned hq => exact .inl ⟨_, _, rfl, hq⟩
  | failed he => exact .inr ⟨_, _, rfl, he⟩

end

namespace Activity

variable {α : Type} {P : World → Prop} {Q : α → World → Prop} {F : Failure → Prop}

theorem ends_note {Q : Unit → World → Prop} {e : Event}
    (h : ∀ w, P w → Q () { w with events := w.events ++ [e] }) : Ends P (note e) Q F :=
  fun w hw => .returned (h w hw)

/-- What is laid out for the screen is printed. -/
theorem ends_display {Q : Unit → World → Prop} {laid : Except Terminal.Fault (List Text)}
    {lines : List Text} (hlaid : laid = .ok lines) (h : ∀ w, P w → Q () (w.print lines)) :
    Ends P (display laid) Q F := by
  subst hlaid
  exact fun w hw => .returned (h w hw)

theorem ends_ofResult {r : Except Failure α} (hok : ∀ x, r = .ok x → ∀ w, P w → Q x w)
    (herror : ∀ e, r = .error e → F e) : Ends P (ofResult r) Q F := by
  intro w hw
  cases r with
  | ok x => exact .returned (hok x rfl w hw)
  | error e => exact .failed (herror e rfl)

theorem ends_onDisk {a : Disk.Action α} {F' : DiskFault → Prop}
    (h : Ends (fun _ => True) a (fun _ _ => True) F')
    (hQ : ∀ x w d, P w → Q x { w with disk := d }) (hF : ∀ fault, F' fault → F (.disk fault)) :
    Ends P (onDisk a) Q F := by
  intro w hw
  have hrun : (onDisk a).run.run w =
      ((a.run.run w.disk).1.mapError .disk, { w with disk := (a.run.run w.disk).2 }) := rfl
  have ha := h w.disk trivial
  rw [hrun]
  generalize a.run.run w.disk = r at ha
  cases ha with
  | returned _ => exact .returned (hQ _ w _ hw)
  | failed he => exact .failed (hF _ he)

theorem ends_notingFailure {which : Failure → Bool} {event : Failure → Event} {a : Activity α}
    (h : Ends P a Q F) : Ends P (notingFailure which event a) Q F := by
  intro w hw
  have ha := h w hw
  unfold notingFailure
  simp only [ExceptT.run_mk, StateT.run] at ha ⊢
  generalize a.run w = r at ha
  cases ha with
  | returned hq => exact .returned hq
  | failed he => exact .failed he

end Activity

end MoveSkeleton
