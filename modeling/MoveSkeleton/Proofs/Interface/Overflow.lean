import MoveSkeleton.Proofs.Resolution.Soft

/-! What is wrong with an answer that is to tell an interface: no number in it is too large, so that
all of it is a failure of the node. -/
namespace MoveSkeleton

namespace Json

variable {v : Json} {name : Text}

theorem fieldTruthy_ne_infinite : v.fieldTruthy name ≠ .error .infinite := by
  intro h
  obtain ⟨x, -, h⟩ := error_of_bind h field?_ne_infinite
  cases h

theorem texts_ne_infinite {what : String} : v.texts what ≠ .error .infinite := by
  intro h
  obtain ⟨xs, -, h⟩ := error_of_bind h items_ne_infinite
  obtain ⟨x, -, h⟩ := exists_error_of_mapM h
  cases x <;> cases h

theorem fieldTexts_ne_infinite {name : String} : v.fieldTexts name ≠ .error .infinite := by
  intro h
  obtain ⟨x, -, h⟩ := error_of_bind h field?_ne_infinite
  cases x with
  | none => cases h
  | some x => exact texts_ne_infinite h

end Json

namespace Interface

open Json

variable {v : Json}

theorem typeParamsOf_ne_infinite : typeParamsOf v ≠ .error .infinite := by
  intro h
  obtain ⟨items, -, h⟩ := error_of_bind h fieldItems_ne_infinite
  refine mapM_ne_error (fun x hx => ?_) h
  cases x with
  | object fields =>
    simp only [constraints] at hx
    split at hx
    · exact texts_ne_infinite hx
    · cases hx
  | _ => cases hx

theorem Field.ofJson_ne_infinite : Field.ofJson v ≠ .error .infinite := by
  intro h
  obtain ⟨name, -, h⟩ := error_of_bind h fieldText_ne_infinite
  obtain ⟨type, -, h⟩ := error_of_bind h fieldText_ne_infinite
  cases h

theorem Struct.ofJson_ne_infinite : Struct.ofJson v ≠ .error .infinite := by
  intro h
  obtain ⟨name, -, h⟩ := error_of_bind h fieldText_ne_infinite
  obtain ⟨abilities, -, h⟩ := error_of_bind h fieldTexts_ne_infinite
  obtain ⟨typeParams, -, h⟩ := error_of_bind h typeParamsOf_ne_infinite
  obtain ⟨items, -, h⟩ := error_of_bind h fieldItems_ne_infinite
  obtain ⟨fields, -, h⟩ := error_of_bind h (mapM_ne_error fun _ => Field.ofJson_ne_infinite)
  obtain ⟨isNative, -, h⟩ := error_of_bind h fieldTruthy_ne_infinite
  obtain ⟨isEvent, -, h⟩ := error_of_bind h fieldTruthy_ne_infinite
  cases h

theorem Function.ofJson_ne_infinite : Function.ofJson v ≠ .error .infinite := by
  intro h
  obtain ⟨name, -, h⟩ := error_of_bind h fieldText_ne_infinite
  obtain ⟨visibility, -, h⟩ := error_of_bind h field?_ne_infinite
  obtain ⟨isEntry, -, h⟩ := error_of_bind h fieldTruthy_ne_infinite
  obtain ⟨isView, -, h⟩ := error_of_bind h fieldTruthy_ne_infinite
  obtain ⟨typeParams, -, h⟩ := error_of_bind h typeParamsOf_ne_infinite
  obtain ⟨params, -, h⟩ := error_of_bind h fieldTexts_ne_infinite
  obtain ⟨returns, -, h⟩ := error_of_bind h fieldTexts_ne_infinite
  cases h

theorem ofJson_ne_infinite : Interface.ofJson v ≠ .error .infinite := by
  intro h
  obtain ⟨address, -, h⟩ := error_of_bind h fieldText_ne_infinite
  obtain ⟨name, -, h⟩ := error_of_bind h fieldText_ne_infinite
  obtain ⟨friends, -, h⟩ := error_of_bind h fieldTexts_ne_infinite
  obtain ⟨items, -, h⟩ := error_of_bind h fieldItems_ne_infinite
  obtain ⟨functions, -, h⟩ := error_of_bind h
    (mapM_ne_error fun _ => Function.ofJson_ne_infinite)
  obtain ⟨items', -, h⟩ := error_of_bind h fieldItems_ne_infinite
  obtain ⟨structs, -, h⟩ := error_of_bind h (mapM_ne_error fun _ => Struct.ofJson_ne_infinite)
  cases h

end Interface

namespace Answer

variable {a : Answer} {url url' : Text} {v : Json} {i : Interface} {e : Failure}

theorem isOfNode_of_interfaceOf (h : interfaceOf url v = .error e) : e.isOfNode = true := by
  unfold interfaceOf at h
  split at h
  · next fields =>
    split at h
    · next abi _ =>
      obtain ⟨fault, hi, rfl⟩ := mapError_eq_error_iff.mp h
      cases fault <;> first | rfl | exact absurd hi Interface.ofJson_ne_infinite
    · obtain rfl := Except.error.inj h
      rfl
  · obtain rfl := Except.error.inj h
    rfl

/-- All that is wrong with an answer that is to tell an interface is a failure of the node, unless
its values lie too deep. -/
theorem isOfNode_of_interface (h : a.interface url = .error e) (ha : a.ends = false) :
    e.isOfNode = true := by
  rcases bind_eq_error_iff.mp h with h | ⟨v, -, h⟩
  · exact isOfNode_of_value h ha
  · exact isOfNode_of_interfaceOf h

theorem value_eq_ok_of_url (h : a.value url = .ok v) : a.value url' = .ok v := by
  cases a with
  | failure lapse message => cases h
  | reply status body =>
    simp only [value] at h ⊢
    split at h
    · next hs =>
      rw [if_pos hs]
      exact mapError_eq_ok_iff.mpr (mapError_eq_ok_iff.mp h)
    · cases h

theorem interfaceOf_eq_ok_of_url (h : interfaceOf url v = .ok i) : interfaceOf url' v = .ok i := by
  unfold interfaceOf at h ⊢
  split at h
  · next fields =>
    split at h
    · next abi _ =>
      exact mapError_eq_ok_iff.mpr (mapError_eq_ok_iff.mp h)
    · cases h
  · cases h

/-- The interface that an answer tells does not depend on where it is found. -/
theorem interface_eq_ok_of_url (h : a.interface url = .ok i) : a.interface url' = .ok i := by
  unfold interface at h ⊢
  cases hv : a.value url with
  | error e =>
    rw [hv] at h
    cases h
  | ok v =>
    rw [hv] at h
    rw [value_eq_ok_of_url hv]
    exact interfaceOf_eq_ok_of_url h

end Answer

end MoveSkeleton
