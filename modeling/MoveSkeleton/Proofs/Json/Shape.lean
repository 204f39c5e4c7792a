import MoveSkeleton.Proofs.Package.Overflow

/-! The shape of a value, said field by field, and what is read from a value of that shape. -/
namespace MoveSkeleton

namespace Json

/-- An object whose fields are as `F` says. -/
def ObjectWith (F : Entries Text Json → Prop) : Json → Prop
  | .object fields => F fields
  | _ => False

/-- An object from whose fields `y` is read. -/
def FromObject {α : Type} (R : Entries Text Json → α → Prop) (v : Json) (y : α) : Prop :=
  ObjectWith (R · y) v

/-- A list whose items are as `P` says. -/
def ListOf (P : Json → Prop) : Json → Prop
  | .list items => ∀ x ∈ items, P x
  | _ => False

/-- A value that can be taken for a whole number. -/
def Whole (v : Json) : Prop :=
  ∃ n, v.toInt = .ok n

/-- The field is there, whatever it holds. -/
def Requires (name : Text) (fields : Entries Text Json) : Prop :=
  ∃ x, Entries.get? fields name = some x

/-- The field is absent, or holds what `P` says. -/
def Allows (name : Text) (P : Json → Prop) (fields : Entries Text Json) : Prop :=
  ∀ x ∈ Entries.get? fields name, P x

/-- The field holds a value whose text is `t`. -/
def TextAt (name : Text) (fields : Entries Text Json) (t : Text) : Prop :=
  (Entries.get? fields name).map asText = some t

/-- The field holds a list whose items stand in `R` to `ys`, one for one and in their order. If it is
absent, `ys` is empty. -/
def ItemsAt {α : Type} (name : Text) (R : Json → α → Prop) (fields : Entries Text Json)
    (ys : List α) : Prop :=
  ∃ items, (Entries.get? fields name).getD (.list []) = .list items ∧ List.Forall₂ R items ys

/-- The field holds the whole number `n`, or is absent and `n` is the default. -/
def WholeAt (name : Text) (default : Int) (fields : Entries Text Json) (n : Int) : Prop :=
  ((Entries.get? fields name).getD (.int default)).toInt = .ok n

section
variable {α : Type} {F : Entries Text Json → Prop} {P : Json → Prop} {R : Json → α → Prop}
  {fields : Entries Text Json} {v x : Json} {name : Text} {default n : Int}

instance [DecidablePred F] : DecidablePred (ObjectWith F)
  | .object fields => inferInstanceAs (Decidable (F fields))
  | .null | .bool _ | .int _ | .float _ | .text _ | .list _ => inferInstanceAs (Decidable False)

instance [DecidablePred P] : DecidablePred (ListOf P)
  | .list items => inferInstanceAs (Decidable (∀ x ∈ items, P x))
  | .null | .bool _ | .int _ | .float _ | .text _ | .object _ => inferInstanceAs (Decidable False)

instance : DecidablePred Whole := fun v =>
  match h : v.toInt with
  | .ok n => .isTrue ⟨n, h⟩
  | .error _ => .isFalse fun ⟨_, hn⟩ => nomatch h.symm.trans hn

instance : DecidablePred (Requires name) := fun fields =>
  decidable_of_iff ((Entries.get? fields name).isSome = true) Option.isSome_iff_exists

instance {t : Text} : Decidable (TextAt name fields t) :=
  inferInstanceAs (Decidable (_ = _))

instance [DecidablePred P] : DecidablePred (Allows name P) := fun fields =>
  inferInstanceAs (Decidable (∀ x ∈ Entries.get? fields name, P x))

theorem listOf_iff : ListOf P v ↔ ∃ items, v = .list items ∧ ∀ x ∈ items, P x := by
  cases v <;> simp [ListOf]

theorem items_eq_ok_iff {what : String} {items : List Json} :
    v.items what = .ok items ↔ v = .list items := by
  cases v <;> simp [Json.items]

theorem field_object_eq_ok_iff :
    (object fields).field name = .ok x ↔ Entries.get? fields name = some x := by
  cases h : Entries.get? fields name <;> simp [field, h]

theorem fieldText_object_eq_ok_iff {t : Text} :
    (object fields).fieldText name = .ok t ↔ TextAt name fields t := by
  unfold fieldText TextAt
  simp only [bind_eq_ok_iff, field_object_eq_ok_iff, Option.map_eq_some_iff]
  exact exists_congr fun x => and_congr_right' ⟨fun h => Except.ok.inj h, fun h => h ▸ rfl⟩

theorem fieldItems_object_eq_ok_iff {name : String} {items : List Json} :
    (object fields).fieldItems name = .ok items ↔
      (Entries.get? fields name).getD (.list []) = .list items := by
  unfold fieldItems
  simp only [field?, bind, Except.bind]
  cases Entries.get? fields name with
  | some x => exact items_eq_ok_iff
  | none => exact ⟨fun h => congrArg Json.list (Except.ok.inj h), fun h => by cases h; rfl⟩

/-- The items of a field are read one by one. -/
theorem itemsAt_iff {name : String} {f : Json → Except Fault α} {ys : List α}
    (hf : ∀ x y, f x = .ok y ↔ R x y) : ItemsAt name R fields ys ↔
      ∃ items, (object fields).fieldItems name = .ok items ∧ items.mapM f = .ok ys := by
  simp only [ItemsAt, fieldItems_object_eq_ok_iff, mapM_eq_ok_iff, hf]

theorem fieldInt_object_eq_ok_iff :
    (object fields).fieldInt name default = .ok n ↔ WholeAt name default fields n := by
  unfold fieldInt WholeAt
  simp only [field?, bind, Except.bind]
  cases Entries.get? fields name <;> rfl

theorem requires_iff : Requires name fields ↔ ∃ t, TextAt name fields t := by
  simp only [Requires, TextAt, Option.map_eq_some_iff]
  constructor
  · rintro ⟨x, hx⟩
    exact ⟨_, x, hx, rfl⟩
  · rintro ⟨_, x, hx, -⟩
    exact ⟨x, hx⟩

theorem allows_whole_iff : Allows name Whole fields ↔ ∃ n, WholeAt name default fields n := by
  unfold Allows WholeAt Whole
  cases Entries.get? fields name with
  | some x => simp
  | none => simp [toInt]

/-- A property of all fields from which something is read is one of the objects. -/
theorem objectWith_iff_exists {R : Entries Text Json → α → Prop}
    (h : ∀ fields, F fields ↔ ∃ y, R fields y) : ObjectWith F v ↔ ∃ y, FromObject R v y := by
  unfold FromObject
  cases v with
  | object fields => exact h fields
  | _ => exact ⟨False.elim, fun ⟨_, h⟩ => h⟩

theorem listOf_iff_exists (h : ∀ x, P x ↔ ∃ y, R x y) :
    ListOf P v ↔ ∃ ys items, v = .list items ∧ List.Forall₂ R items ys := by
  simp only [listOf_iff, h, ← exists_forall₂_iff]
  exact ⟨fun ⟨items, hv, ys, hys⟩ => ⟨ys, items, hv, hys⟩,
    fun ⟨ys, items, hv, hys⟩ => ⟨items, hv, ys, hys⟩⟩

theorem allows_listOf_iff (h : ∀ x, P x ↔ ∃ y, R x y) :
    Allows name (ListOf P) fields ↔ ∃ ys, ItemsAt name R fields ys := by
  unfold Allows ItemsAt
  rw [← listOf_iff_exists h]
  cases Entries.get? fields name with
  | some x => simp
  | none => simp [ListOf]

end

mutual

/-- No infinite number stands in the value, however deep. -/
def isFinite : Json → Bool
  | .float x => !(float x).isInfinite
  | .list items => areFinite items
  | .object fields => fieldsAreFinite fields
  | .null | .bool _ | .int _ | .text _ => true

def areFinite : List Json → Bool
  | [] => true
  | x :: rest => x.isFinite && areFinite rest

def fieldsAreFinite : List (Text × Json) → Bool
  | [] => true
  | (_, x) :: rest => x.isFinite && fieldsAreFinite rest

end

section
variable {v x : Json} {items : List Json} {fields : Entries Text Json} {name : Text}

theorem areFinite_eq_all : areFinite items = items.all isFinite := by
  induction items with
  | nil => rfl
  | cons x rest ih => rw [areFinite, ih, List.all_cons]

theorem fieldsAreFinite_eq_all : fieldsAreFinite fields = fields.all (·.2.isFinite) := by
  induction fields with
  | nil => rfl
  | cons e rest ih => rw [fieldsAreFinite, ih, List.all_cons]

theorem isFinite_of_mem (h : (list items).isFinite = true) (hx : x ∈ items) :
    x.isFinite = true := by
  rw [isFinite, areFinite_eq_all, List.all_eq_true] at h
  exact h x hx

theorem isFinite_of_get? (h : (object fields).isFinite = true)
    (hx : Entries.get? fields name = some x) : x.isFinite = true := by
  rw [isFinite, fieldsAreFinite_eq_all, List.all_eq_true] at h
  exact h _ (Entries.mem_of_get? hx)

theorem isInfinite_of_isFinite (h : v.isFinite = true) : v.isInfinite = false := by
  cases v with
  | float x => exact (Bool.not_eq_true' _).mp h
  | _ => rfl

theorem hasInfinite_of_isFinite (h : v.isFinite = true) : v.hasInfinite name = false := by
  cases v with
  | object fields =>
    simp only [hasInfinite, field?]
    split
    · next x hx => exact isInfinite_of_isFinite (isFinite_of_get? h (Except.ok.inj hx))
    · rfl
  | _ => rfl

end

end Json

end MoveSkeleton
