import Mathlib.Data.List.Forall2
import Mathlib.Data.Option.Defs
import MoveSkeleton.Json.Access

/-! Two values read side by side. Where they match in all that is read of them, the readings come to
related results, or to the same fault. -/
namespace MoveSkeleton

section
variable {ε ε' α β γ δ : Type} {R : α → β → Prop} {S : γ → δ → Prop} {x : Except ε α}
  {y : Except ε β}

instance decidableRel [∀ a b, Decidable (R a b)] : ∀ x y, Decidable (Option.Rel R x y)
  | some a, some b => decidable_of_iff (R a b) ⟨.some, fun | .some h => h⟩
  | none, none => .isTrue .none
  | some _, none => .isFalse nofun
  | none, some _ => .isFalse nofun

instance decidableForall₂ [∀ a b, Decidable (R a b)] : ∀ xs ys, Decidable (List.Forall₂ R xs ys)
  | [], [] => .isTrue .nil
  | a :: as, b :: bs =>
    have := decidableForall₂ as bs
    decidable_of_iff (R a b ∧ List.Forall₂ R as bs) List.forall₂_cons.symm
  | [], _ :: _ => .isFalse nofun
  | _ :: _, [] => .isFalse nofun

theorem map_eq_of_forall₂ {f : α → γ} {g : β → γ} {xs : List α} {ys : List β}
    (h : List.Forall₂ R xs ys) (hf : ∀ a b, R a b → f a = g b) : xs.map f = ys.map g := by
  induction h with
  | nil => rfl
  | cons hab _ ih => rw [List.map_cons, List.map_cons, hf _ _ hab, ih]

/-- Two results are values that `R` relates, or the same error. -/
inductive Corresponding (R : α → β → Prop) : Except ε α → Except ε β → Prop
  | ok {a b} (h : R a b) : Corresponding R (.ok a) (.ok b)
  | error (e : ε) : Corresponding R (.error e) (.error e)

namespace Corresponding

instance [DecidableEq ε] [∀ a b, Decidable (R a b)] :
    ∀ (x : Except ε α) (y : Except ε β), Decidable (Corresponding R x y)
  | .ok a, .ok b => decidable_of_iff (R a b) ⟨.ok, fun | .ok h => h⟩
  | .error e, .error e' => decidable_of_iff (e = e') ⟨fun h => h ▸ .error e, fun | .error _ => rfl⟩
  | .ok _, .error _ => .isFalse nofun
  | .error _, .ok _ => .isFalse nofun

theorem mono {R' : α → β → Prop} (h : Corresponding R x y) (hR : ∀ a b, R a b → R' a b) :
    Corresponding R' x y := by
  cases h with
  | ok h => exact .ok (hR _ _ h)
  | error e => exact .error e

theorem bind {f : α → Except ε γ} {g : β → Except ε δ} (h : Corresponding R x y)
    (hf : ∀ a b, R a b → Corresponding S (f a) (g b)) : Corresponding S (x >>= f) (y >>= g) := by
  cases h with
  | ok h => exact hf _ _ h
  | error e => exact .error e

theorem mapError (h : Corresponding R x y) (f : ε → ε') :
    Corresponding R (x.mapError f) (y.mapError f) := by
  cases h with
  | ok h => exact .ok h
  | error e => exact .error (f e)

theorem map_eq {f : α → γ} {g : β → γ} (h : Corresponding (fun a b => f a = g b) x y) :
    x.map f = y.map g := by
  cases h with
  | ok h => exact congrArg Except.ok h
  | error e => rfl

theorem mapM {f : α → Except ε γ} {g : β → Except ε δ} {xs : List α} {ys : List β}
    (h : List.Forall₂ R xs ys) (hf : ∀ a b, R a b → Corresponding S (f a) (g b)) :
    Corresponding (List.Forall₂ S) (xs.mapM f) (ys.mapM g) := by
  induction h with
  | nil => exact .ok .nil
  | cons hab _ ih =>
    rw [List.mapM_cons, List.mapM_cons]
    exact (hf _ _ hab).bind fun _ _ hc => ih.bind fun _ _ hcs => .ok (.cons hc hcs)

theorem mapM_eq {f : α → Except ε γ} {g : β → Except ε γ} {xs : List α} {ys : List β}
    (h : List.Forall₂ R xs ys) (hf : ∀ a b, R a b → Corresponding Eq (f a) (g b)) :
    Corresponding Eq (xs.mapM f) (ys.mapM g) :=
  (mapM h hf).mono fun _ _ h => List.forall₂_eq_eq_eq ▸ h

end Corresponding

/-- Both readings come to something, whatever it is, or to the same error. -/
abbrev AcceptedAlike (x : Except ε α) (y : Except ε β) : Prop :=
  Corresponding (fun _ _ => True) x y

end

namespace Json

/-- Two objects whose fields `F` relates, or two values of the same kind that are no objects. -/
inductive Fielded (F : Entries Text Json → Entries Text Json → Prop) : Json → Json → Prop
  | object {fs gs} (h : F fs gs) : Fielded F (.object fs) (.object gs)
  | other {v w} (hv : v.kind ≠ .object) (h : w.kind = v.kind) : Fielded F v w

/-- Two lists whose items `R` relates in order, or two values of the same kind that are no lists. -/
inductive Listed (R : Json → Json → Prop) : Json → Json → Prop
  | list {xs ys} (h : List.Forall₂ R xs ys) : Listed R (.list xs) (.list ys)
  | other {v w} (hv : v.kind ≠ .list) (h : w.kind = v.kind) : Listed R v w

/-- The same text twice, or two values of the same kind that are no texts. -/
inductive SameItem : Json → Json → Prop
  | text (t : Text) : SameItem (.text t) (.text t)
  | other {v w} (hv : v.kind ≠ .text) (h : w.kind = v.kind) : SameItem v w

/-- Values that are the same when they are taken for texts. -/
def SameText (v w : Json) : Prop :=
  v.asText = w.asText

/-- The field is in neither object, or in both with values that `R` relates. -/
def AtField (name : Text) (R : Json → Json → Prop) (fs gs : Entries Text Json) : Prop :=
  Option.Rel R (Entries.get? fs name) (Entries.get? gs name)

section
variable {F : Entries Text Json → Entries Text Json → Prop} {R : Json → Json → Prop}
  {fs gs : Entries Text Json} {v w : Json} {name what : String}

instance [∀ fs gs, Decidable (F fs gs)] : ∀ v w, Decidable (Fielded F v w)
  | .object fs, .object gs =>
    decidable_of_iff (F fs gs) ⟨.object, fun | .object h => h | .other hv _ => absurd rfl hv⟩
  | .object _, .null | .object _, .bool _ | .object _, .int _ | .object _, .float _
  | .object _, .text _ | .object _, .list _ => .isFalse nofun
  | .null, w | .bool _, w | .int _, w | .float _, w | .text _, w | .list _, w =>
    decidable_of_iff (w.kind = _) ⟨.other nofun, fun | .other _ h => h⟩

instance [∀ x y, Decidable (R x y)] : ∀ v w, Decidable (Listed R v w)
  | .list xs, .list ys =>
    decidable_of_iff (List.Forall₂ R xs ys)
      ⟨.list, fun | .list h => h | .other hv _ => absurd rfl hv⟩
  | .list _, .null | .list _, .bool _ | .list _, .int _ | .list _, .float _ | .list _, .text _
  | .list _, .object _ => .isFalse nofun
  | .null, w | .bool _, w | .int _, w | .float _, w | .text _, w | .object _, w =>
    decidable_of_iff (w.kind = _) ⟨.other nofun, fun | .other _ h => h⟩

instance : ∀ v w, Decidable (SameItem v w)
  | .text t, .text t' =>
    decidable_of_iff (t = t')
      ⟨fun h => h ▸ .text t, fun | .text _ => rfl | .other hv _ => absurd rfl hv⟩
  | .text _, .null | .text _, .bool _ | .text _, .int _ | .text _, .float _ | .text _, .list _
  | .text _, .object _ => .isFalse nofun
  | .null, w | .bool _, w | .int _, w | .float _, w | .list _, w | .object _, w =>
    decidable_of_iff (w.kind = _) ⟨.other nofun, fun | .other _ h => h⟩

instance : Decidable (SameText v w) :=
  inferInstanceAs (Decidable (_ = _))

instance [∀ x y, Decidable (R x y)] (name : Text) : Decidable (AtField name R fs gs) :=
  inferInstanceAs (Decidable (Option.Rel ..))

theorem field_of_kind (name : Text) (hv : v.kind ≠ .object) :
    v.field name = .error (.notIndexable v.kind) := by
  cases v <;> first | rfl | exact absurd rfl hv

theorem field?_of_kind (name : Text) (hv : v.kind ≠ .object) :
    v.field? name = .error (.noFields v.kind) := by
  cases v <;> first | rfl | exact absurd rfl hv

theorem items_of_kind (hv : v.kind ≠ .list) : v.items what = .error (.notList what v.kind) := by
  cases v <;> first | rfl | exact absurd rfl hv

theorem itemText_of_kind (hv : v.kind ≠ .text) :
    itemText what v = .error (.notText what v.kind) := by
  cases v <;> first | rfl | exact absurd rfl hv

theorem Fielded.field (h : Fielded F v w) {name : Text}
    (hf : ∀ fs gs, F fs gs → AtField name R fs gs) :
    Corresponding R (v.field name) (w.field name) := by
  cases h with
  | @object fs gs h =>
    have hat := hf fs gs h
    unfold AtField at hat
    simp only [Json.field]
    generalize Entries.get? fs name = x, Entries.get? gs name = y at hat
    cases hat with
    | some h => exact .ok h
    | none => exact .error _
  | other hv h =>
    rw [field_of_kind name hv, field_of_kind name (h ▸ hv), h]
    exact .error _

theorem Fielded.field? (h : Fielded F v w) {name : Text} {P : Option Json → Option Json → Prop}
    (hf : ∀ fs gs, F fs gs → P (Entries.get? fs name) (Entries.get? gs name)) :
    Corresponding P (v.field? name) (w.field? name) := by
  cases h with
  | object h => exact .ok (hf _ _ h)
  | other hv h =>
    rw [field?_of_kind name hv, field?_of_kind name (h ▸ hv), h]
    exact .error _

theorem Fielded.fieldText (h : Fielded F v w) {name : Text}
    (hf : ∀ fs gs, F fs gs → AtField name SameText fs gs) :
    Corresponding Eq (v.fieldText name) (w.fieldText name) :=
  (h.field hf).bind fun _ _ h => .ok h

/-- Whether a field counts as true is read alike, where the values count alike. An absent field
counts as false. -/
theorem Fielded.fieldTruthy (h : Fielded F v w) {name : Text} {P : Bool → Bool → Prop}
    (hf : ∀ fs gs, F fs gs → P (((Entries.get? fs name).map truthy).getD false)
      (((Entries.get? gs name).map truthy).getD false)) :
    Corresponding P (v.fieldTruthy name) (w.fieldTruthy name) :=
  (h.field? (P := fun x y => P ((x.map truthy).getD false) ((y.map truthy).getD false)) hf).bind
    fun _ _ h => .ok h

theorem Listed.items (h : Listed R v w) (what : String) :
    Corresponding (List.Forall₂ R) (v.items what) (w.items what) := by
  cases h with
  | list h => exact .ok h
  | other hv h =>
    rw [items_of_kind hv, items_of_kind (h ▸ hv), h]
    exact .error _

theorem SameItem.itemText (h : SameItem v w) (what : String) :
    Corresponding Eq (itemText what v) (itemText what w) := by
  cases h with
  | text t => exact .ok rfl
  | other hv h =>
    rw [itemText_of_kind hv, itemText_of_kind (h ▸ hv), h]
    exact .error _

theorem Listed.texts (h : Listed SameItem v w) (what : String) :
    Corresponding Eq (v.texts what) (w.texts what) :=
  (h.items what).bind fun _ _ h => .mapM_eq h fun _ _ h => h.itemText what

theorem Fielded.fieldItems (h : Fielded F v w)
    (hf : ∀ fs gs, F fs gs → AtField name (Listed R) fs gs) :
    Corresponding (List.Forall₂ R) (v.fieldItems name) (w.fieldItems name) :=
  (h.field? hf).bind fun _ _ h =>
    match h with
    | .some h => h.items name
    | .none => .ok .nil

theorem Fielded.fieldTexts (h : Fielded F v w)
    (hf : ∀ fs gs, F fs gs → AtField name (Listed SameItem) fs gs) :
    Corresponding Eq (v.fieldTexts name) (w.fieldTexts name) :=
  (h.field? hf).bind fun _ _ h =>
    match h with
    | .some h => h.texts name
    | .none => .ok rfl

/-- Texts that are read and do not matter. -/
theorem Fielded.acceptedTexts (h : Fielded F v w)
    (hf : ∀ fs gs, F fs gs →
      AcceptedAlike ((Json.object fs).fieldTexts name) ((Json.object gs).fieldTexts name)) :
    AcceptedAlike (v.fieldTexts name) (w.fieldTexts name) := by
  cases h with
  | object h => exact hf _ _ h
  | other hv h =>
    simp only [Json.fieldTexts, field?_of_kind _ hv, field?_of_kind _ (h ▸ hv), h]
    exact .error _

/-- A number that is read and does not matter. -/
theorem Fielded.acceptedInt (h : Fielded F v w) {name : Text} {default : Int}
    (hf : ∀ fs gs, F fs gs →
      AcceptedAlike ((Json.object fs).fieldInt name default)
        ((Json.object gs).fieldInt name default)) :
    AcceptedAlike (v.fieldInt name default) (w.fieldInt name default) := by
  cases h with
  | object h => exact hf _ _ h
  | other hv h =>
    simp only [Json.fieldInt, field?_of_kind _ hv, field?_of_kind _ (h ▸ hv), h]
    exact .error _

end

end Json

end MoveSkeleton
