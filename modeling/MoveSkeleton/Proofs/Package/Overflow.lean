import MoveSkeleton.Package.Resource
import MoveSkeleton.Proofs.Results

/-! Infinite numbers in a package registry, the only fault in its shape that is not told as one. -/
namespace MoveSkeleton

namespace Json

def isInfinite : Json → Bool
  | .float (.infinite _) => true
  | _ => false

/-- Whether an infinite number stands in a field. -/
def hasInfinite (name : Text) (v : Json) : Bool :=
  match v.field? name with
  | .ok (some x) => x.isInfinite
  | _ => false

variable {v : Json} {name : Text} {fault : Fault}

theorem isInfinite_of_toInt (h : v.toInt = .error .infinite) : v.isInfinite = true := by
  cases v with
  | float x => cases x <;> first | rfl | cases h
  | text s =>
    simp only [toInt] at h
    split at h <;> cases h
  | _ => cases h

theorem field_ne_infinite : v.field name ≠ .error .infinite := by
  cases v with
  | object fields =>
    simp only [field]
    cases Entries.get? fields name <;> simp
  | _ => simp [field]

theorem field?_ne_infinite : v.field? name ≠ .error .infinite := by
  cases v <;> simp [field?]

theorem fieldText_ne_infinite : v.fieldText name ≠ .error .infinite := by
  intro h
  obtain ⟨x, -, h⟩ := error_of_bind h field_ne_infinite
  cases h

theorem items_ne_infinite {what : String} : v.items what ≠ .error .infinite := by
  cases v <;> simp [items]

theorem fieldItems_ne_infinite {name : String} : v.fieldItems name ≠ .error .infinite := by
  intro h
  obtain ⟨x, -, h⟩ := error_of_bind h field?_ne_infinite
  cases x with
  | none => cases h
  | some x => exact items_ne_infinite h

theorem hasInfinite_of_fieldInt {default : Int} (h : v.fieldInt name default = .error .infinite) :
    v.hasInfinite name = true := by
  obtain ⟨x, hx, h⟩ := error_of_bind h field?_ne_infinite
  cases x with
  | none => cases h
  | some x => simp only [hasInfinite, hx, isInfinite_of_toInt h]

end Json

open Json

theorem Dependency.ofJson_ne_infinite {v : Json} : Dependency.ofJson v ≠ .error .infinite := by
  intro h
  obtain ⟨account, -, h⟩ := error_of_bind h fieldText_ne_infinite
  obtain ⟨name, -, h⟩ := error_of_bind h fieldText_ne_infinite
  cases h

namespace Package

/-- Whether one of the two numbers of a package is infinite. -/
def overflows (v : Json) : Bool :=
  v.hasInfinite "upgrade_number" ||
    match policyObject v with
    | .ok policy => policy.hasInfinite "policy"
    | .error _ => false

variable {v : Json}

theorem policyObject_ne_infinite : policyObject v ≠ .error .infinite := by
  intro h
  obtain ⟨x, -, h⟩ := error_of_bind h field?_ne_infinite
  cases x <;> cases h

/-- Nothing else in a package is told as an infinite number. -/
theorem overflows_of_ofJson (h : Package.ofJson v = .error .infinite) : overflows v = true := by
  unfold Package.ofJson at h
  obtain ⟨policy, hpolicy, h⟩ := error_of_bind h policyObject_ne_infinite
  obtain ⟨name, -, h⟩ := error_of_bind h fieldText_ne_infinite
  obtain ⟨items, -, h⟩ := error_of_bind h fieldItems_ne_infinite
  obtain ⟨dependencies, -, h⟩ := error_of_bind h
    (mapM_ne_error fun _ => Dependency.ofJson_ne_infinite)
  obtain ⟨items', -, h⟩ := error_of_bind h fieldItems_ne_infinite
  obtain ⟨modules, -, h⟩ := error_of_bind h (mapM_ne_error fun _ => fieldText_ne_infinite)
  rcases bind_eq_error_iff.mp h with h | ⟨upgradePolicy, -, h⟩
  · simp [overflows, hpolicy, hasInfinite_of_fieldInt h]
  rcases bind_eq_error_iff.mp h with h | ⟨upgradeNumber, -, h⟩
  · simp [overflows, hasInfinite_of_fieldInt h]
  obtain ⟨digest, -, h⟩ := error_of_bind h field?_ne_infinite
  cases h

end Package

namespace Resource

/-- Whether a package that the resource lists has an infinite number. -/
def overflows (v : Json) : Bool :=
  match v.fieldText "type", v.field? "data" with
  | .ok type, .ok (some (.object fields)) =>
    type == registryType && match Entries.get? fields "packages" with
      | some (.list packages) => packages.any Package.overflows
      | _ => false
  | _, _ => false

variable {v : Json}

theorem exists_overflows_of_ofJson {fields : Entries Text Json}
    (h : Registry.ofJson (.object fields) = .error .infinite) :
    ∃ packages, Entries.get? fields "packages" = some (.list packages) ∧
      packages.any Package.overflows = true := by
  obtain ⟨x, hx, h⟩ := error_of_bind h field_ne_infinite
  obtain ⟨packages, hpackages, h⟩ := error_of_bind h items_ne_infinite
  rcases bind_eq_error_iff.mp h with h | ⟨_, -, h⟩
  · obtain ⟨p, hp, h⟩ := exists_error_of_mapM h
    have hlist : x = .list packages := by
      cases x <;> simp_all [items]
    have hget : Entries.get? fields "packages" = some x := by
      simp only [field] at hx
      split at hx
      · next v hv => rw [hv, Except.ok.inj hx]
      · cases hx
    exact ⟨packages, hlist ▸ hget, List.any_eq_true.mpr ⟨p, hp, Package.overflows_of_ofJson h⟩⟩
  · cases h

theorem overflows_of_ofJson (h : Resource.ofJson v = .error .infinite) : overflows v = true := by
  unfold Resource.ofJson at h
  obtain ⟨type, htype, h⟩ := error_of_bind h fieldText_ne_infinite
  obtain ⟨data, hdata, h⟩ := error_of_bind h field?_ne_infinite
  dsimp only at h
  split at h
  · next hr =>
    rcases bind_eq_error_iff.mp h with h | ⟨g, -, h⟩
    · obtain ⟨packages, hget, hany⟩ := exists_overflows_of_ofJson h
      -- Only an object has a field of that name.
      obtain ⟨fields, rfl⟩ : ∃ fields, data = some (.object fields) := by
        rcases data with _ | x
        · cases hget
        · cases x with
          | object fields => exact ⟨fields, rfl⟩
          | _ => cases hget
      have hget : Entries.get? fields "packages" = some (.list packages) := hget
      simp only [overflows, htype, hdata, hget, hr.1, hany, beq_self_eq_true, Bool.and_self]
    · cases h
  · cases h

end Resource

end MoveSkeleton
