import MoveSkeleton.Package.Resource
import MoveSkeleton.Proofs.Json.Matching

/-! Resources that list the same packages. Data of other resources, and what tells of the upgrades
of a package, are not looked at. -/
namespace MoveSkeleton

open Json

variable {v w : Json}

structure Dependency.FieldsMatch (fs gs : Entries Text Json) : Prop where
  account : AtField "account" SameText fs gs
  name : AtField "package_name" SameText fs gs

instance (fs gs : Entries Text Json) : Decidable (Dependency.FieldsMatch fs gs) :=
  decidable_of_iff (_ ∧ _) ⟨fun h => ⟨h.1, h.2⟩, fun h => ⟨h.account, h.name⟩⟩

theorem Dependency.corresponding_ofJson (h : Fielded Dependency.FieldsMatch v w) :
    Corresponding Eq (Dependency.ofJson v) (Dependency.ofJson w) :=
  (h.fieldText fun _ _ h => h.account).bind fun _ _ haccount =>
    (h.fieldText fun _ _ h => h.name).bind fun _ _ hname => haccount ▸ hname ▸ .ok rfl

/-- The upgrade policy of a package, as a number. -/
def Package.policyOf (v : Json) : Except Fault Int := do
  (← Package.policyObject v).fieldInt "policy" 1

/-- The upgrade policy and the upgrade number do not matter. -/
structure Package.FieldsMatch (fs gs : Entries Text Json) : Prop where
  name : AtField "name" SameText fs gs
  dependencies : AtField "deps" (Listed (Fielded Dependency.FieldsMatch)) fs gs
  modules : AtField "modules" (Listed (Fielded (AtField "name" SameText))) fs gs
  policy : AcceptedAlike (policyOf (.object fs)) (policyOf (.object gs))
  number : AcceptedAlike ((object fs).fieldInt "upgrade_number" 0)
    ((object gs).fieldInt "upgrade_number" 0)

instance (fs gs : Entries Text Json) : Decidable (Package.FieldsMatch fs gs) :=
  decidable_of_iff (_ ∧ _ ∧ _ ∧ _ ∧ _) ⟨fun ⟨hn, hd, hm, hp, hu⟩ => ⟨hn, hd, hm, hp, hu⟩,
    fun h => ⟨h.name, h.dependencies, h.modules, h.policy, h.number⟩⟩

/-- Packages that are alike but for their upgrades and their digests. -/
structure Package.Alike (p q : Package) : Prop where
  name : p.name = q.name
  dependencies : p.dependencies = q.dependencies
  modules : p.modules = q.modules

theorem Package.corresponding_policyObject (h : Fielded Package.FieldsMatch v w) :
    Corresponding (fun x y => AcceptedAlike (x.fieldInt "policy" 1) (y.fieldInt "policy" 1))
      (policyObject v) (policyObject w) := by
  have hobject : ∀ fs, ∃ x, policyObject (.object fs) = .ok x := by
    intro fs
    unfold policyObject
    simp only [Json.field?, bind, Except.bind]
    split <;> exact ⟨_, rfl⟩
  cases h with
  | @object fs gs h =>
    have hpolicy := h.policy
    obtain ⟨x, hx⟩ := hobject fs
    obtain ⟨y, hy⟩ := hobject gs
    unfold policyOf at hpolicy
    rw [hx, hy] at hpolicy ⊢
    exact .ok hpolicy
  | other hv h =>
    simp only [policyObject, field?_of_kind _ hv, field?_of_kind _ (h ▸ hv), h]
    exact .error _

theorem Package.corresponding_ofJson (h : Fielded Package.FieldsMatch v w) :
    Corresponding Package.Alike (Package.ofJson v) (Package.ofJson w) := by
  unfold Package.ofJson
  refine (corresponding_policyObject h).bind fun _ _ hpolicy => ?_
  refine (h.fieldText fun _ _ h => h.name).bind fun _ _ hname => ?_
  refine (h.fieldItems fun _ _ h => h.dependencies).bind fun _ _ hitems => ?_
  refine (Corresponding.mapM_eq hitems fun _ _ h => Dependency.corresponding_ofJson h).bind
    fun _ _ hdependencies => ?_
  refine (h.fieldItems fun _ _ h => h.modules).bind fun _ _ hitems => ?_
  refine (Corresponding.mapM_eq hitems fun _ _ h => h.fieldText fun _ _ h => h).bind
    fun _ _ hmodules => ?_
  refine hpolicy.bind fun _ _ _ => ?_
  refine (h.acceptedInt fun _ _ h => h.number).bind fun _ _ _ => ?_
  exact (h.field? (P := fun _ _ => True) fun _ _ _ => trivial).bind fun _ _ _ =>
    .ok ⟨hname, hdependencies, hmodules⟩

/-- The packages of a registry: of a value that is no list it matters only whether it counts as
true. -/
structure Registry.Matches (v w : Json) : Prop where
  packages : Listed (Fielded Package.FieldsMatch) v w
  truthy : v.truthy = w.truthy

instance (v w : Json) : Decidable (Registry.Matches v w) :=
  decidable_of_iff (_ ∧ _) ⟨fun h => ⟨h.1, h.2⟩, fun h => ⟨h.packages, h.truthy⟩⟩

theorem Registry.truthy_eq {fs gs : Entries Text Json} {name : Text}
    (h : AtField name Registry.Matches fs gs) :
    ((Entries.get? fs name).map Json.truthy).getD false =
      ((Entries.get? gs name).map Json.truthy).getD false := by
  unfold AtField at h
  generalize Entries.get? fs name = x, Entries.get? gs name = y at h
  cases h with
  | some h => exact h.truthy
  | none => rfl

/-- Registries whose packages are alike, one by one. -/
def Registry.Alike (g h : Registry) : Prop :=
  List.Forall₂ Package.Alike g.packages h.packages

theorem Registry.corresponding_ofJson {fs gs : Entries Text Json}
    (h : AtField "packages" Registry.Matches fs gs) :
    Corresponding Registry.Alike (Registry.ofJson (.object fs)) (Registry.ofJson (.object gs)) := by
  have hfielded : Fielded (AtField "packages" Registry.Matches) (.object fs) (.object gs) :=
    .object h
  unfold Registry.ofJson
  refine (hfielded.field fun _ _ h => h).bind fun _ _ h => ?_
  refine (h.packages.items _).bind fun _ _ hitems => ?_
  exact (Corresponding.mapM hitems fun _ _ h => Package.corresponding_ofJson h).bind
    fun _ _ hpackages => .ok hpackages

theorem find?_rel {α β : Type} {R : α → β → Prop} {P : α → Bool} {Q : β → Bool} {xs : List α}
    {ys : List β} (h : List.Forall₂ R xs ys) (hPQ : ∀ a b, R a b → P a = Q b) :
    Option.Rel R (xs.find? P) (ys.find? Q) := by
  induction h with
  | nil => exact .none
  | @cons a b _ _ hab _ ih =>
    rw [List.find?_cons, List.find?_cons, ← hPQ a b hab]
    cases P a with
    | true => exact .some hab
    | false => exact ih

theorem Registry.find?_alike {g h : Registry} (halike : g.Alike h) (name : Text) :
    Option.Rel Package.Alike (g.find? name) (h.find? name) :=
  find?_rel halike fun _ _ h => by rw [h.name]

namespace Resource

/-- Only the data of a registry is looked at. -/
structure FieldsMatch (fs gs : Entries Text Json) : Prop where
  type : AtField "type" SameText fs gs
  data : (Entries.get? fs "type").map asText = some registryType →
    AtField "packages" Registry.Matches (fieldsOf (Entries.get? fs "data"))
      (fieldsOf (Entries.get? gs "data"))

instance (fs gs : Entries Text Json) : Decidable (FieldsMatch fs gs) :=
  decidable_of_iff (_ ∧ _) ⟨fun h => ⟨h.1, h.2⟩, fun h => ⟨h.type, h.data⟩⟩

/-- Resources of one type, without registries or with registries that are alike. -/
structure Alike (r s : Resource) : Prop where
  type : r.type = s.type
  registry : Option.Rel Registry.Alike r.registry s.registry

theorem corresponding_ofJson (h : Fielded FieldsMatch v w) :
    Corresponding Alike (ofJson v) (ofJson w) := by
  cases h with
  | other hv h =>
    simp only [ofJson, fieldText, field_of_kind _ hv, field_of_kind _ (h ▸ hv), h]
    exact .error _
  | @object fs gs h =>
    obtain ⟨htype, hdata⟩ := h
    unfold AtField at htype
    simp only [ofJson, fieldText, Json.field, Json.field?]
    generalize Entries.get? fs "type" = x, Entries.get? gs "type" = y at htype hdata
    cases htype with
    | none => exact .error _
    | @some x y hsame =>
      unfold SameText at hsame
      simp only [bind, pure, Except.bind, Except.pure]
      rw [← hsame]
      by_cases hlists : x.asText = registryType ∧
          ((Entries.get? (fieldsOf (Entries.get? fs "data")) "packages").map truthy).getD false
      · have hdata := hdata (congrArg some hlists.1)
        rw [if_pos hlists, if_pos (Registry.truthy_eq hdata ▸ hlists)]
        exact (Registry.corresponding_ofJson hdata).bind fun _ _ h => .ok ⟨rfl, .some h⟩
      · rw [if_neg hlists, if_neg]
        · exact .ok ⟨rfl, .none⟩
        · rintro ⟨ht, hp⟩
          exact hlists ⟨ht, (Registry.truthy_eq (hdata (congrArg some ht))).trans hp⟩

variable {rs rs' : List Resource}

/-- The registry that is looked into is that of the first resource of its type in both lists. -/
theorem registryOf_alike (h : List.Forall₂ Alike rs rs') :
    Option.Rel Registry.Alike (registryOf rs) (registryOf rs') := by
  have hfind : Option.Rel Alike (rs.find? isRegistry) (rs'.find? isRegistry) :=
    find?_rel h fun r s h => by rw [isRegistry, isRegistry, h.type]
  unfold registryOf
  generalize rs.find? isRegistry = x, rs'.find? isRegistry = y at hfind
  cases hfind with
  | some h => exact h.registry
  | none => exact .none

end Resource

end MoveSkeleton
