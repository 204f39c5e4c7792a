import MoveSkeleton.Proofs.Json.Shape

/-! The format of a package registry: which values are read as the resources of an account, and what
is read from them. -/
namespace MoveSkeleton

open Json

variable {fields : Entries Text Json} {v : Json}

namespace Dependency

/-- Both of its texts are there. -/
structure Format (fields : Entries Text Json) : Prop where
  account : Requires "account" fields
  name : Requires "package_name" fields

instance : DecidablePred Format := fun fields =>
  decidable_of_iff (Requires "account" fields ∧ Requires "package_name" fields)
    ⟨fun h => ⟨h.1, h.2⟩, fun h => ⟨h.account, h.name⟩⟩

structure Reads (fields : Entries Text Json) (d : Dependency) : Prop where
  account : TextAt "account" fields d.account
  name : TextAt "package_name" fields d.name

theorem format_iff : Format fields ↔ ∃ d, Reads fields d := by
  constructor
  · rintro ⟨haccount, hname⟩
    obtain ⟨account, haccount⟩ := requires_iff.mp haccount
    obtain ⟨name, hname⟩ := requires_iff.mp hname
    exact ⟨⟨account, name⟩, haccount, hname⟩
  · rintro ⟨d, h⟩
    exact ⟨requires_iff.mpr ⟨_, h.account⟩, requires_iff.mpr ⟨_, h.name⟩⟩

theorem ofJson_eq_ok_iff {d : Dependency} : ofJson v = .ok d ↔ FromObject Reads v d := by
  cases v with
  | object fields =>
    simp only [ofJson, bind_eq_ok_iff, fieldText_object_eq_ok_iff]
    constructor
    · rintro ⟨account, haccount, name, hname, h⟩
      obtain rfl := Except.ok.inj h
      exact ⟨haccount, hname⟩
    · rintro ⟨haccount, hname⟩
      exact ⟨_, haccount, _, hname, rfl⟩
  | _ => exact iff_of_false (fun h => by cases h) id

end Dependency

namespace Package

/-- A module has a name; dependencies, modules, and what tells of the upgrades may be absent. -/
structure Format (fields : Entries Text Json) : Prop where
  name : Requires "name" fields
  dependencies : Allows "deps" (ListOf (ObjectWith Dependency.Format)) fields
  modules : Allows "modules" (ListOf (ObjectWith (Requires "name"))) fields
  policy : Allows "upgrade_policy"
    (fun x => x.truthy = true → ObjectWith (Allows "policy" Whole) x) fields
  number : Allows "upgrade_number" Whole fields

instance : DecidablePred Format := fun fields =>
  decidable_of_iff (Requires "name" fields ∧
      Allows "deps" (ListOf (ObjectWith Dependency.Format)) fields ∧
      Allows "modules" (ListOf (ObjectWith (Requires "name"))) fields ∧
      Allows "upgrade_policy"
        (fun x => x.truthy = true → ObjectWith (Allows "policy" Whole) x) fields ∧
      Allows "upgrade_number" Whole fields)
    ⟨fun ⟨hn, hd, hm, hp, hu⟩ => ⟨hn, hd, hm, hp, hu⟩,
      fun h => ⟨h.name, h.dependencies, h.modules, h.policy, h.number⟩⟩

/-- The number of the upgrade policy, in an object of its own that may be absent or count as
false. -/
def PolicyAt (fields : Entries Text Json) (n : Int) : Prop :=
  match (Entries.get? fields "upgrade_policy").filter truthy with
  | some x => FromObject (WholeAt "policy" 1) x n
  | none => n = 1

structure Reads (fields : Entries Text Json) (p : Package) : Prop where
  name : TextAt "name" fields p.name
  dependencies : ItemsAt "deps" (FromObject Dependency.Reads) fields p.dependencies
  modules : ItemsAt "modules" (FromObject (TextAt "name")) fields p.modules
  policy : PolicyAt fields p.upgradePolicy
  number : WholeAt "upgrade_number" 0 fields p.upgradeNumber
  digest : ((Entries.get? fields "source_digest").map asText).getD "" = p.sourceDigest

theorem policy_iff : Allows "upgrade_policy"
    (fun x => x.truthy = true → ObjectWith (Allows "policy" Whole) x) fields ↔
      ∃ n, PolicyAt fields n := by
  unfold PolicyAt Allows
  cases Entries.get? fields "upgrade_policy" with
  | none => simp
  | some x =>
    cases hx : x.truthy with
    | false => simp [Option.filter, hx]
    | true =>
      simp only [Option.filter, hx, Option.mem_some_iff, forall_eq', if_true, true_imp_iff]
      exact objectWith_iff_exists fun _ => allows_whole_iff

theorem format_iff : Format fields ↔ ∃ p, Reads fields p := by
  have hdependencies : Allows "deps" (ListOf (ObjectWith Dependency.Format)) fields ↔
      ∃ ys, ItemsAt "deps" (FromObject Dependency.Reads) fields ys :=
    allows_listOf_iff fun _ => objectWith_iff_exists fun _ => Dependency.format_iff
  have hmodules : Allows "modules" (ListOf (ObjectWith (Requires "name"))) fields ↔
      ∃ ys, ItemsAt "modules" (FromObject (TextAt "name")) fields ys :=
    allows_listOf_iff fun _ => objectWith_iff_exists fun _ => requires_iff
  constructor
  · rintro ⟨hn, hd, hm, hp, hu⟩
    obtain ⟨name, hn⟩ := requires_iff.mp hn
    obtain ⟨dependencies, hd⟩ := hdependencies.mp hd
    obtain ⟨modules, hm⟩ := hmodules.mp hm
    obtain ⟨policy, hp⟩ := policy_iff.mp hp
    obtain ⟨number, hu⟩ := allows_whole_iff.mp hu
    exact ⟨⟨name, dependencies, modules, policy, number, _⟩, hn, hd, hm, hp, hu, rfl⟩
  · rintro ⟨p, h⟩
    exact ⟨requires_iff.mpr ⟨_, h.name⟩, hdependencies.mpr ⟨_, h.dependencies⟩,
      hmodules.mpr ⟨_, h.modules⟩, policy_iff.mpr ⟨_, h.policy⟩,
      allows_whole_iff.mpr ⟨_, h.number⟩⟩

theorem policyAt_iff {n : Int} : PolicyAt fields n ↔
    ∃ x, policyObject (.object fields) = .ok x ∧ x.fieldInt "policy" 1 = .ok n := by
  have hempty : (Json.object []).fieldInt "policy" 1 = .ok n ↔ n = 1 :=
    ⟨fun h => (Except.ok.inj h).symm, fun h => h ▸ rfl⟩
  have hobject : ∀ x : Json, x.fieldInt "policy" 1 = .ok n ↔
      FromObject (WholeAt "policy" 1) x n := by
    intro x
    cases x with
    | object fields => exact fieldInt_object_eq_ok_iff
    | _ => exact iff_of_false (fun h => by cases h) id
  unfold policyObject PolicyAt
  simp only [field?, bind, Except.bind]
  cases Entries.get? fields "upgrade_policy" with
  | none => simp [pure, Except.pure, hempty]
  | some x =>
    cases hx : x.truthy with
    | false => simp [pure, Except.pure, Option.filter, hx, hempty]
    | true => simp [pure, Except.pure, Option.filter, hx, hobject]

theorem moduleName_eq_ok_iff {name : Text} :
    moduleName v = .ok name ↔ FromObject (TextAt "name") v name := by
  cases v with
  | object fields => exact fieldText_object_eq_ok_iff
  | _ => exact iff_of_false (fun h => by cases h) id

theorem ofJson_eq_ok_iff {p : Package} : ofJson v = .ok p ↔ FromObject Reads v p := by
  cases v with
  | object fields =>
    simp only [ofJson, bind_eq_ok_iff, fieldText_object_eq_ok_iff, fieldInt_object_eq_ok_iff]
    constructor
    · rintro ⟨policy, hpolicy, name, hname, items, hitems, dependencies, hd, items', hitems',
        modules, hm, upgradePolicy, hp, upgradeNumber, hu, digest, hdigest, h⟩
      obtain rfl := Except.ok.inj h
      obtain rfl := Except.ok.inj hdigest
      exact {
        name := hname
        dependencies := (itemsAt_iff fun _ _ => Dependency.ofJson_eq_ok_iff).mpr ⟨items, hitems, hd⟩
        modules := (itemsAt_iff fun _ _ => moduleName_eq_ok_iff).mpr ⟨items', hitems', hm⟩
        policy := policyAt_iff.mpr ⟨policy, hpolicy, hp⟩
        number := hu
        digest := rfl }
    · rintro ⟨hname, hd, hm, hp, hu, hdigest⟩
      obtain ⟨items, hitems, hd⟩ := (itemsAt_iff fun _ _ => Dependency.ofJson_eq_ok_iff).mp hd
      obtain ⟨items', hitems', hm⟩ := (itemsAt_iff fun _ _ => moduleName_eq_ok_iff).mp hm
      obtain ⟨policy, hpolicy, hp⟩ := policyAt_iff.mp hp
      refine ⟨policy, hpolicy, _, hname, items, hitems, _, hd, items', hitems', _, hm, _, hp, _, hu,
        Entries.get? fields "source_digest", rfl, ?_⟩
      rw [hdigest]
      rfl
  | _ => exact iff_of_false (fun h => by cases h) id

end Package

theorem Registry.ofJson_eq_ok_iff {g : Registry} : Registry.ofJson (.object fields) = .ok g ↔
    ∃ items, Entries.get? fields "packages" = some (.list items) ∧
      List.Forall₂ (FromObject Package.Reads) items g.packages := by
  simp only [Registry.ofJson, bind_eq_ok_iff, field_object_eq_ok_iff, items_eq_ok_iff,
    mapM_eq_ok_iff, Package.ofJson_eq_ok_iff]
  constructor
  · rintro ⟨x, hx, items, rfl, packages, hpackages, h⟩
    obtain rfl := Except.ok.inj h
    exact ⟨items, hx, hpackages⟩
  · rintro ⟨items, hx, hpackages⟩
    exact ⟨_, hx, items, rfl, _, hpackages, rfl⟩

namespace Resource

/-- The resource is the registry, its data is an object, and what stands there as its packages counts
as true. -/
structure Lists (fields : Entries Text Json) (packages : Json) : Prop where
  type : TextAt "type" fields registryType
  data : ∃ data, Entries.get? fields "data" = some (.object data) ∧
    Entries.get? data "packages" = some packages
  truthy : packages.truthy = true

structure Format (fields : Entries Text Json) : Prop where
  type : Requires "type" fields
  packages : ∀ packages, Lists fields packages → ListOf (ObjectWith Package.Format) packages

/-- There is a registry exactly when something is listed, and then its packages are read from there
in their order. -/
structure Reads (fields : Entries Text Json) (r : Resource) : Prop where
  type : TextAt "type" fields r.type
  data : r.data = fieldsOf (Entries.get? fields "data")
  unlisted : r.registry = none ↔ ¬ ∃ packages, Lists fields packages
  listed : ∀ g, r.registry = some g → ∃ items, Lists fields (.list items) ∧
    List.Forall₂ (FromObject Package.Reads) items g.packages

theorem Lists.unique {x y : Json} (hx : Lists fields x) (hy : Lists fields y) : x = y := by
  obtain ⟨-, ⟨data, hdata, hx⟩, -⟩ := hx
  obtain ⟨-, ⟨data', hdata', hy⟩, -⟩ := hy
  cases hdata.symm.trans hdata'
  exact Option.some.inj (hx.symm.trans hy)

theorem fieldsOf_get?_eq_some_iff {o : Option Json} {packages : Json} :
    Entries.get? (fieldsOf o) "packages" = some packages ↔
      ∃ data, o = some (.object data) ∧ Entries.get? data "packages" = some packages := by
  rcases o with _ | x
  · simp [fieldsOf, Entries.get?]
  · cases x <;> simp [fieldsOf, Entries.get?]

/-- What the reading of a resource looks at is what it lists. -/
theorem lists_iff {type : Text} {packages : Json} (htype : TextAt "type" fields type) :
    Lists fields packages ↔ type = registryType ∧
      Entries.get? (fieldsOf (Entries.get? fields "data")) "packages" = some packages ∧
      packages.truthy = true := by
  have htext : TextAt "type" fields registryType ↔ type = registryType := by
    unfold TextAt at htype ⊢
    rw [htype, Option.some.injEq]
  rw [fieldsOf_get?_eq_some_iff, ← htext]
  exact ⟨fun ⟨ht, hd, hp⟩ => ⟨ht, hd, hp⟩, fun ⟨ht, hd, hp⟩ => ⟨ht, hd, hp⟩⟩

instance : DecidablePred Format := fun fields =>
  decidable_of_iff (Requires "type" fields ∧ (TextAt "type" fields registryType →
      ∀ x ∈ Entries.get? (fieldsOf (Entries.get? fields "data")) "packages", x.truthy = true →
        ListOf (ObjectWith Package.Format) x))
    ⟨fun ⟨ht, hp⟩ => ⟨ht, fun x hx =>
        have hread := (lists_iff hx.type).mp hx
        hp hx.type x hread.2.1 hread.2.2⟩,
      fun h => ⟨h.type, fun ht x hx htruthy =>
        h.packages x ((lists_iff ht).mpr ⟨rfl, hx, htruthy⟩)⟩⟩

theorem exists_lists_iff {type : Text} (htype : TextAt "type" fields type) :
    (∃ packages, Lists fields packages) ↔ type = registryType ∧
      ((Entries.get? (fieldsOf (Entries.get? fields "data")) "packages").map Json.truthy).getD
        false = true := by
  simp only [lists_iff htype]
  cases Entries.get? (fieldsOf (Entries.get? fields "data")) "packages" with
  | none => simp
  | some x => simp

theorem format_iff : Format fields ↔ ∃ r, Reads fields r := by
  have hlist : ∀ x, ListOf (ObjectWith Package.Format) x ↔
      ∃ ys items, x = .list items ∧ List.Forall₂ (FromObject Package.Reads) items ys :=
    fun x => listOf_iff_exists fun _ => objectWith_iff_exists fun _ => Package.format_iff
  constructor
  · rintro ⟨htype, hpackages⟩
    obtain ⟨type, htype⟩ := requires_iff.mp htype
    by_cases h : ∃ packages, Lists fields packages
    · obtain ⟨x, hx⟩ := h
      obtain ⟨packages, items, rfl, hitems⟩ := (hlist x).mp (hpackages x hx)
      refine ⟨⟨type, _, some ⟨packages⟩⟩, htype, rfl, ?_, ?_⟩
      · exact iff_of_false nofun (not_not_intro ⟨_, hx⟩)
      · rintro g hg
        obtain rfl := Option.some.inj hg
        exact ⟨items, hx, hitems⟩
    · exact ⟨⟨type, _, none⟩, htype, rfl, iff_of_true rfl h, nofun⟩
  · rintro ⟨r, hr⟩
    refine ⟨requires_iff.mpr ⟨_, hr.type⟩, fun x hx => (hlist x).mpr ?_⟩
    obtain ⟨g, hg⟩ := Option.ne_none_iff_exists'.mp (mt hr.unlisted.mp (not_not_intro ⟨x, hx⟩))
    obtain ⟨items, hitems, hpackages⟩ := hr.listed g hg
    exact ⟨_, items, hx.unique hitems, hpackages⟩

/-- Where something is listed, the registry is read from there. -/
theorem registry_ofJson_eq_ok_iff {x : Json} {g : Registry} (hx : Lists fields x) :
    Registry.ofJson (.object (fieldsOf (Entries.get? fields "data"))) = .ok g ↔
      ∃ items, Lists fields (.list items) ∧
        List.Forall₂ (FromObject Package.Reads) items g.packages := by
  rw [Registry.ofJson_eq_ok_iff]
  refine exists_congr fun items => and_congr_left' ?_
  constructor
  · intro h
    obtain ⟨-, hget, -⟩ := (lists_iff hx.type).mp hx
    rwa [← Option.some.inj (hget.symm.trans h)]
  · intro h
    exact ((lists_iff h.type).mp h).2.1

theorem ofJson_eq_ok_iff {r : Resource} : ofJson v = .ok r ↔ FromObject Reads v r := by
  cases v with
  | object fields =>
    simp only [ofJson, bind_eq_ok_iff, fieldText_object_eq_ok_iff]
    constructor
    · rintro ⟨type, htype, data, hdata, h⟩
      obtain rfl := Except.ok.inj hdata
      have hlists := exists_lists_iff htype
      split at h
      · next hl =>
        obtain ⟨x, hx⟩ := hlists.mpr hl
        obtain ⟨g, hg, h⟩ := bind_eq_ok_iff.mp h
        obtain rfl := Except.ok.inj h
        refine ⟨htype, rfl, iff_of_false (Option.some_ne_none g) (not_not_intro ⟨x, hx⟩),
          fun g' hg' => ?_⟩
        obtain rfl := Option.some.inj hg'
        exact (registry_ofJson_eq_ok_iff hx).mp hg
      · next hl =>
        obtain rfl := Except.ok.inj h
        refine ⟨htype, rfl, iff_of_true rfl (mt hlists.mp hl), fun g hg => ?_⟩
        exact absurd hg.symm (Option.some_ne_none g)
    · rintro ⟨htype, hdata, hunlisted, hlisted⟩
      obtain ⟨type, data, registry⟩ := r
      obtain rfl : data = _ := hdata
      have hlists := exists_lists_iff htype
      refine ⟨type, htype, _, rfl, ?_⟩
      cases registry with
      | none => exact if_neg (mt hlists.mpr (hunlisted.mp rfl))
      | some g =>
        obtain ⟨items, hitems, hpackages⟩ := hlisted g rfl
        rw [if_pos (hlists.mp ⟨_, hitems⟩)]
        rw [(registry_ofJson_eq_ok_iff hitems).mpr ⟨items, hitems, hpackages⟩]
        rfl
  | _ => exact iff_of_false (fun h => by cases h) id

end Resource

end MoveSkeleton
