import MoveSkeleton.World

/-! The dependencies that a package declares, as its account's resources tell. -/
namespace MoveSkeleton

def Resource.requirePackage (p : PackageId) (rs : List Resource) : Except Failure Package :=
  match registryOf rs with
  | none => .error (.noRegistry p.account)
  | some g =>
    match g.find? p.name with
    | none => .error (.noPackage p.account p.name)
    | some record => .ok record

namespace Resolution

/-- The dependencies of a package in the order of its record, and what is noted. A package that
cannot be read declares none. -/
def declared (p : PackageId) :
    Except Failure (List Resource) → Except Failure (List Dependency) × List Event
  | .error why => if why.isOfNode then (.ok [], [.unreadable p why]) else (.error why, [])
  | .ok rs =>
    match Resource.registryOf rs with
    | none => (.ok [], [.noRegistry p])
    | some g =>
      match g.find? p.name with
      | none => (.ok [], [.noPackage p])
      | some record => (.ok record.dependencies, [])

def readDependencies (c : Client) (p : PackageId) (w : World) :
    Except Failure (List Dependency) × World :=
  let (rs, w') := c.readResources p.account w
  let (edges, noted) := declared p rs
  (edges, { w' with events := w'.events ++ noted })

/-- Nothing but the record of the package itself declares dependencies for it. -/
theorem mem_declared {p : PackageId} {rs : Except Failure (List Resource)}
    {edges : List Dependency} {d : Dependency} (h : (declared p rs).1 = .ok edges)
    (hd : d ∈ edges) :
    ∃ l g q, rs = .ok l ∧ Resource.registryOf l = some g ∧ q ∈ g.packages ∧ d ∈ q.dependencies := by
  cases rs with
  | error why => by_cases hw : why.isOfNode <;> simp_all [declared]
  | ok l =>
    cases hg : Resource.registryOf l with
    | none => simp_all [declared]
    | some g =>
      cases hq : g.find? p.name with
      | none => simp_all [declared]
      | some q =>
        refine ⟨l, g, q, rfl, hg, List.mem_of_find?_eq_some hq, ?_⟩
        simp only [declared, hg, hq, Except.ok.injEq] at h
        exact h ▸ hd

end Resolution

end MoveSkeleton
