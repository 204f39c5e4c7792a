import MoveSkeleton.Proofs.Failing
import MoveSkeleton.Proofs.Resolution.Soft
import MoveSkeleton.Proofs.Resolution.Turns
import MoveSkeleton.Proofs.Skeleton.Writing

/-! The record of a package, as it is looked up for its dependencies, and as it is looked up to be
written out. -/
namespace MoveSkeleton

/-- The first member of a list of which `P` holds. -/
def FirstWith {α : Type} (P : α → Prop) (xs : List α) (x : α) : Prop :=
  ∃ before after, xs = before ++ x :: after ∧ P x ∧ ∀ y ∈ before, ¬ P y

theorem find?_eq_some_iff_firstWith {α : Type} {P : α → Bool} {xs : List α} {x : α} :
    xs.find? P = some x ↔ FirstWith (P · = true) xs x := by
  rw [List.find?_eq_some_iff_append]
  constructor
  · rintro ⟨hx, before, after, rfl, hbefore⟩
    exact ⟨before, after, rfl, hx, fun y hy => by simpa using hbefore y hy⟩
  · rintro ⟨before, after, rfl, hx, hbefore⟩
    exact ⟨hx, before, after, rfl, fun y hy => by simpa using hbefore y hy⟩

namespace Resource

variable {p : PackageId} {rs : List Resource} {name : Text} {record : Package}

/-- What resources tell of a package: the first of its name in the registry that the first of them
with the registry's type holds. -/
def Records (rs : List Resource) (name : Text) (record : Package) : Prop :=
  ∃ r g, FirstWith (·.isRegistry = true) rs r ∧ r.registry = some g ∧
    FirstWith (·.name = name) g.packages record

theorem findPackage_eq_some_iff : findPackage rs name = some record ↔ Records rs name record := by
  unfold findPackage registryOf Registry.find? Records
  simp only [Option.bind_eq_some_iff, find?_eq_some_iff_firstWith, decide_eq_true_eq]
  constructor
  · rintro ⟨g, ⟨r, hr, hg⟩, hrecord⟩
    exact ⟨r, g, hr, hg, hrecord⟩
  · rintro ⟨r, g, hr, hg, hrecord⟩
    exact ⟨g, ⟨r, hr, hg⟩, hrecord⟩

theorem requirePackage_eq_ok_iff :
    requirePackage p rs = .ok record ↔ findPackage rs p.name = some record := by
  unfold requirePackage findPackage
  cases registryOf rs with
  | none => simp
  | some g => cases hq : g.find? p.name <;> simp [hq]

end Resource

namespace Client

/-- The record of a package, which must be there. -/
def fetchRecord (c : Client) (p : PackageId) : Activity Package := do
  Activity.ofResult (Resource.requirePackage p (← c.fetchResources p.account))

/-- The record of a package, if there is one. -/
def fetchRecord? (c : Client) (p : PackageId) : Activity (Option Package) := do
  return Resource.findPackage (← c.fetchResources p.account) p.name

variable {c : Client} {p : PackageId} {w w' : World} {record : Package} {e : Failure}

theorem run_fetchRecord (c : Client) (p : PackageId) (w : World) : (c.fetchRecord p).run.run w =
    ((c.readResources p.account w).1.bind (Resource.requirePackage p),
      (c.readResources p.account w).2) := by
  unfold fetchRecord
  rcases h : c.readResources p.account w with ⟨e | rs, w'⟩
  · exact run_bind_of_error h
  · exact run_bind_of_ok h

theorem returns_fetchRecord : Returns (c.fetchRecord p) w record w' ↔
    ∃ rs, c.readResources p.account w = (.ok rs, w') ∧
      Resource.findPackage rs p.name = some record := by
  unfold fetchRecord
  simp only [returns_bind, Activity.returns_ofResult, Resource.requirePackage_eq_ok_iff]
  constructor
  · rintro ⟨rs, u, hread, hrecord, rfl⟩
    exact ⟨rs, hread, hrecord⟩
  · rintro ⟨rs, hread, hrecord⟩
    exact ⟨rs, w', hread, hrecord, rfl⟩

/-- A record that is required is found. -/
theorem returns_fetchRecord?_of_record (h : Returns (c.fetchRecord p) w record w') :
    Returns (c.fetchRecord? p) w (some record) w' := by
  obtain ⟨rs, hread, hrecord⟩ := returns_fetchRecord.mp h
  exact returns_bind.mpr ⟨rs, w', hread, returns_pure.mpr ⟨hrecord.symm, rfl⟩⟩

end Client

namespace Resolution

variable {c : Client} {p : PackageId} {w w' : World} {record : Package} {e : Failure}

/-- The dependencies of a package are read with its record. -/
theorem run_fetchDependencies (c : Client) (p : PackageId) (w : World) :
    ∃ noted, (fetchDependencies c p).run.run w =
      (match ((c.fetchRecord p).run.run w).1 with
        | .ok record => .ok record.dependencies
        | .error e => if e.isOfNode then .ok [] else .error e,
      { after (c.fetchRecord p) w with
        events := (after (c.fetchRecord p) w).events ++ noted }) := by
  refine ⟨(declared p (c.readResources p.account w).1).2, ?_⟩
  have hrun : (fetchDependencies c p).run.run w = readDependencies c p w := rfl
  rw [hrun, readDependencies_eq, after, Client.run_fetchRecord]
  generalize c.readResources p.account w = read
  exact Prod.ext (declared_fst p read.1) rfl

/-- A package that has a record has the dependencies in it, and nothing is noted. -/
theorem returns_fetchDependencies_of_record (h : Returns (c.fetchRecord p) w record w') :
    Returns (fetchDependencies c p) w record.dependencies w' := by
  obtain ⟨rs, hread, hrecord⟩ := Client.returns_fetchRecord.mp h
  obtain ⟨g, hg, hq⟩ := Option.bind_eq_some_iff.mp hrecord
  have hdeclared : declared p (.ok rs) = (.ok record.dependencies, []) := by
    simp only [declared, hg, hq]
  rw [returns_fetchDependencies, readDependencies_eq, hread, hdeclared, List.append_nil]

end Resolution

namespace Skeleton

open Activity Resolution

variable {c : Client} {p : PackageId} {w w' : World} {record : Package} {e : Failure}

/-- The manifest of a package that is written out is that of the record it has at first. -/
theorem manifest_of_returns_writePackage {folder y : Path} {isRoot : Bool}
    (h : Returns (writePackage c p folder isRoot) w y w') :
    ∃ record u content, Returns (c.fetchRecord p) w record u ∧
      (Manifest.text isRoot p.name record).toUtf8 = .ok content ∧
      w'.disk.readFile y = .ok content := by
  obtain ⟨rs, u, record, d, u₁, u₂, hread, hrecord, -, -, hmanifest, rfl, rfl⟩ :=
    returns_writePackage.mp h
  obtain ⟨content, d', hcontent, hwrite, rfl⟩ := returns_writeText.mp hmanifest
  -- What is noted before it makes no difference to the reading.
  let v : World := { w with events := w.events ++ [.downloading p] }
  have hsame : (c.readResources p.account w).1 = (c.readResources p.account v).1 :=
    Client.readResources_fst_of_node rfl
  have hfirst := hsame.trans (congrArg Prod.fst hread)
  have hfound := Resource.requirePackage_eq_ok_iff.mp hrecord
  refine ⟨record, (c.readResources p.account w).2, content, ?_, hcontent,
    Disk.readFile_of_writeFile hwrite⟩
  exact Client.returns_fetchRecord.mpr ⟨rs, Prod.ext hfirst rfl, hfound⟩

/-- The strict look-up of a package and the lenient ones agree. Where the strict one returns a
record, it is the first of its name in the first registry, the others find it too, and the package
has the dependencies in it. Where the strict one fails for what the node answers, the package has
none; any other failure is one of both. So the manifest of a package that is written out lists just
the dependencies that resolution walks from there. -/
theorem lookups_agree (c : Client) (p : PackageId) (w : World) :
    (∀ record w', Returns (c.fetchRecord p) w record w' →
      Returns (fetchDependencies c p) w record.dependencies w' ∧
      Returns (c.fetchRecord? p) w (some record) w' ∧
      ∃ rs, answersAt c w p.account = .ok rs ∧ Resource.Records rs p.name record) ∧
    (∀ e w', Fails (c.fetchRecord p) w e w' → ∃ noted,
      (e.isOfNode = true →
        Returns (fetchDependencies c p) w [] { w' with events := w'.events ++ noted }) ∧
      (e.isOfNode = false →
        Fails (fetchDependencies c p) w e { w' with events := w'.events ++ noted })) ∧
    ∀ folder isRoot y v, Returns (writePackage c p folder isRoot) w y v →
      ∃ record w' content, Returns (c.fetchRecord p) w record w' ∧
        Returns (fetchDependencies c p) w record.dependencies w' ∧
        (Manifest.text isRoot p.name record).toUtf8 = .ok content ∧
        v.disk.readFile y = .ok content := by
  refine ⟨fun record w' h => ?_, fun e w' h => ?_, fun folder isRoot y v h => ?_⟩
  · obtain ⟨rs, hread, hrecord⟩ := Client.returns_fetchRecord.mp h
    exact ⟨returns_fetchDependencies_of_record h, Client.returns_fetchRecord?_of_record h, rs,
      congrArg Prod.fst hread, Resource.findPackage_eq_some_iff.mp hrecord⟩
  · obtain ⟨noted, hrun⟩ := run_fetchDependencies c p w
    rw [h.after_eq, show _ = _ from h] at hrun
    refine ⟨noted, fun he => ?_, fun he => ?_⟩
    · exact hrun.trans (by simp only [he, if_true])
    · exact hrun.trans (by simp only [he, Bool.false_eq_true, if_false])
  · obtain ⟨record, w', content, hrecord, hcontent, hfile⟩ := manifest_of_returns_writePackage h
    exact ⟨record, w', content, hrecord, returns_fetchDependencies_of_record hrecord, hcontent,
      hfile⟩

namespace Sample

open MoveSkeleton.Sample

/-- An account whose registry lists a package twice and stands after a resource of another type. -/
def repeating : World where
  node := [(client.resourcesUrl "0xa", [answer (.list [.object [("type", .text "C")],
    .object [("type", .text registryType), ("data", .object [("packages", .list [
      .object [("name", .text "P"), ("deps", .list [
        .object [("account", .text "0xb"), ("package_name", .text "Q")]])],
      .object [("name", .text "P")]])])]])])]
  disk := Disk.blank ["w"]

def listing : Package := { name := "P", dependencies := [⟨"0xb", "Q"⟩], modules := [] }

end Sample

/-- For a package that is listed more than once and written out, for one that is missing, and for
one with an infinite number. -/
theorem lookups_agree_repeating :
    let c := MoveSkeleton.Sample.client
    let p : PackageId := ⟨"0xa", "P"⟩
    let q : PackageId := ⟨"0xb", "Q"⟩
    let w := Sample.repeating
    (∃ w', Returns (c.fetchRecord p) w Sample.listing w' ∧
      Returns (fetchDependencies c p) w [⟨"0xb", "Q"⟩] w' ∧
      Returns (c.fetchRecord? p) w (some Sample.listing) w') ∧
    (∃ y v record w' content, Returns (writePackage c p (Path.ofText "out") true) w y v ∧
      Returns (fetchDependencies c p) w record.dependencies w' ∧
      (Manifest.text true "P" record).toUtf8 = .ok content ∧ v.disk.readFile y = .ok content) ∧
    (∃ v, Returns (fetchDependencies c q) w [] v) ∧
    ∃ v, Fails (fetchDependencies c q) Resolution.Sample.boundless .infiniteNumber v := by
  intro c p q w
  obtain ⟨hagree, -, hwritten⟩ := lookups_agree c p w
  obtain ⟨hrecord, hrun⟩ : ((c.fetchRecord p).run.run w).1.toOption = some Sample.listing ∧
      ((writePackage c p (Path.ofText "out") true).run.run w).1.toOption =
        some (Path.ofText "out/Move.toml") := by
    decide +kernel
  refine ⟨?_, ?_, ?_, ?_⟩
  · have h := returns_of_fst (Resolution.Sample.eq_ok hrecord)
    obtain ⟨hdependencies, hfound, -⟩ := hagree _ _ h
    exact ⟨_, h, hdependencies, hfound⟩
  · have h := returns_of_fst (Resolution.Sample.eq_ok hrun)
    obtain ⟨record, w', content, -, hdependencies, hcontent, hfile⟩ := hwritten _ _ _ _ h
    exact ⟨_, _, record, w', content, h, hdependencies, hcontent, hfile⟩
  · have h : Fails (c.fetchRecord q) w (.status 404 (c.resourcesUrl "0xb")) _ :=
      fails_of_fst (Resolution.Sample.eq_error (by decide +kernel))
    obtain ⟨noted, hsoft, -⟩ := (lookups_agree c q w).2.1 _ _ h
    exact ⟨_, hsoft rfl⟩
  · have h : Fails (c.fetchRecord q) Resolution.Sample.boundless .infiniteNumber _ :=
      fails_of_fst (Resolution.Sample.eq_error (by decide +kernel))
    obtain ⟨noted, -, hhard⟩ := (lookups_agree c q Resolution.Sample.boundless).2.1 _ _ h
    exact ⟨_, hhard rfl⟩

end Skeleton

end MoveSkeleton
