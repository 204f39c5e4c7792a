import MoveSkeleton.Proofs.Failing
import MoveSkeleton.Proofs.Node.Steady
import MoveSkeleton.Proofs.Package.Format
import MoveSkeleton.Proofs.Resolution.Soft

/-! The resources of an account as they are fetched: what a successful answer must hold, how it is
refused otherwise, and what is read from it. -/
namespace MoveSkeleton

open Json

namespace Package

variable {v policy : Json}

theorem policyObject_isFinite (h : v.isFinite = true) (hpolicy : policyObject v = .ok policy) :
    policy.isFinite = true := by
  cases v with
  | object fields =>
    obtain ⟨x, hx, hpolicy⟩ := bind_eq_ok_iff.mp hpolicy
    cases x with
    | none =>
      obtain rfl := Except.ok.inj hpolicy
      rfl
    | some x =>
      obtain rfl := Except.ok.inj hpolicy
      split
      · exact isFinite_of_get? h (Except.ok.inj hx)
      · rfl
  | _ => cases hpolicy

theorem overflows_of_isFinite (h : v.isFinite = true) : overflows v = false := by
  rw [overflows, hasInfinite_of_isFinite h, Bool.false_or]
  split
  · next policy hpolicy => exact hasInfinite_of_isFinite (policyObject_isFinite h hpolicy)
  · rfl

end Package

/-- A number that is infinite where a whole one is wanted stands in the value. -/
theorem Resource.overflows_of_isFinite {v : Json} (h : v.isFinite = true) :
    overflows v = false := by
  cases v with
  | object fields =>
    unfold overflows
    split
    · next type data _ hdata =>
      rw [Bool.and_eq_false_iff]
      right
      split
      · next packages hpackages =>
        have hdata := isFinite_of_get? h (Except.ok.inj hdata)
        have hlist := isFinite_of_get? hdata hpackages
        exact List.any_eq_false.mpr fun p hp =>
          Bool.not_eq_true _ ▸ Package.overflows_of_isFinite (isFinite_of_mem hlist hp)
      · rfl
    · rfl
  | _ => rfl

/-- The format of the answer: a list of resources, each with its type, of which one that lists
packages lists them in their format. -/
def ResourceFormat : Json → Prop :=
  ListOf (ObjectWith Resource.Format)

instance : DecidablePred ResourceFormat :=
  inferInstanceAs (DecidablePred (ListOf (ObjectWith Resource.Format)))

namespace Answer

variable {url : Text} {v : Json} {rs : List Resource}

theorem resourcesOf_eq_ok_iff : resourcesOf url v = .ok rs ↔
    ∃ items, v = .list items ∧ List.Forall₂ (FromObject Resource.Reads) items rs := by
  cases v with
  | list items =>
    simp [resourcesOf, mapError_eq_ok_iff, mapM_eq_ok_iff, Resource.ofJson_eq_ok_iff]
  | _ => simp [resourcesOf]

/-- A value is accepted exactly if it has the format. -/
theorem resourceFormat_iff : ResourceFormat v ↔ ∃ rs, resourcesOf url v = .ok rs := by
  simp only [resourcesOf_eq_ok_iff]
  exact listOf_iff_exists fun _ => objectWith_iff_exists fun _ => Resource.format_iff

/-- Infinite numbers apart, a value that is refused is refused as malformed. -/
theorem malformed_of_resourcesOf {e : Failure} (hfinite : v.isFinite = true)
    (h : resourcesOf url v = .error e) : ∃ why, e = .malformed url why := by
  cases v with
  | list items =>
    obtain ⟨fault, hfault, rfl⟩ := mapError_eq_error_iff.mp h
    have hne : fault ≠ .infinite := by
      rintro rfl
      obtain ⟨x, hx, hfault⟩ := exists_error_of_mapM hfault
      have hover := Resource.overflows_of_ofJson hfault
      rw [Resource.overflows_of_isFinite (isFinite_of_mem hfinite hx)] at hover
      cases hover
    refine ⟨.shape fault, ?_⟩
    cases fault with
    | infinite => exact absurd rfl hne
    | _ => rfl
  | _ => exact ⟨_, (Except.error.inj h).symm⟩

end Answer

namespace Client

variable {c : Client} {account : Text} {w : World} {status : Nat} {body : ByteArray} {v : Json}

/-- What is fetched is what the value in the answer is read as. -/
theorem readResources_fst_of_reply (hs : Address.Sound (c.resourcesUrl account))
    (hask : (w.node.ask (c.resourcesUrl account)).1 = .reply status body)
    (hstatus : 200 ≤ status ∧ status < 300) (hbody : Json.decode body = .ok v) :
    (c.readResources account w).1 = Answer.resourcesOf (c.resourcesUrl account) v := by
  have hvalue : (Answer.reply status body).value (c.resourcesUrl account) = .ok v := by
    rw [Answer.value, if_pos hstatus, hbody]
    rfl
  unfold readResources request
  simp only [hs.1, hask, Answer.valueAt_of_sound hs, hvalue]
  rfl

/-- A successful answer without infinite numbers is accepted exactly if it has the format of
resources, and refused as malformed at its address otherwise. What is accepted is read item by item:
resources, packages, dependencies and modules each in the order in which they are listed, with a
registry exactly where one is listed. -/
theorem fetchResources_accepts_format (hs : Address.Sound (c.resourcesUrl account))
    (hask : (w.node.ask (c.resourcesUrl account)).1 = .reply status body)
    (hstatus : 200 ≤ status ∧ status < 300) (hbody : Json.decode body = .ok v)
    (hfinite : v.isFinite = true) :
    ((∃ rs w', Returns (c.fetchResources account) w rs w') ↔ ResourceFormat v) ∧
    (¬ ResourceFormat v → ∃ why w',
      Fails (c.fetchResources account) w (.malformed (c.resourcesUrl account) why) w') ∧
    ∀ rs w', Returns (c.fetchResources account) w rs w' →
      ∃ items, v = .list items ∧ List.Forall₂ (FromObject Resource.Reads) items rs := by
  have hread := readResources_fst_of_reply hs hask hstatus hbody
  have hreturns : ∀ rs, (∃ w', Returns (c.fetchResources account) w rs w') ↔
      Answer.resourcesOf (c.resourcesUrl account) v = .ok rs := by
    intro rs
    rw [← hread]
    exact ⟨fun ⟨_, h⟩ => congrArg Prod.fst h, fun h => ⟨_, returns_of_fst h⟩⟩
  refine ⟨?_, fun hformat => ?_, fun rs w' h => ?_⟩
  · rw [Answer.resourceFormat_iff]
    exact exists_congr hreturns
  · rcases returns_or_fails (c.fetchResources account) w with ⟨rs, h⟩ | ⟨e, h⟩
    · exact absurd (Answer.resourceFormat_iff.mpr ⟨rs, (hreturns rs).mp ⟨_, h⟩⟩) hformat
    · obtain ⟨why, rfl⟩ := Answer.malformed_of_resourcesOf hfinite
        (hread.symm.trans (congrArg Prod.fst h))
      exact ⟨why, _, h⟩
  · exact Answer.resourcesOf_eq_ok_iff.mp ((hreturns rs).mp ⟨w', h⟩)

namespace Sample

open MoveSkeleton.Sample

/-- A resource of another type, and a registry of one package, with a name that is no text and an
upgrade policy whose number is one. -/
def varied : Json :=
  .list [.object [("type", .text "CoinInfo"), ("data", .null)],
    .object [("type", .text registryType), ("data", .object [("packages", .list [
      .object [("name", .int 7), ("upgrade_policy", .object [("policy", .text "2")]),
        ("deps", .list [.object [("account", .text "0xb"), ("package_name", .text "Q")]])]])])]]

/-- A package whose dependencies are no list. -/
def unlistable : Json :=
  resources [.object [("name", .text "P"), ("deps", .null)]]

/-- A node that has one answer for one account. -/
def telling (v : Json) : World where
  node := [(client.resourcesUrl "0xa", [answer v])]
  disk := Disk.blank ["w"]

theorem ask_telling (v : Json) :
    ((telling v).node.ask (client.resourcesUrl "0xa")).1 = .reply 200 v.print.toUTF8 := by
  simp [telling, Node.ask, Entries.get?, answer]

end Sample

/-- An answer that is accepted, with what is read from it, and one that is refused. -/
theorem fetchResources_accepts_varied :
    let c := MoveSkeleton.Sample.client
    (∃ v rs w', Json.decode Sample.varied.print.toUTF8 = .ok v ∧
      Returns (c.fetchResources "0xa") (Sample.telling Sample.varied) rs w' ∧
      (∃ items, v = .list items ∧ List.Forall₂ (FromObject Resource.Reads) items rs) ∧
      rs.map (·.registry) = [none, some ⟨[⟨"7", [⟨"0xb", "Q"⟩], [], 2, 0, ""⟩]⟩]) ∧
    ∃ why w', Fails (c.fetchResources "0xa") (Sample.telling Sample.unlistable)
      (.malformed (c.resourcesUrl "0xa") why) w' := by
  intro c
  have hs : Address.Sound (c.resourcesUrl "0xa") := by decide +kernel
  have hvaried : ∃ v ∈ (Json.decode Sample.varied.print.toUTF8).toOption,
      v.isFinite = true ∧ ResourceFormat v ∧
        (Answer.resourcesOf (c.resourcesUrl "0xa") v).toOption.map (·.map (·.registry)) =
          some [none, some ⟨[⟨"7", [⟨"0xb", "Q"⟩], [], 2, 0, ""⟩]⟩] := by
    decide +kernel
  have hunlistable : ∃ v ∈ (Json.decode Sample.unlistable.print.toUTF8).toOption,
      v.isFinite = true ∧ ¬ ResourceFormat v := by
    decide +kernel
  constructor
  · obtain ⟨v, hv, hfinite, hformat, hregistries⟩ := hvaried
    have hv := Resolution.Sample.eq_ok hv
    have hask := Sample.ask_telling Sample.varied
    obtain ⟨hiff, -, hreads⟩ := fetchResources_accepts_format hs hask (by decide) hv hfinite
    obtain ⟨rs, w', h⟩ := hiff.mpr hformat
    have hrs := (readResources_fst_of_reply hs hask (by decide) hv).symm.trans (congrArg Prod.fst h)
    rw [hrs] at hregistries
    exact ⟨v, rs, w', hv, h, hreads rs w' h, Option.some.inj hregistries⟩
  · obtain ⟨v, hv, hfinite, hformat⟩ := hunlistable
    exact (fetchResources_accepts_format hs (Sample.ask_telling Sample.unlistable) (by decide)
      (Resolution.Sample.eq_ok hv) hfinite).2.1 hformat

end Client

end MoveSkeleton
