import MoveSkeleton.Proofs.Failing
import MoveSkeleton.Proofs.Interface.Format
import MoveSkeleton.Proofs.Interface.Overflow

/-! The interface of a module as it is fetched: what an answer must hold to be accepted, how any
other is refused, and what is read from it. -/
namespace MoveSkeleton

open Json

/-- The format of the answer: an object in which an interface is found. -/
def InterfaceFormat : Json → Prop :=
  ObjectWith fun fields => ∃ x ∈ Entries.get? fields "abi", ObjectWith Interface.Format x

instance : DecidablePred InterfaceFormat :=
  inferInstanceAs (DecidablePred (ObjectWith fun fields =>
    ∃ x ∈ Entries.get? fields "abi", ObjectWith Interface.Format x))

/-- The interface that is read from an answer. -/
def InterfaceReads : Json → Interface → Prop :=
  FromObject fun fields m => ∃ x ∈ Entries.get? fields "abi", FromObject Interface.Reads x m

namespace Answer

/-- The values in the body lie no deeper than the reader goes. -/
def Shallow (a : Answer) : Prop :=
  ∀ status body, a = .reply status body → ∀ container,
    Json.decode body ≠ .error (.unreadable (.tooDeep container))

/-- How an answer is refused: for want of one, for its status, or for what its body holds. -/
inductive Refuses (url : Text) : Answer → Failure → Prop where
  | transport {lapse message} : Refuses url (.failure lapse message) (.transport lapse message)
  | status {status body} (h : ¬ (200 ≤ status ∧ status < 300)) :
      Refuses url (.reply status body) (.status status url)
  | malformed {status body} (why) (h : 200 ≤ status ∧ status < 300) :
      Refuses url (.reply status body) (.malformed url why)

variable {a : Answer} {url : Text} {v : Json} {m : Interface} {e : Failure}

theorem value_eq_ok_iff : a.value url = .ok v ↔ ∃ status body, a = .reply status body ∧
    (200 ≤ status ∧ status < 300) ∧ Json.decode body = .ok v := by
  cases a with
  | failure lapse message => simp [value]
  | reply status body =>
    by_cases hs : 200 ≤ status ∧ status < 300
    · simp [value, hs, mapError_eq_ok_iff]
    · simp [value, hs]

theorem interfaceOf_eq_ok_iff : interfaceOf url v = .ok m ↔ InterfaceReads v m := by
  unfold interfaceOf InterfaceReads
  cases v with
  | object fields =>
    simp only [FromObject, ObjectWith]
    cases hx : Entries.get? fields "abi" with
    | none => simp
    | some x =>
      cases x with
      | object abi => simp [mapError_eq_ok_iff, Interface.ofJson_eq_ok_iff, FromObject, ObjectWith]
      | _ => simp
  | _ => simp [FromObject, ObjectWith]

theorem interfaceFormat_iff : InterfaceFormat v ↔ ∃ m, InterfaceReads v m := by
  refine objectWith_iff_exists fun fields => ?_
  have hread : ∀ x, ObjectWith Interface.Format x ↔ ∃ m, FromObject Interface.Reads x m :=
    fun _ => objectWith_iff_exists fun _ => Interface.format_iff
  simp only [hread]
  constructor
  · rintro ⟨x, hx, m, hm⟩
    exact ⟨m, x, hx, hm⟩
  · rintro ⟨m, x, hx, hm⟩
    exact ⟨x, hx, m, hm⟩

theorem interface_eq_ok_iff : a.interface url = .ok m ↔ ∃ status body v, a = .reply status body ∧
    (200 ≤ status ∧ status < 300) ∧ Json.decode body = .ok v ∧ InterfaceReads v m := by
  simp only [interface, bind_eq_ok_iff, value_eq_ok_iff, interfaceOf_eq_ok_iff]
  constructor
  · rintro ⟨v, ⟨status, body, ha, hs, hv⟩, hm⟩
    exact ⟨status, body, v, ha, hs, hv, hm⟩
  · rintro ⟨status, body, v, ha, hs, hv, hm⟩
    exact ⟨v, ⟨status, body, ha, hs, hv⟩, hm⟩

theorem refuses_of_value (h : a.value url = .error e) (ha : a.Shallow) : a.Refuses url e := by
  cases a with
  | failure lapse message =>
    obtain rfl := Except.error.inj h
    exact .transport
  | reply status body =>
    rw [value] at h
    split at h
    · next hs =>
      obtain ⟨fault, hfault, rfl⟩ := mapError_eq_error_iff.mp h
      have hshallow := ha status body rfl
      rw [hfault] at hshallow
      cases fault with
      | undecodable fault => exact .malformed _ hs
      | unreadable fault =>
        cases fault with
        | tooDeep container => exact absurd rfl (hshallow container)
        | _ => exact .malformed _ hs
    · next hs =>
      obtain rfl := Except.error.inj h
      exact .status hs

/-- A value that holds no interface is refused as malformed, whatever its shape. -/
theorem malformed_of_interfaceOf (h : interfaceOf url v = .error e) :
    ∃ why, e = .malformed url why := by
  unfold interfaceOf at h
  split at h
  · split at h
    · obtain ⟨fault, hfault, rfl⟩ := mapError_eq_error_iff.mp h
      cases fault with
      | infinite => exact absurd hfault Interface.ofJson_ne_infinite
      | _ => exact ⟨_, rfl⟩
    · exact ⟨_, (Except.error.inj h).symm⟩
  · exact ⟨_, (Except.error.inj h).symm⟩

theorem refuses_of_interface (h : a.interface url = .error e) (ha : a.Shallow) :
    a.Refuses url e := by
  rcases bind_eq_error_iff.mp h with hvalue | ⟨v, hv, hv'⟩
  · exact refuses_of_value hvalue ha
  · obtain ⟨status, body, rfl, hs, -⟩ := value_eq_ok_iff.mp hv
    obtain ⟨why, rfl⟩ := malformed_of_interfaceOf hv'
    exact .malformed why hs

end Answer

namespace Client

variable {c : Client} {account module : Text} {w : World} {a : Answer}

/-- What is fetched is what the answer to the one request tells. -/
theorem readInterface_fst_of_sound (h : Address.Sound (c.interfaceUrl account module)) :
    (c.readInterface account module w).1 =
      (w.node.ask (c.interfaceUrl account module)).1.interface (c.interfaceUrl account module) := by
  unfold readInterface request
  simp only [h.1]
  rw [Answer.valueAt_of_sound h]
  rfl

/-- An answer is accepted exactly if it is a success and what its body writes has the format of an
interface. Any other is refused as what it is: a failed transport, a status, or a malformed body at
the address. What is accepted is read item by item: friends, functions and structs, and in them
fields, parameters, results and type parameters, each in the order in which they are listed. -/
theorem fetchInterface_accepts_format (hs : Address.Sound (c.interfaceUrl account module))
    (ha : (w.node.ask (c.interfaceUrl account module)).1 = a) (hshallow : a.Shallow) :
    ((∃ m w', Returns (c.fetchInterface account module) w m w') ∨
      ∃ e w', Fails (c.fetchInterface account module) w e w' ∧
        a.Refuses (c.interfaceUrl account module) e) ∧
    ((∃ m w', Returns (c.fetchInterface account module) w m w') ↔
      ∃ status body v, a = .reply status body ∧ (200 ≤ status ∧ status < 300) ∧
        Json.decode body = .ok v ∧ InterfaceFormat v) ∧
    ∀ m w', Returns (c.fetchInterface account module) w m w' →
      ∃ status body v, a = .reply status body ∧ Json.decode body = .ok v ∧ InterfaceReads v m := by
  have hread : (c.readInterface account module w).1 = a.interface (c.interfaceUrl account module) :=
    ha ▸ readInterface_fst_of_sound hs
  have hreturns : ∀ m, (∃ w', Returns (c.fetchInterface account module) w m w') ↔
      a.interface (c.interfaceUrl account module) = .ok m := by
    intro m
    rw [← hread]
    exact exists_returns_iff
  refine ⟨?_, ?_, fun m w' h => ?_⟩
  · rcases returns_or_fails (c.fetchInterface account module) w with ⟨m, h⟩ | ⟨e, h⟩
    · exact .inl ⟨m, _, h⟩
    · exact .inr ⟨e, _, h,
        Answer.refuses_of_interface (hread.symm.trans (congrArg Prod.fst h)) hshallow⟩
  · simp only [hreturns, Answer.interface_eq_ok_iff, Answer.interfaceFormat_iff]
    constructor
    · rintro ⟨m, status, body, v, ha, hs, hv, hm⟩
      exact ⟨status, body, v, ha, hs, hv, m, hm⟩
    · rintro ⟨status, body, v, ha, hs, hv, m, hm⟩
      exact ⟨m, status, body, v, ha, hs, hv, hm⟩
  · obtain ⟨status, body, v, ha, -, hv, hm⟩ :=
      Answer.interface_eq_ok_iff.mp ((hreturns m).mp ⟨w', h⟩)
    exact ⟨status, body, v, ha, hv, hm⟩

namespace Sample

open MoveSkeleton.Sample

/-- A module with a function and a struct. Of the type parameters of the function one has a
constraint, and one is no object. -/
def exposing : Json :=
  .object [("abi", .object [("address", .text "0xa"), ("name", .text "p"),
    ("exposed_functions", .list [.object [("name", .text "f"), ("visibility", .text "public"),
      ("is_entry", .int 1),
      ("generic_type_params", .list [.object [("constraints", .list [.text "copy"])], .null]),
      ("params", .list [.text "u8", .text "bool"])]]),
    ("structs", .list [.object [("name", .int 7), ("abilities", .list [.text "drop"]),
      ("fields", .list [.object [("name", .text "x"), ("type", .text "u64")]])]])])]

/-- A module whose friends are no texts. -/
def befriending : Json :=
  .object [("abi", .object [("address", .text "0xa"), ("name", .text "p"),
    ("friends", .list [.null])])]

/-- A node that has one answer for one module. -/
def showing (a : Answer) : World where
  node := [(client.interfaceUrl "0xa" "p", [a])]
  disk := Disk.blank ["w"]

theorem ask_showing (a : Answer) :
    ((showing a).node.ask (client.interfaceUrl "0xa" "p")).1 = a := by
  simp [showing, Node.ask, Entries.get?]

theorem shallow_answer {x v : Json} (h : Json.decode x.print.toUTF8 = .ok v) :
    (answer x).Shallow := by
  intro status body ha container hdeep
  obtain ⟨rfl, rfl⟩ := Answer.reply.inj ha
  cases h.symm.trans hdeep

end Sample

/-- An answer that is accepted, with what is read from it, and others that are refused. -/
theorem fetchInterface_accepts_exposing :
    let c := MoveSkeleton.Sample.client
    let url := c.interfaceUrl "0xa" "p"
    (∃ v m w', Json.decode Sample.exposing.print.toUTF8 = .ok v ∧
      Returns (c.fetchInterface "0xa" "p")
        (Sample.showing (MoveSkeleton.Sample.answer Sample.exposing)) m w' ∧
      InterfaceReads v m ∧
      m = ⟨"0xa", "p", [], [⟨"f", "public", true, false, [["copy"], []], ["u8", "bool"], []⟩],
        [⟨"7", ["drop"], [], [⟨"x", "u64"⟩], false, false⟩]⟩) ∧
    (∃ why w', Fails (c.fetchInterface "0xa" "p")
      (Sample.showing (MoveSkeleton.Sample.answer Sample.befriending)) (.malformed url why) w') ∧
    ∃ w', Fails (c.fetchInterface "0xa" "p") (Sample.showing (.failure .readTimeout "slow"))
      (.transport .readTimeout "slow") w' := by
  intro c url
  have hs : Address.Sound url := by decide +kernel
  have hexposing : ∃ v ∈ (Json.decode Sample.exposing.print.toUTF8).toOption,
      InterfaceFormat v ∧ (Answer.interfaceOf url v).toOption =
        some ⟨"0xa", "p", [], [⟨"f", "public", true, false, [["copy"], []], ["u8", "bool"], []⟩],
          [⟨"7", ["drop"], [], [⟨"x", "u64"⟩], false, false⟩]⟩ := by
    decide +kernel
  have hbefriending : ∃ v ∈ (Json.decode Sample.befriending.print.toUTF8).toOption,
      ¬ InterfaceFormat v := by
    decide +kernel
  refine ⟨?_, ?_, ?_⟩
  · obtain ⟨v, hv, hformat, hm⟩ := hexposing
    have hv := Resolution.Sample.eq_ok hv
    obtain ⟨-, hiff, hreads⟩ := fetchInterface_accepts_format hs (Sample.ask_showing _)
      (Sample.shallow_answer hv)
    obtain ⟨m, w', h⟩ := hiff.mpr ⟨_, _, v, rfl, by decide, hv, hformat⟩
    obtain ⟨status, body, v', ha, hv', hread⟩ := hreads m w' h
    obtain ⟨rfl, rfl⟩ := Answer.reply.inj ha
    obtain rfl := Except.ok.inj (hv.symm.trans hv')
    have hm := (Answer.interfaceOf_eq_ok_iff.mpr hread).symm.trans (Resolution.Sample.eq_ok hm)
    exact ⟨v, m, w', hv, h, hread, Except.ok.inj hm⟩
  · obtain ⟨v, hv, hformat⟩ := hbefriending
    have hv := Resolution.Sample.eq_ok hv
    obtain ⟨houtcome, hiff, -⟩ := fetchInterface_accepts_format hs (Sample.ask_showing _)
      (Sample.shallow_answer hv)
    rcases houtcome with hreturns | ⟨e, w', h, hrefuses⟩
    · obtain ⟨status, body, v', ha, -, hv', hformat'⟩ := hiff.mp hreturns
      obtain ⟨rfl, rfl⟩ := Answer.reply.inj ha
      obtain rfl := Except.ok.inj (hv.symm.trans hv')
      exact absurd hformat' hformat
    · cases hrefuses with
      | status hstatus => exact absurd (by decide) hstatus
      | malformed why => exact ⟨why, w', h⟩
  · obtain ⟨houtcome, hiff, -⟩ := fetchInterface_accepts_format hs
      (Sample.ask_showing (.failure .readTimeout "slow")) fun _ _ h => nomatch h
    rcases houtcome with hreturns | ⟨e, w', h, hrefuses⟩
    · obtain ⟨status, body, v, ha, -⟩ := hiff.mp hreturns
      cases ha
    · cases hrefuses
      exact ⟨w', h⟩

end Client

end MoveSkeleton
