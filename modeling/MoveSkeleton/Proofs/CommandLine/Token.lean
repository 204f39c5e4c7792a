import MoveSkeleton.Proofs.Ending
import MoveSkeleton.Proofs.Skeleton.Expected
import MoveSkeleton.Proofs.Token

/-! How the search for a token ends, and the making of the client that carries it. -/
namespace MoveSkeleton

open Activity Skeleton

/-- There is a client for every address, with any token that can be sent. -/
theorem Client.exists_make (address : Text) {token : Option Text}
    (h : ∀ t ∈ token, Text.EncodingFault.find .notAscii (bearer t) = none) :
    ∃ c, make address token = .ok c := by
  have hfind : (token.filter (!·.isEmpty)).bind
      (fun t => Text.EncodingFault.find .notAscii (bearer t)) = none := by
    refine Option.bind_eq_none_iff.mpr fun t ht => h t (Option.filter_eq_some_iff.mp ht).1
  simp only [make, hfind]
  exact ⟨_, rfl⟩

/-- The node is left by requests to `n`, and nothing has been written to the disk `d`. -/
abbrev Unwritten (n : Node) (d : Disk) (w : World) : Prop :=
  Since n w ∧ w.disk = d

namespace Token

variable {access : Access} {d : Disk} {file : Path} {e : Failure} {flag : Option Text}
  {env : Entries Text Text} {source : Option Path} {n : Node}

/-- A header can hold the token. -/
def IsSendable (t : Text) : Prop :=
  Text.EncodingFault.find .notAscii (Client.bearer t) = none

instance : DecidablePred IsSendable :=
  fun t => inferInstanceAs (Decidable (Text.EncodingFault.find .notAscii (Client.bearer t) = none))

/-- The token that is given in words or in the environment. -/
def given (flag : Option Text) (env : Entries Text Text) : Option Text :=
  (flag.bind nonBlank).or ((Entries.get? env tokenVariable).bind nonBlank)

/-- What can be read from the file is text. -/
def IsText (access : Access) (d : Disk) (file : Path) : Prop :=
  ∀ bytes, access.read d file = .ok bytes → ∃ text, Text.Utf8.decode bytes = .ok text

/-- The token that is found can be sent. If none is given, there is a file to look at. -/
structure Fits (access : Access) (flag : Option Text) (env : Entries Text Text)
    (source : Option Path) (d : Disk) : Prop where
  given : ∀ t, Token.given flag env = some t → IsSendable t
  file : Token.given flag env = none → ∃ file, source = some file ∧ IsText access d file ∧
    ∀ t, ofFile access d file = .ok (some t) → IsSendable t

/-- A file that holds text is read, unless the disk refuses to. -/
theorem isExpected_of_ofFile (hfile : IsText access d file)
    (h : ofFile access d file = .error e) : e.isExpected = true := by
  cases ofFile_eq_error_iff.mp h with
  | unread hexists hread =>
    have hpath := Access.ofPath?_of_exists? hexists
    exact Failure.isExpected_of_isLapse (Access.isLapse_of_read hpath hread)
  | undecodable hread hdecode =>
    obtain ⟨text, htext⟩ := hfile _ hread
    cases htext.symm.trans hdecode
  | untold => rfl

theorem ends_find (h : Fits access flag env source d) :
    EndsExpected (Unwritten n d) (find access flag env source)
      fun token w => Since n w ∧ (∀ t ∈ token, IsSendable t) ∧
        (source = none → token.isSome = true) := by
  unfold find
  cases hflag : flag.bind nonBlank with
  | some t =>
    have ht := h.given t (by rw [given, hflag]; rfl)
    exact .pure fun w hw => ⟨hw.1, by simpa using ht, fun _ => rfl⟩
  | none =>
    cases henv : (Entries.get? env tokenVariable).bind nonBlank with
    | some t =>
      have ht := h.given t (by rw [given, hflag, henv]; rfl)
      exact .pure fun w hw => ⟨hw.1, by simpa using ht, fun _ => rfl⟩
    | none =>
      obtain ⟨file, rfl, htext, hsendable⟩ := h.file (by rw [given, hflag, henv]; rfl)
      refine .get_bind fun w hw => ?_
      obtain ⟨hn, rfl⟩ := hw
      have hread : EndsExpected (Since n) (ofResult (ofFile access w.disk file))
          fun token v => Since n v ∧ ∀ t ∈ token, IsSendable t :=
        ends_ofResult (fun token htoken v hv => ⟨hv, fun t ht =>
          hsendable t (htoken.trans (congrArg _ ht))⟩) fun e => isExpected_of_ofFile htext
      refine (hread.bind fun token => .of_and fun htoken => ?_) w hn
      have hend : EndsExpected (Since n) (pure token) fun token v => Since n v ∧
          (∀ t ∈ token, IsSendable t) ∧ (some file = none → token.isSome = true) :=
        .pure fun v hv => ⟨hv, htoken, nofun⟩
      split
      · exact (ends_noting _).bind fun _ => hend
      · exact hend

end Token

end MoveSkeleton
