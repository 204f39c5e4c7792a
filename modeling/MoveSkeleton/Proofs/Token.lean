import MoveSkeleton.Proofs.Dotenv.Joining
import MoveSkeleton.Proofs.Failing
import MoveSkeleton.Proofs.Text.Blank

/-! The search for a token: which source it comes from, and when it fails. -/
namespace MoveSkeleton

namespace Token

open Activity Text Dotenv Entries

/-- Nothing but blanks. -/
def IsBlank (s : Text) : Prop :=
  ∀ p ∈ s.points, p.isBlank = true

/-- Of `s` the text `t` is left when the blanks around it are removed, and that is not nothing. -/
structure Yields (s t : Text) : Prop extends Strips CodePoint.isBlank s.points t.points where
  ne_empty : t ≠ ""

/-- A source that is not there, or blank. -/
def Unset (source : Option Text) : Prop :=
  ∀ s ∈ source, IsBlank s

variable {access : Access} {d : Disk} {f : Path} {s t : Text} {text v : List Char}
  {source flag : Option Text} {env : Entries Text Text} {file : Option Path}
  {r : Except Failure (Option Text)} {e : Failure}

theorem strip_eq_iff : s.strip = t ↔ Strips CodePoint.isBlank s.points t.points := by
  rw [strip, ← stripBy_eq_iff]
  exact ⟨congrArg points, ext_points⟩

theorem isEmpty_strip_iff : s.strip.isEmpty = true ↔ IsBlank s := by
  rw [strip, isEmpty, List.isEmpty_iff]
  exact stripBy_eq_nil_iff

theorem isEmpty_iff : s.isEmpty = true ↔ s = "" := by
  rw [isEmpty, List.isEmpty_iff]
  exact ⟨ext_points, congrArg points⟩

theorem nonBlank_eq_some_iff : nonBlank s = some t ↔ Yields s t := by
  rw [nonBlank, Option.ite_none_left_eq_some, Option.some_inj]
  constructor
  · rintro ⟨hne, rfl⟩
    exact ⟨strip_eq_iff.mp rfl, mt isEmpty_iff.mpr hne⟩
  · intro h
    obtain rfl := strip_eq_iff.mpr h.toStrips
    exact ⟨mt isEmpty_iff.mp h.ne_empty, rfl⟩

theorem nonBlank_eq_none_iff : nonBlank s = none ↔ IsBlank s := by
  rw [nonBlank, ite_eq_left_iff, imp_iff_not (Option.some_ne_none _), not_not, isEmpty_strip_iff]

theorem bind_nonBlank_eq_some_iff :
    source.bind nonBlank = some t ↔ ∃ s, source = some s ∧ Yields s t := by
  simp only [Option.bind_eq_some_iff, nonBlank_eq_some_iff]

theorem bind_nonBlank_eq_none_iff : source.bind nonBlank = none ↔ Unset source := by
  simp only [Option.bind_eq_none_iff, nonBlank_eq_none_iff]
  rfl

/-- The last value that the lines of a text give the token's variable. -/
def Assigns (text v : List Char) : Prop :=
  ∃ before after, assigned text = before ++ (tokenVariable.toList, v) :: after ∧
    tokenVariable.toList ∉ after.map (·.1)

theorem get?_load_eq_some_iff : get? (load text) tokenVariable.toList = some v ↔ Assigns text v :=
  get?_ofList_eq_some_iff

/-- The text of characters. -/
abbrev ofChars (cs : List Char) : Text := ⟨cs.map .char⟩

/-- Why no assignments are had from a file: it is there and cannot be read, its bytes are no text, or
it cannot be told whether it is there. That is so if its path, or a name on it, is too long, or a
folder on the way to it may not be searched. -/
inductive Illegible (access : Access) (d : Disk) (f : Path) : Failure → Prop where
  | unread {fault : DiskFault} (hexists : access.exists? d f = .ok true)
      (h : access.read d f = .error fault) : Illegible access d f (.disk fault)
  | undecodable {bytes : ByteArray} {fault : DecodingFault} (hread : access.read d f = .ok bytes)
      (h : Utf8.decode bytes = .error fault) : Illegible access d f (.undecodable fault)
  | untold {lapse : DiskLapse} (hpath : DiskFault.ofPath? f = none)
      (h : access.locate d f = .error lapse) (hlapse : lapse = .nameTooLong ∨ lapse = .denied) :
      Illegible access d f (.disk (.at lapse f))

/-- What comes of looking for the token in a file. -/
inductive Reads (access : Access) (d : Disk) (f : Path) : Except Failure (Option Text) → Prop where
  | missing (h : access.exists? d f = .ok false) : Reads access d f (.ok none)
  | assigned {text v : List Char} {t : Text} (hf : d.HoldsText access f text) (hv : Assigns text v)
      (ht : Yields (ofChars v) t) : Reads access d f (.ok (some t))
  | unset {text : List Char} (hf : d.HoldsText access f text)
      (h : ∀ v, Assigns text v → IsBlank (ofChars v)) : Reads access d f (.ok none)
  | illegible {e : Failure} (h : Illegible access d f e) : Reads access d f (.error e)

/-- What comes of looking for the token in one source after the other. -/
inductive Finds (access : Access) (d : Disk) (flag : Option Text) (env : Entries Text Text) :
    Option Path → Except Failure (Option Text) → Prop where
  | flag {s t : Text} {file : Option Path} (hs : flag = some s) (ht : Yields s t) :
      Finds access d flag env file (.ok (some t))
  | environment {s t : Text} {file : Option Path} (hflag : Unset flag)
      (hs : get? env tokenVariable = some s) (ht : Yields s t) :
      Finds access d flag env file (.ok (some t))
  | nowhere (hflag : Unset flag) (henv : Unset (get? env tokenVariable)) :
      Finds access d flag env none (.ok none)
  | file {f : Path} {r : Except Failure (Option Text)} (hflag : Unset flag)
      (henv : Unset (get? env tokenVariable)) (h : Reads access d f r) :
      Finds access d flag env (some f) r

theorem illegible_of_assignments (h : assignments access d f = .error e) :
    Illegible access d f e := by
  rcases bind_eq_error_iff.mp h with h | ⟨found, hfound, h⟩
  · obtain ⟨fault, hfault, rfl⟩ := mapError_eq_error_iff.mp h
    obtain ⟨hpath, lapse, hlocate, hlapse, rfl⟩ := Access.exists?_eq_error_iff.mp hfault
    exact .untold hpath hlocate hlapse
  · cases found with
    | false => cases h
    | true =>
      rcases bind_eq_error_iff.mp h with h | ⟨bytes, hbytes, h⟩
      · obtain ⟨fault, hfault, rfl⟩ := mapError_eq_error_iff.mp h
        exact .unread (mapError_eq_ok_iff.mp hfound) hfault
      · rcases bind_eq_error_iff.mp h with h | ⟨_, -, h⟩
        · obtain ⟨fault, hfault, rfl⟩ := mapError_eq_error_iff.mp h
          exact .undecodable (mapError_eq_ok_iff.mp hbytes) hfault
        · cases h

theorem assignments_of_illegible (h : Illegible access d f e) :
    assignments access d f = .error e := by
  cases h with
  | unread hexists h =>
    refine bind_eq_error_iff.mpr (.inr ⟨true, mapError_eq_ok_iff.mpr hexists, ?_⟩)
    exact bind_eq_error_iff.mpr (.inl (mapError_eq_error_iff.mpr ⟨_, h, rfl⟩))
  | undecodable hread h =>
    refine bind_eq_error_iff.mpr
      (.inr ⟨true, mapError_eq_ok_iff.mpr (Access.exists?_of_read hread), ?_⟩)
    refine bind_eq_error_iff.mpr (.inr ⟨_, mapError_eq_ok_iff.mpr hread, ?_⟩)
    exact bind_eq_error_iff.mpr (.inl (mapError_eq_error_iff.mpr ⟨_, h, rfl⟩))
  | untold hpath h hlapse =>
    have hexists := Access.exists?_eq_error_iff.mpr ⟨hpath, _, h, hlapse, rfl⟩
    exact bind_eq_error_iff.mpr (.inl (mapError_eq_error_iff.mpr ⟨_, hexists, rfl⟩))

theorem assignments_eq_error_iff : assignments access d f = .error e ↔ Illegible access d f e :=
  ⟨illegible_of_assignments, assignments_of_illegible⟩

/-- Assignments are had from a file that holds a text, and none from one that is missing. -/
theorem assignments_eq_ok_iff {es : Entries (List Char) (List Char)} :
    assignments access d f = .ok es ↔ access.exists? d f = .ok false ∧ es = [] ∨
      ∃ text, d.HoldsText access f text ∧ es = load text := by
  constructor
  · intro h
    obtain ⟨found, hfound, hrest⟩ := bind_eq_ok_iff.mp h
    cases found with
    | false => exact .inl ⟨mapError_eq_ok_iff.mp hfound, (Except.ok.inj hrest).symm⟩
    | true =>
      obtain ⟨bytes, hbytes, hdecoded⟩ := bind_eq_ok_iff.mp hrest
      obtain ⟨s, hs, hes⟩ := bind_eq_ok_iff.mp hdecoded
      obtain rfl := Utf8.decode_eq_ok_iff.mp (mapError_eq_ok_iff.mp hs)
      refine .inr ⟨s.toList, ?_, ?_⟩
      · rw [Disk.HoldsText, String.ofList_toList]
        exact mapError_eq_ok_iff.mp hbytes
      · rw [← load_withFeeds]
        exact (Except.ok.inj hes).symm
  · rintro (⟨hmissing, rfl⟩ | ⟨text, hf, rfl⟩)
    · exact bind_eq_ok_iff.mpr ⟨false, mapError_eq_ok_iff.mpr hmissing, rfl⟩
    · exact assignments_of_holdsText hf

theorem ofFile_eq_ok_iff {token : Option Text} : ofFile access d f = .ok token ↔
    ∃ es, assignments access d f = .ok es ∧
      (get? es tokenVariable.toList).bind (fun cs => nonBlank (ofChars cs)) = token := by
  unfold ofFile
  rw [bind_eq_ok_iff]
  exact exists_congr fun es => and_congr_right fun _ => ⟨Except.ok.inj, congrArg _⟩

theorem ofFile_eq_error_iff : ofFile access d f = .error e ↔ Illegible access d f e := by
  unfold ofFile
  rw [bind_eq_error_iff, assignments_eq_error_iff]
  exact or_iff_left fun ⟨_, _, h⟩ => nomatch h

theorem ofFile_eq_iff : ofFile access d f = r ↔ Reads access d f r := by
  cases r with
  | error e =>
    rw [ofFile_eq_error_iff]
    exact ⟨.illegible, fun | .illegible h => h⟩
  | ok token =>
    rw [ofFile_eq_ok_iff]
    constructor
    · rintro ⟨es, hes, htoken⟩
      rcases assignments_eq_ok_iff.mp hes with ⟨hmissing, rfl⟩ | ⟨text, hf, rfl⟩
      · obtain rfl : none = token := htoken
        exact .missing hmissing
      · cases token with
        | none =>
          refine .unset hf fun v hv => nonBlank_eq_none_iff.mp ?_
          exact Option.bind_eq_none_iff.mp htoken v (get?_load_eq_some_iff.mpr hv)
        | some t =>
          obtain ⟨v, hv, ht⟩ := Option.bind_eq_some_iff.mp htoken
          exact .assigned hf (get?_load_eq_some_iff.mp hv) (nonBlank_eq_some_iff.mp ht)
    · intro h
      cases h with
      | missing h => exact ⟨[], assignments_eq_ok_iff.mpr (.inl ⟨h, rfl⟩), rfl⟩
      | assigned hf hv ht =>
        refine ⟨_, assignments_of_holdsText hf, Option.bind_eq_some_iff.mpr ?_⟩
        exact ⟨_, get?_load_eq_some_iff.mpr hv, nonBlank_eq_some_iff.mpr ht⟩
      | unset hf h =>
        refine ⟨_, assignments_of_holdsText hf, Option.bind_eq_none_iff.mpr fun v hv => ?_⟩
        exact nonBlank_eq_none_iff.mpr (h v (get?_load_eq_some_iff.mp hv))

theorem find_of_flag (h : flag.bind nonBlank = some t) :
    find access flag env file = pure (some t) := by
  simp only [find, h]

theorem find_of_environment (hflag : Unset flag)
    (h : (get? env tokenVariable).bind nonBlank = some t) :
    find access flag env file = pure (some t) := by
  simp only [find, bind_nonBlank_eq_none_iff.mpr hflag, h]

theorem find_nowhere (hflag : Unset flag) (henv : Unset (get? env tokenVariable)) :
    find access flag env none = pure none := by
  simp only [find, bind_nonBlank_eq_none_iff.mpr hflag, bind_nonBlank_eq_none_iff.mpr henv]

/-- A token from a file is noted, which does not change what comes of the search. -/
theorem run_find_of_file (hflag : Unset flag) (henv : Unset (get? env tokenVariable)) (w : World) :
    ((find access flag env (some f)).run.run w).1 = ofFile access w.disk f := by
  simp only [find, bind_nonBlank_eq_none_iff.mpr hflag, bind_nonBlank_eq_none_iff.mpr henv]
  rw [run_get_bind]
  cases hr : ofFile access w.disk f with
  | error e => rw [run_bind_of_error (fails_ofResult.mpr ⟨rfl, rfl⟩)]
  | ok token =>
    rw [run_bind_of_ok (returns_ofResult.mpr ⟨rfl, rfl⟩)]
    split <;> rfl

theorem find_eq_iff (w : World) :
    ((find access flag env file).run.run w).1 = r ↔ Finds access w.disk flag env file r := by
  constructor
  · rintro rfl
    cases hflag : flag.bind nonBlank with
    | some t =>
      obtain ⟨s, hs, ht⟩ := bind_nonBlank_eq_some_iff.mp hflag
      rw [find_of_flag hflag]
      exact .flag hs ht
    | none =>
      have hflag := bind_nonBlank_eq_none_iff.mp hflag
      cases henv : (get? env tokenVariable).bind nonBlank with
      | some t =>
        obtain ⟨s, hs, ht⟩ := bind_nonBlank_eq_some_iff.mp henv
        rw [find_of_environment hflag henv]
        exact .environment hflag hs ht
      | none =>
        have henv := bind_nonBlank_eq_none_iff.mp henv
        cases file with
        | none =>
          rw [find_nowhere hflag henv]
          exact .nowhere hflag henv
        | some f =>
          rw [run_find_of_file hflag henv]
          exact .file hflag henv (ofFile_eq_iff.mp rfl)
  · intro h
    cases h with
    | flag hs ht =>
      rw [find_of_flag (bind_nonBlank_eq_some_iff.mpr ⟨_, hs, ht⟩)]
      rfl
    | environment hflag hs ht =>
      rw [find_of_environment hflag (bind_nonBlank_eq_some_iff.mpr ⟨_, hs, ht⟩)]
      rfl
    | nowhere hflag henv =>
      rw [find_nowhere hflag henv]
      rfl
    | file hflag henv h =>
      rw [run_find_of_file hflag henv]
      exact ofFile_eq_iff.mpr h

/-- The token is that of the first source that is not blank, and no later one is looked at. Only a
file can make the search fail, and only when the other two sources are blank. -/
theorem find_takes_first (access : Access) (flag : Option Text) (env : Entries Text Text)
    (file : Option Path) (w : World) :
    (∀ r, ((find access flag env file).run.run w).1 = r ↔ Finds access w.disk flag env file r) ∧
      (∀ t, ((find access flag env file).run.run w).1 = .ok (some t) →
        t ≠ "" ∧ Bare CodePoint.isBlank t.points) ∧
      (∀ e, ((find access flag env file).run.run w).1 = .error e →
        Unset flag ∧ Unset (get? env tokenVariable) ∧
          ∃ f, file = some f ∧ Illegible access w.disk f e) ∧
      (¬ (Unset flag ∧ Unset (get? env tokenVariable)) →
        ∃ t, ∀ access file v, Returns (find access flag env file) v (some t) v) := by
  refine ⟨fun r => find_eq_iff w, fun t h => ?_, fun e h => ?_, fun h => ?_⟩
  · have hyields : ∃ s, Yields s t := by
      cases (find_eq_iff w).mp h with
      | flag hs ht | environment _ hs ht => exact ⟨_, ht⟩
      | file hflag henv h =>
        cases h with
        | assigned hf hv ht => exact ⟨_, ht⟩
    obtain ⟨s, hs⟩ := hyields
    exact ⟨hs.ne_empty, hs.toBare⟩
  · cases (find_eq_iff w).mp h with
    | file hflag henv h =>
      cases h with
      | illegible h => exact ⟨hflag, henv, _, rfl, h⟩
  · by_cases hflag : Unset flag
    · have henv := mt bind_nonBlank_eq_none_iff.mp fun henv => h ⟨hflag, henv⟩
      obtain ⟨t, ht⟩ := Option.ne_none_iff_exists'.mp henv
      refine ⟨t, fun access file v => ?_⟩
      rw [find_of_environment hflag ht]
      exact returns_pure.mpr ⟨rfl, rfl⟩
    · obtain ⟨t, ht⟩ := Option.ne_none_iff_exists'.mp (mt bind_nonBlank_eq_none_iff.mp hflag)
      refine ⟨t, fun access file v => ?_⟩
      rw [find_of_flag ht]
      exact returns_pure.mpr ⟨rfl, rfl⟩

/-- In the one file the last assignment is quoted, with blanks inside, and in the other it is
blank. -/
theorem find_takes_first_quoted :
    let blank : Text := " \t"
    let env : Entries Text Text := [(tokenVariable, "\u00a0")]
    let f : Path := ⟨.here, ["f"]⟩
    let g : Path := ⟨.here, ["g"]⟩
    let w : World :=
      { node := []
        disk := Disk.ofTexts [("f", "APTOS_API_TOKEN=a\nexport APTOS_API_TOKEN=' b\t'".toList),
          ("g", "APTOS_API_TOKEN=a\nAPTOS_API_TOKEN=' '".toList)] }
    ((find {} (some blank) env (some f)).run.run w).1 = .ok (some "b") ∧
      ("b" : Text) ≠ "" ∧ Bare CodePoint.isBlank ("b" : Text).points ∧
      ((find {} (some blank) env (some g)).run.run w).1 = .ok none ∧
      ∃ t, ∀ access file v, Returns (find access (some (" a " : Text)) env file) v (some t) v := by
  intro blank env f g w
  have hflag : Unset (some blank) := bind_nonBlank_eq_none_iff.mp (by decide +kernel)
  have henv : Unset (get? env tokenVariable) := bind_nonBlank_eq_none_iff.mp (by decide +kernel)
  have hf : Reads {} w.disk f (.ok (some "b")) := ofFile_eq_iff.mp (by decide +kernel)
  have hg : Reads {} w.disk g (.ok none) := ofFile_eq_iff.mp (by decide +kernel)
  obtain ⟨hfind, htoken, -, -⟩ := find_takes_first {} (some blank) env (some f) w
  have hb := (hfind _).mpr (.file hflag henv hf)
  refine ⟨hb, (htoken _ hb).1, (htoken _ hb).2, ?_, ?_⟩
  · exact ((find_takes_first {} _ env (some g) w).1 _).mpr (.file hflag henv hg)
  · refine (find_takes_first {} (some (" a " : Text)) env none w).2.2.2 fun h => ?_
    exact absurd (h.1 _ rfl (.char 'a') (by decide)) (by decide)

/-- Two files are not there, and yet the search for a token in them fails: the name of one is too
long, and the folder of the other may not be searched. -/
theorem missing_file_fails :
    let name : Text := ⟨List.replicate 256 (.char 'a')⟩
    let f : Path := ⟨.here, [name]⟩
    let g : Path := ⟨.here, ["d", "f"]⟩
    let access : Access := { maySearch := (· != ["w", "d"]) }
    let w : World :=
      { node := [], disk := { root := Tree.empty.put ["w", "d"] .empty, here := ["w"] } }
    w.disk.root.get? ["w", name] = none ∧ w.disk.root.get? ["w", "d", "f"] = none ∧
      Unset none ∧ Unset (get? [] tokenVariable) ∧
      ((find {} none [] (some f)).run.run w).1 = .error (.disk (.at .nameTooLong f)) ∧
      ((find access none [] (some g)).run.run w).1 = .error (.disk (.at .denied g)) := by
  intro name f g access w
  refine ⟨by decide +kernel, by decide +kernel, nofun, nofun, by decide +kernel, by decide +kernel⟩

end Token

end MoveSkeleton
