import MoveSkeleton.CommandLine.Run
import MoveSkeleton.Proofs.CommandLine.Token
import MoveSkeleton.Proofs.Skeleton.Expected
import MoveSkeleton.Proofs.Terminal.Layout

/-! How a command ends: as it should, or with a report and an exit status, as long as nothing leads
to a failure that no command expects. -/
namespace MoveSkeleton

open Activity Skeleton Resolution

namespace CommandLine

variable {u : Surroundings} {s : Settings} {w : World} {n : Node} {c : Client} {args : List Text}
  {P : World → Prop} {text : Text}

theorem ends_leaving {α : Type} {Q Q' : α → World → Prop} {a : Activity α} {lines : List Text}
    (h : EndsExpected P a Q) (hQ : ∀ x w, Q x w → Q' x (w.print lines)) :
    EndsExpected P (leaving lines a) Q' := by
  intro w hw
  have ha := h w hw
  unfold leaving
  simp only [ExceptT.run_mk, StateT.run] at ha ⊢
  generalize a.run w = r at ha
  cases ha with
  | returned hq => exact .returned (hQ _ _ hq)
  | failed he => exact .failed he

/-- A text that the screen can show is printed. -/
theorem ends_say (h : u.screen.Shows text) (hP : ∀ w lines, P w → P (w.print lines)) :
    EndsExpected P (say u.screen text) fun _ => P := by
  obtain ⟨lines, hlines⟩ := h.lines
  exact ends_display hlines fun w hw => hP w lines hw

namespace Settings

/-- The client asks at the address that is set. -/
def IsClient (s : Settings) (c : Client) : Prop :=
  ∃ address token, s.rpc = some address ∧ Client.make address token = .ok c

/-- The texts that a command prints whatever comes of it, as far as its arguments are in them. -/
def announced (s : Settings) : List Text :=
  ("Using RPC: " ++ s.rpc.getD voidText) :: match s.command with
    | .create =>
      let folder := (s.directory.join s.root.name).text
      ["Using account: " ++ s.root.account, "Target package: " ++ s.root.name,
        "Output directory: " ++ folder,
        "[green]All operations completed successfully![/green] Mock package at " ++ folder]
    | .deps => ["Dependencies of " ++ s.root.key]

/-- The screen can show what a command prints as it goes: its arguments, and the dependencies in a
table. -/
structure Shown (u : Surroundings) (s : Settings) (w : World) : Prop where
  announced : ∀ t ∈ s.announced, u.screen.Shows t
  listed : s.command = .deps → ∀ d ∈ w.node.dependencies, isFramework d.account = false →
    ∀ t ∈ [d.account, d.name, d.folder], u.screen.Shows t

/-- Nothing leads to a failure that no command expects: no operand is void where its text is wanted,
the token can be found and sent, what the node tells can be read and, if it is to be written, can be
written, and what is printed on the way can be shown. -/
structure Orderly (u : Surroundings) (s : Settings) (w : World) : Prop where
  address : s.rpc ≠ none
  package : s.command = .create → s.package ≠ none
  token : Token.Fits u.access s.token.join u.environment s.envFile w.disk
  node : ∀ c, s.IsClient c → Mild c s.root w.node
  spelled : s.command = .create → ∀ c, s.IsClient c →
    Spelled c s.root (s.directory.join s.root.name) w.node
  shown : s.Shown u w

theorem ends_saying (h : u.screen.Shows text) :
    EndsExpected (Since n) (say u.screen text) fun _ => Since n :=
  ends_say h fun _ _ hw => hw

theorem ends_announcing {d : Disk} (h : u.screen.Shows text) :
    EndsExpected (Unwritten n d) (say u.screen text) fun _ => Unwritten n d :=
  ends_say h fun _ _ hw => hw

theorem shows_token : u.screen.Shows "Using Bearer token for authentication" :=
  Terminal.Screen.shows_of_unbracketed (Text.isEncodable_ofString _) (by decide)

theorem ends_findToken {d : Disk} (h : Token.Fits u.access s.token.join u.environment s.envFile d) :
    EndsExpected (Unwritten n d) (s.findToken u)
      fun token w => Since n w ∧ ∀ t ∈ token, Token.IsSendable t := by
  refine (Token.ends_find h).bind fun token => ?_
  cases token with
  | some t => exact .pure fun w hw => ⟨hw.1, hw.2.1⟩
  | none =>
    cases hfile : s.envFile with
    | none =>
      intro w hw
      cases hw.2.2 rfl
    | some file => exact .pure fun w hw => ⟨hw.1, nofun⟩

theorem ends_client (h : s.Orderly u w) :
    EndsExpected (Unwritten w.node w.disk) (s.client u)
      fun c v => Since w.node v ∧ s.IsClient c := by
  obtain ⟨address, haddress⟩ := Option.ne_none_iff_exists'.mp h.address
  refine (ends_findToken h.token).bind fun token => .of_and fun htoken => ?_
  refine (ends_saying (h.shown.announced _ List.mem_cons_self)).bind fun _ => ?_
  have hmake : EndsExpected (Since w.node)
      (ofResult ((Client.make address token).mapError .unencodable))
      fun c v => Since w.node v ∧ s.IsClient c := by
    obtain ⟨c, hc⟩ := Client.exists_make address htoken
    refine ends_ofResult (fun c' hc' w hw => ?_) fun e he => ?_
    · exact ⟨hw, address, token, haddress, mapError_eq_ok_iff.mp hc'⟩
    · rw [hc] at he
      cases he
  simp only [haddress]
  split
  · exact (ends_saying shows_token).bind fun _ => hmake
  · exact hmake

theorem ends_runCreate (h : s.Orderly u w) (hs : s.command = .create) :
    EndsExpected (Unwritten w.node w.disk) (s.runCreate u) fun _ => Since w.node := by
  obtain ⟨package, hpackage⟩ := Option.ne_none_iff_exists'.mp (h.package hs)
  have hsaid := h.shown.announced
  simp only [announced, hs, List.forall_mem_cons, List.not_mem_nil, false_implies, implies_true,
    and_true] at hsaid
  obtain ⟨-, haccount, htarget, hfolder, hdone⟩ := hsaid
  refine (ends_announcing haccount).bind fun _ => (ends_announcing htarget).bind fun _ => ?_
  simp only [hpackage]
  refine (ends_announcing hfolder).bind fun _ => ?_
  refine (ends_client h).bind fun c => .of_and fun hc => ?_
  have hmaking : EndsExpected (Since w.node)
      (leaving u.progress (Skeleton.create c s.root s.directory))
      fun made v => Since w.node v ∧ made.folder = s.directory.join s.root.name :=
    ends_leaving (ends_create (h.node c hc) (h.spelled hs c hc)) fun _ _ hv => hv
  refine hmaking.bind fun made => .of_and fun hmade => ?_
  have hcount := Terminal.Screen.shows_count (s := u.screen) "Collected " " unique dependencies"
    made.dependencies.length (by decide) (by decide)
  refine (ends_saying hcount).bind fun _ => ?_
  rw [hmade]
  exact ends_saying hdone

/-- A package whose name is void has no dependencies, unless its account cannot be read. -/
theorem ends_resolve (hm : Mild c s.root n) :
    EndsExpected (Since n) (s.resolve c) fun found w => Since n w ∧
      ∀ d ∈ found.map (·.2), d ∈ n.dependencies ∧ isFramework d.account = false := by
  unfold resolve
  split
  · exact Skeleton.ends_resolve hm
  · intro w hw
    have hlater := hw.trans (c.readResources_later s.root.account w)
    have hsoft := (hm.later hw).isOfNode hm.root
    have hunlisted : ∀ e, (answersAt c w s.root.account).map (·.map Resource.unlisted) = .error e →
        e.isOfNode = true := by
      intro e he
      cases hr : answersAt c w s.root.account with
      | ok rs =>
        rw [hr] at he
        cases he
      | error e' =>
        rw [hr] at he
        exact Except.error.inj he ▸ hsoft e' hr
    obtain ⟨own, hown⟩ := @declared_of_softly
      (fun account => (answersAt c w account).map (·.map Resource.unlisted)) s.root hunlisted
    simp only [ExceptT.run_mk, StateT.run]
    unfold answersAt at hown
    rw [hown]
    exact .returned ⟨hlater, nofun⟩

/-- The cells of a table are numbers, and what is told of each dependency. -/
theorem shows_texts {root : PackageId} {ds : List Dependency}
    (h : ∀ d ∈ ds, ∀ t ∈ [d.account, d.name, d.folder], u.screen.Shows t) :
    ∀ c ∈ (dependencyTable root ds).columns, ∀ t ∈ c.texts, u.screen.Shows t := by
  have hheader : ∀ header : String,
      Terminal.Unbracketed (Text.ofString header).points → u.screen.Shows header :=
    fun header => Terminal.Screen.shows_of_unbracketed (Text.isEncodable_ofString header)
  have hnumber : ∀ t ∈ ds.mapIdx fun i _ => (toString (i + 1) : Text), u.screen.Shows t := by
    intro t ht
    obtain ⟨i, -, rfl⟩ := List.mem_mapIdx.mp ht
    exact hheader _ (Terminal.unbracketed_numeral _)
  have htold : ∀ told : Dependency → Text,
      (∀ d : Dependency, told d ∈ [d.account, d.name, d.folder]) →
      ∀ t ∈ ds.map told, u.screen.Shows t :=
    fun _ hmem => List.forall_mem_map.mpr fun d hd => h d hd _ (hmem d)
  simp only [dependencyTable, Terminal.Column.texts, List.forall_mem_cons, List.not_mem_nil,
    false_implies, implies_true, and_true]
  exact ⟨⟨hheader "#" (by decide), hnumber⟩,
    ⟨hheader "Account" (by decide), htold _ (by simp)⟩,
    ⟨hheader "Package" (by decide), htold _ (by simp)⟩,
    hheader "Folder" (by decide), htold _ (by simp)⟩

theorem ends_runDeps (h : s.Orderly u w) (hs : s.command = .deps) :
    EndsExpected (Unwritten w.node w.disk) (s.runDeps u) fun _ => Since w.node := by
  unfold runDeps
  refine (ends_client h).bind fun c => .of_and fun hc => ?_
  refine (ends_resolve (h.node c hc)).bind fun found => .of_and fun hfound => ?_
  obtain ⟨lines, hlines⟩ : ∃ lines,
      (dependencyTable s.root (found.map (·.2))).lines u.screen = .ok lines := by
    refine Terminal.Table.exists_lines (h.shown.announced _ ?_) (shows_texts fun d hd => ?_)
    · rw [Settings.announced, hs]
      exact List.mem_cons_of_mem _ List.mem_cons_self
    · obtain ⟨hlisted, hframework⟩ := hfound d hd
      exact h.shown.listed hs d hlisted hframework
  have htable : EndsExpected (Since w.node)
      (display ((dependencyTable s.root (found.map (·.2))).lines u.screen))
      fun _ => Since w.node := ends_display hlines fun _ hv => hv
  have hcount := Terminal.Screen.shows_count (s := u.screen) ""
    " unique dependencies (framework packages excluded)" found.length (by decide) (by decide)
  rw [String.empty_append] at hcount
  exact htable.bind fun _ => ends_saying hcount

theorem ends_run (h : s.Orderly u w) :
    EndsExpected (Unwritten w.node w.disk) (s.run u) fun _ => Since w.node := by
  unfold run
  cases hs : s.command with
  | create => exact ends_runCreate h hs
  | deps => exact ends_runDeps h hs

end Settings

/-- A command that is read from the arguments and runs orderly returns and the status is zero, or it
fails as expected. Then its failure is told and the status is one, unless the screen cannot show what
would be told. -/
theorem perform_reports (hs : Invocation.ofArgs u.address args = .run s) (h : s.Orderly u w) :
    (∃ w', Returns (s.run u) w () w' ∧ perform args u w = (.exit 0 "", w')) ∨
    ∃ e w', Fails (s.run u) w e w' ∧ e.isExpected = true ∧
      (∀ lines, u.screen.lines (notice e) = .ok lines →
        perform args u w = (.exit 1 "", w'.print lines)) ∧
      ∀ fault, u.screen.lines (notice e) = .error fault →
        perform args u w = (.escaped (.unprintable fault), w') := by
  have hperform : perform args u w =
      conclude u.screen ((s.run u).run.run w).2 ((s.run u).run.run w).1 := by
    unfold perform
    rw [hs]
    rfl
  rw [hperform]
  rcases (Settings.ends_run h).cases ⟨.refl _, rfl⟩ with ⟨_, w', hr, -⟩ | ⟨e, w', hf, he⟩
  · refine .inl ⟨w', hr, ?_⟩
    rw [show (s.run u).run.run w = _ from hr]
    rfl
  · refine .inr ⟨e, w', hf, he, fun lines hlines => ?_, fun fault hfault => ?_⟩
    · rw [show (s.run u).run.run w = _ from hf]
      simp only [conclude, he, if_true, say, display, hlines]
      rfl
    · rw [show (s.run u).run.run w = _ from hf]
      simp only [conclude, he, if_true, say, display, hfault]
      rfl

namespace Sample

open MoveSkeleton.Sample

/-- One account with two packages, of which the first needs the second, and a token in a file. -/
def paired : World where
  node := [(client.resourcesUrl "0xa",
      [answer (resources [package "P" [("0xa", "Q")] ["p"], package "Q" [] []])]),
    (client.interfaceUrl "0xa" "p", [answer (interface "0xa" "p")])]
  disk :=
    { root := Tree.empty.put ["w", ".env"] (.file "export APTOS_API_TOKEN='secret'\n".toUTF8)
      here := ["w"] }

def creating : Settings :=
  { command := .create, account := some "0xa", package := some "P"
    directory := Path.ofText "out", rpc := some "https://test.rpc" }

theorem base_of_isClient {c : Client} (h : creating.IsClient c) : c.base = client.base := by
  obtain ⟨address, token, haddress, hc⟩ := h
  obtain rfl : "https://test.rpc" = address := Option.some.inj haddress
  unfold Client.make at hc
  dsimp only at hc
  split at hc
  · cases hc
  · rw [← Except.ok.inj hc]
    rfl

def first : Package := { name := "P", dependencies := [⟨"0xa", "Q"⟩], modules := ["p"] }

def second : Package := { name := "Q", dependencies := [], modules := [] }

theorem paired_told : (∀ e ∈ paired.node, ∀ a ∈ e.2, a.ends = false ∧ a.Prints) ∧
    paired.node.packages = [first, second] := by
  decide +kernel

theorem paired_holds {a : Answer} (ha : paired.node.Holds a) : a.ends = false ∧ a.Prints := by
  obtain ⟨e, he, ha⟩ := ha
  exact paired_told.1 e he a ha

theorem paired_dependencies {d : Dependency} (hd : d ∈ paired.node.dependencies) :
    d = ⟨"0xa", "Q"⟩ := by
  obtain ⟨q, hq, hd⟩ := Node.mem_dependencies_iff.mp hd
  rw [paired_told.2] at hq
  rcases List.mem_pair.mp hq with rfl | rfl
  · exact List.mem_singleton.mp hd
  · cases hd

theorem creating_mild : Mild client creating.root paired.node where
  answers a ha := (paired_holds ha).1
  root := by decide +kernel
  targets d hd _ := by
    rw [paired_dependencies hd]
    decide +kernel

theorem creating_spelled :
    Spelled client creating.root (creating.directory.join creating.root.name) paired.node where
  folder := by decide +kernel
  sources a ha := (paired_holds ha).2
  folders d hd _ := by
    rw [paired_dependencies hd]
    decide +kernel
  manifests p hp := by
    rw [paired_told.2]
    rcases hp with rfl | ⟨d, hd, -, rfl⟩
    · decide +kernel
    · rw [paired_dependencies hd]
      decide +kernel
  modules p hp := by
    rw [paired_told.2]
    rcases hp with rfl | ⟨d, hd, -, rfl⟩
    · decide +kernel
    · rw [paired_dependencies hd]
      decide +kernel

theorem creating_fits :
    Token.Fits {} creating.token.join [] creating.envFile paired.disk where
  given t ht := by cases ht
  file _ := by
    have hread : Access.read {} paired.disk defaultEnvFile =
        .ok "export APTOS_API_TOKEN='secret'\n".toUTF8 := by rfl
    refine ⟨defaultEnvFile, rfl, fun bytes hbytes => ?_, fun t ht => ?_⟩
    · obtain rfl := Except.ok.inj (hread.symm.trans hbytes)
      exact ⟨_, Text.Utf8.decode_toUTF8 _⟩
    · have hfound : (Token.ofFile {} paired.disk defaultEnvFile).toOption =
          some (some ("secret" : Text)) := by
        decide +kernel
      rw [ht] at hfound
      cases hfound
      decide +kernel

theorem creating_shown : creating.Shown {} paired where
  announced := by decide +kernel
  listed := nofun

theorem creating_orderly : creating.Orderly {} paired where
  address := nofun
  package := nofun
  token := creating_fits
  node c hc := by
    obtain ⟨base, token⟩ := c
    obtain rfl : base = client.base := base_of_isClient hc
    exact ⟨creating_mild.answers, creating_mild.root, creating_mild.targets⟩
  spelled _ c hc := by
    obtain ⟨base, token⟩ := c
    obtain rfl : base = client.base := base_of_isClient hc
    have h := creating_spelled
    exact ⟨h.folder, h.sources, h.folders, h.manifests, h.modules⟩
  shown := creating_shown

/-- The arguments for one package at the address of the samples. -/
def creatingArgs : List Text := ["create", "0xa", "P", "out", "-r", "https://test.rpc"]

/-- A file with an octet that no text has. -/
def illegible : World where
  node := []
  disk := { root := Tree.empty.put ["w", ".env"] (.file ⟨#[0xff]⟩), here := ["w"] }

end Sample

/-- For a package that is written with what it needs. -/
theorem perform_reports_creating :
    let s := Sample.creating
    let w := Sample.paired
    let args := Sample.creatingArgs
    let u : Surroundings := {}
    Invocation.ofArgs u.address args = .run s ∧ s.Orderly u w ∧
    ((∃ w', Returns (s.run u) w () w' ∧ perform args u w = (.exit 0 "", w')) ∨
    ∃ e w', Fails (s.run u) w e w' ∧ e.isExpected = true ∧
      (∀ lines, u.screen.lines (notice e) = .ok lines →
        perform args u w = (.exit 1 "", w'.print lines)) ∧
      ∀ fault, u.screen.lines (notice e) = .error fault →
        perform args u w = (.escaped (.unprintable fault), w')) := by
  intro s w args u
  have hs : Invocation.ofArgs u.address args = .run s := by decide +kernel
  exact ⟨hs, Sample.creating_orderly, perform_reports hs Sample.creating_orderly⟩

/-- A file for the token that is no text ends a command without a report, and so does an account
that looks like a closing tag. -/
theorem illegible_file_escapes :
    let args : List Text := ["deps", "0xa", "P"]
    let tagged : List Text := ["create", "[/x]", "P"]
    (∃ s, Invocation.ofArgs publicAddress args = .run s) ∧
      (∃ fault, (perform args {} Sample.illegible).1 = .escaped (.undecodable fault)) ∧
      (∃ s, Invocation.ofArgs publicAddress tagged = .run s) ∧
      (perform tagged {} Sample.illegible).1 = .escaped (.unprintable (.unopened "[/x]" 15)) := by
  intro args tagged
  let listing : Settings :=
    { command := .deps, account := some "0xa", package := some "P", rpc := some publicAddress }
  let creating : Settings :=
    { command := .create, account := some "[/x]", package := some "P", rpc := some publicAddress }
  refine ⟨⟨listing, by decide +kernel⟩, ⟨⟨.utf8, 0, 0xff, 1, .badStart⟩, by decide +kernel⟩,
    ⟨creating, by decide +kernel⟩, by decide +kernel⟩

end CommandLine

end MoveSkeleton
