import MoveSkeleton.Proofs.Resolution.Steady

/-! What a walk records: exactly the packages that declared edges lead to. -/
namespace MoveSkeleton.Resolution

/-- The record of a package, which its account must list. -/
def recordOf (answers : Answers) (p : PackageId) : Except Failure Package :=
  (answers p.account).bind (Resource.requirePackage p)

/-- The dependencies that a package declares. One without a record declares none. -/
def edges (answers : Answers) (p : PackageId) : List Dependency :=
  match recordOf answers p with
  | .ok record => record.dependencies
  | .error _ => []

/-- A declared edge off the framework. -/
def Leads (answers : Answers) (p q : PackageId) : Prop :=
  isFramework q.account = false ∧ ∃ d ∈ edges answers p, d.target = q

/-- A declared edge off the framework to a package that is neither the root nor recorded before. -/
def LeadsOn (answers : Answers) (root : PackageId) (recorded : DependencySet)
    (p q : PackageId) : Prop :=
  Leads answers p q ∧ q ≠ root ∧ q ∉ Entries.keys recorded

/-- Every answer that a resolution reads is the one that its account always gives. -/
structure Consults (c : Client) (root : PackageId) (recorded : DependencySet) (w : World)
    (answers : Answers) : Prop where
  first : (c.readResources root.account w).1 = answers root.account
  later : ∀ s, Relation.ReflTransGen (Walk.Step c root) (Walk.start c root recorded w) s →
    ∀ d, s.following? root = some d → (c.readResources d.account s.world).1 = answers d.account

/-- All edges that a resolution reads are those that the answers declare. -/
structure Heeds (c : Client) (root : PackageId) (recorded : DependencySet) (w : World)
    (answers : Answers) : Prop where
  first : (readDependencies c root w).1 = (declared root (answers root.account)).1
  later : ∀ s, Relation.ReflTransGen (Walk.Step c root) (Walk.start c root recorded w) s →
    ∀ d, s.following? root = some d →
      (readDependencies c d.target (noteDiscovered d.target s.world)).1 =
        (declared d.target (answers d.account)).1

/-- The packages that are read answer, or fail in a way that resolution passes over. -/
def FailsSoftly (root : PackageId) (recorded : DependencySet) (answers : Answers) : Prop :=
  ∀ p, Relation.ReflTransGen (LeadsOn answers root recorded) root p →
    ∀ e, answers p.account = .error e → e.isOfNode = true

theorem recordOf_eq_ok_iff {answers : Answers} {p : PackageId} {record : Package} :
    recordOf answers p = .ok record ↔
      ∃ rs, answers p.account = .ok rs ∧ Resource.requirePackage p rs = .ok record := by
  unfold recordOf
  cases answers p.account <;> simp [Except.bind]

theorem edges_of_record {answers : Answers} {p : PackageId} {record : Package}
    (h : recordOf answers p = .ok record) : edges answers p = record.dependencies := by
  simp only [edges, h]

/-- Resolution passes over a package that has no record, unless reading it ends the resolution. -/
theorem declared_fst (p : PackageId) (rs : Except Failure (List Resource)) :
    (declared p rs).1 = match rs.bind (Resource.requirePackage p) with
      | .ok record => .ok record.dependencies
      | .error e => if e.isOfNode then .ok [] else .error e := by
  cases rs with
  | error e => cases he : e.isOfNode <;> simp [declared, Except.bind, he]
  | ok rs =>
    simp only [declared, Except.bind, Resource.requirePackage]
    cases hg : Resource.registryOf rs with
    | none => rfl
    | some g => cases hp : g.find? p.name <;> simp [hp, Failure.isOfNode]

/-- Unless reading a package ends the resolution it yields the declared edges. -/
theorem declared_eq_edges {answers : Answers} {p : PackageId} {own : List Dependency}
    (h : (declared p (answers p.account)).1 = .ok own) : own = edges answers p := by
  rw [declared_fst] at h
  unfold edges recordOf
  cases hr : (answers p.account).bind (Resource.requirePackage p) with
  | ok record => simpa [hr, eq_comm] using h
  | error e => cases he : e.isOfNode <;> simp_all

theorem declared_of_softly {answers : Answers} {p : PackageId}
    (hs : ∀ e, answers p.account = .error e → e.isOfNode = true) :
    ∃ own, (declared p (answers p.account)).1 = .ok own := by
  cases hr : answers p.account with
  | error e => exact ⟨[], by simp [declared, hs e hr]⟩
  | ok rs =>
    simp only [declared]
    cases Resource.registryOf rs with
    | none => exact ⟨[], rfl⟩
    | some g => cases hp : g.find? p.name <;> simp [hp]

theorem mem_keys_append {es more : DependencySet} {p : PackageId} :
    p ∈ Entries.keys (es ++ more) ↔ p ∈ Entries.keys es ∨ p ∈ Entries.keys more := by
  simp [Entries.keys]

theorem mem_keys_record {es : DependencySet} {d : Dependency} {p : PackageId} :
    p ∈ Entries.keys (es ++ [(d.target, d)]) ↔ p ∈ Entries.keys es ∨ p = d.target := by
  simp [Entries.keys]

variable {c : Client} {root : PackageId} {recorded new : DependencySet} {w w' : World}
  {answers : Answers} {s t : Walk} {d : Dependency} {rest : List Dependency}
  {outer : List (List Dependency)} {f : Option Failure}

theorem skips_append {more : DependencySet} (h : skips root recorded d = true) :
    skips root (recorded ++ more) d = true := by
  rw [skips_iff] at h ⊢
  exact h.imp_right (Or.imp_right fun hm => mem_keys_append.mpr (.inl hm))

/-- What is recorded next is new. -/
theorem nodup_keys_record (hn : (Entries.keys new).Nodup)
    (hd : skips root (recorded ++ new) d = false) :
    (Entries.keys (new ++ [(d.target, d)])).Nodup := by
  have hnew : d.target ∉ Entries.keys new :=
    fun hm => (not_skips_iff.mp hd).2.2 (mem_keys_append.mpr (.inr hm))
  simp only [Entries.keys, List.map_append, List.map_cons, List.map_nil]
  exact List.nodup_append.mpr ⟨hn, by simp, by
    rintro a ha b hb rfl
    exact hnew (List.mem_singleton.mp hb ▸ ha)⟩

theorem LeadsOn.of_mem {p : PackageId} (hd : d ∈ edges answers p)
    (h : skips root (recorded ++ new) d = false) : LeadsOn answers root recorded p d.target := by
  obtain ⟨hf, hr, hk⟩ := not_skips_iff.mp h
  exact ⟨⟨hf, d, hd, rfl⟩, hr, fun hm => hk (mem_keys_append.mpr (.inl hm))⟩

/-- At a steady node every answer that is read is the fixed one of its account. -/
theorem Consults.of_steady (h : w.node.Steady) :
    Consults c root recorded w (answersAt c w) where
  first := rfl
  later _ hrun _ _ := Client.readResources_fst_of_alike
    (Walk.alike_of_run hrun (Walk.alike_start h.alike))

theorem Consults.heeds (h : Consults c root recorded w answers) :
    Heeds c root recorded w answers where
  first := by rw [readDependencies_fst, h.first]
  later s hs d hd := by
    rw [readDependencies_fst, readResources_noteDiscovered]
    exact congrArg (fun rs => (declared d.target rs).1) (h.later s hs d hd)

/-- A list of packages that the edges off the framework do not leave holds all that is reached. -/
theorem mem_of_reflTransGen_leads {l : List PackageId} {p : PackageId} (hroot : root ∈ l)
    (hl : ∀ q ∈ l, ∀ d ∈ edges answers q, isFramework d.account = false → d.target ∈ l)
    (h : Relation.ReflTransGen (Leads answers) root p) : p ∈ l := by
  induction h with
  | refl => exact hroot
  | tail _ hq ih =>
    obtain ⟨hf, d, hd, rfl⟩ := hq
    exact hl _ ih d hd hf

theorem reflTransGen_leads {p : PackageId}
    (h : Relation.ReflTransGen (LeadsOn answers root recorded) root p) :
    Relation.ReflTransGen (Leads answers) root p :=
  Relation.ReflTransGen.mono (fun _ _ h => h.1) _ _ h

/-- A walk part way through: what it has newly recorded was reached, and every edge of a package
that it has read is either still to be followed or leads nowhere new. -/
structure Explored (answers : Answers) (root : PackageId) (recorded : DependencySet) (s : Walk)
    (new : DependencySet) : Prop where
  kept : s.recorded = recorded ++ new
  nodup : (Entries.keys new).Nodup
  target : ∀ e ∈ new, e.2.target = e.1
  reached : ∀ p ∈ Entries.keys new, Relation.TransGen (LeadsOn answers root recorded) root p
  pending : ∀ l ∈ s.pending, ∀ d ∈ l, ∃ p,
    Relation.ReflTransGen (LeadsOn answers root recorded) root p ∧ d ∈ edges answers p
  read : ∀ p, p = root ∨ p ∈ Entries.keys new →
    ∃ own, (declared p (answers p.account)).1 = .ok own
  closed : ∀ p, p = root ∨ p ∈ Entries.keys new → ∀ d ∈ edges answers p,
    (∃ l ∈ s.pending, d ∈ l) ∨ skips root s.recorded d = true
  unfailed : s.failure = none

theorem Explored.start (hc : Heeds c root recorded w answers)
    (hf : (Walk.start c root recorded w).failure = none) :
    Explored answers root recorded (Walk.start c root recorded w) [] := by
  unfold Walk.start Walk.enter at hf ⊢
  split at hf
  · next own w' hr =>
    have hread : (declared root (answers root.account)).1 = .ok own := by rw [← hc.first, hr]
    obtain rfl : own = edges answers root := declared_eq_edges hread
    refine ⟨by simp, by simp [Entries.keys], by simp, by simp [Entries.keys], ?_, ?_, ?_, rfl⟩
    · intro l hl d hd
      rw [List.mem_singleton] at hl
      exact ⟨root, .refl, hl ▸ hd⟩
    · rintro p (rfl | hp)
      · exact ⟨_, hread⟩
      · simp [Entries.keys] at hp
    · rintro p (rfl | hp) d hd
      · exact .inl ⟨_, List.mem_singleton.mpr rfl, hd⟩
      · simp [Entries.keys] at hp
  · cases hf

private theorem Explored.leave {all : DependencySet}
    (hx : Explored answers root recorded ⟨[] :: outer, all, w, f⟩ new) :
    Explored answers root recorded ⟨outer, all, w, f⟩ new where
  kept := hx.kept
  nodup := hx.nodup
  target := hx.target
  reached := hx.reached
  read := hx.read
  unfailed := hx.unfailed
  pending l hl := hx.pending l (List.mem_cons_of_mem _ hl)
  closed p hp d hd := by simpa using hx.closed p hp d hd

private theorem Explored.pass {all : DependencySet} (hd : skips root all d = true)
    (hx : Explored answers root recorded ⟨(d :: rest) :: outer, all, w, f⟩ new) :
    Explored answers root recorded ⟨rest :: outer, all, w, f⟩ new where
  kept := hx.kept
  nodup := hx.nodup
  target := hx.target
  reached := hx.reached
  read := hx.read
  unfailed := hx.unfailed
  pending l hl x hxl := by
    rcases List.mem_cons.mp hl with rfl | hl
    · exact hx.pending _ List.mem_cons_self x (List.mem_cons_of_mem _ hxl)
    · exact hx.pending l (List.mem_cons_of_mem _ hl) x hxl
  closed p hp x hxe := by
    rcases hx.closed p hp x hxe with ⟨l, hl, hxl⟩ | hskip
    · rcases List.mem_cons.mp hl with rfl | hl
      · rcases List.mem_cons.mp hxl with rfl | hxl
        · exact .inr hd
        · exact .inl ⟨rest, List.mem_cons_self, hxl⟩
      · exact .inl ⟨l, List.mem_cons_of_mem _ hl, hxl⟩
    · exact .inr hskip

/-- The target of the next edge that is followed is reached from the root. -/
theorem Explored.reaches_next
    (hx : Explored answers root recorded ⟨(d :: rest) :: outer, recorded ++ new, w, f⟩ new)
    (hd : skips root (recorded ++ new) d = false) :
    Relation.TransGen (LeadsOn answers root recorded) root d.target := by
  obtain ⟨p, hp, hdp⟩ := hx.pending _ List.mem_cons_self d List.mem_cons_self
  exact .tail' hp (.of_mem hdp hd)

private theorem Explored.follow (hd : skips root (recorded ++ new) d = false)
    (hread : (declared d.target (answers d.account)).1 = .ok (edges answers d.target))
    (hx : Explored answers root recorded ⟨(d :: rest) :: outer, recorded ++ new, w, f⟩ new) :
    Explored answers root recorded ⟨edges answers d.target :: rest :: outer,
      recorded ++ new ++ [(d.target, d)], w', f⟩ (new ++ [(d.target, d)]) where
  kept := List.append_assoc ..
  nodup := nodup_keys_record hx.nodup hd
  target e he := by
    rcases List.mem_append.mp he with he | he
    · exact hx.target e he
    · rw [List.mem_singleton.mp he]
  reached p hp := by
    rcases mem_keys_record.mp hp with hp | rfl
    · exact hx.reached p hp
    · exact hx.reaches_next hd
  pending l hl x hxl := by
    rcases List.mem_cons.mp hl with rfl | hl
    · exact ⟨d.target, (hx.reaches_next hd).to_reflTransGen, hxl⟩
    · rcases List.mem_cons.mp hl with rfl | hl
      · exact hx.pending _ List.mem_cons_self x (List.mem_cons_of_mem _ hxl)
      · exact hx.pending l (List.mem_cons_of_mem _ hl) x hxl
  read p hp := by
    rw [mem_keys_record, ← or_assoc] at hp
    rcases hp with hp | rfl
    · exact hx.read p hp
    · exact ⟨_, hread⟩
  closed p hp x hxe := by
    rw [mem_keys_record, ← or_assoc] at hp
    rcases hp with hp | rfl
    · rcases hx.closed p hp x hxe with ⟨l, hl, hxl⟩ | hskip
      · rcases List.mem_cons.mp hl with rfl | hl
        · rcases List.mem_cons.mp hxl with rfl | hxl
          · exact .inr (skips_iff.mpr (.inr (.inr (mem_keys_record.mpr (.inr rfl)))))
          · exact .inl ⟨rest, by simp, hxl⟩
        · exact .inl ⟨l, by simp [hl], hxl⟩
      · exact .inr (skips_append hskip)
    · exact .inl ⟨_, List.mem_cons_self, hxe⟩
  unfailed := hx.unfailed

/-- One step keeps a walk explored if it reads what the answers declare, unless the walk fails. -/
theorem Explored.step (hx : Explored answers root recorded s new) (hst : Walk.Step c root s t)
    (hread : ∀ d, s.following? root = some d →
      (readDependencies c d.target (noteDiscovered d.target s.world)).1 =
        (declared d.target (answers d.account)).1)
    (ht : t.failure = none) : ∃ new', Explored answers root recorded t new' := by
  cases hst with
  | leave => exact ⟨new, hx.leave⟩
  | pass hd => exact ⟨new, hx.pass hd⟩
  | @follow d rest outer r w f own w' hd hr =>
    obtain rfl : r = recorded ++ new := hx.kept
    have hown : (declared d.target (answers d.account)).1 = .ok own := by
      rw [← hread d (by simp [Walk.following?, hd]), hr]
    obtain rfl : own = edges answers d.target := declared_eq_edges hown
    exact ⟨_, hx.follow hd hown⟩
  | fail => cases ht

/-- A walk that reads only accounts that fail softly does not fail. -/
theorem Explored.unfailed_step (hx : Explored answers root recorded s new)
    (hs : FailsSoftly root recorded answers) (hst : Walk.Step c root s t)
    (hread : ∀ d, s.following? root = some d →
      (readDependencies c d.target (noteDiscovered d.target s.world)).1 =
        (declared d.target (answers d.account)).1) : t.failure = none := by
  cases hst with
  | leave | pass | follow => exact hx.unfailed
  | @fail d rest outer r w f e w' hd hr =>
    obtain rfl : r = recorded ++ new := hx.kept
    obtain ⟨own, hown⟩ := declared_of_softly (hs _ (hx.reaches_next hd).to_reflTransGen)
    have hread' := hread d (by simp [Walk.following?, hd])
    rw [hr] at hread'
    cases hread'.trans hown

private theorem unfailed_of_step (hst : Walk.Step c root s t) (ht : t.failure = none) :
    s.failure = none := by
  cases hst with
  | leave | pass | follow => exact ht
  | fail => cases ht

/-- As long as it has not failed, a resolution is explored. -/
theorem explored_of_heeds (hc : Heeds c root recorded w answers)
    (hrun : Relation.ReflTransGen (Walk.Step c root) (Walk.start c root recorded w) s)
    (hf : s.failure = none) : ∃ new, Explored answers root recorded s new := by
  induction hrun with
  | refl => exact ⟨[], .start hc hf⟩
  | tail h hst ih =>
    obtain ⟨new, hx⟩ := ih (unfailed_of_step hst hf)
    exact hx.step hst (hc.later _ h) hf

theorem unfailed_of_heeds (hc : Heeds c root recorded w answers)
    (hs : FailsSoftly root recorded answers)
    (hrun : Relation.ReflTransGen (Walk.Step c root) (Walk.start c root recorded w) s) :
    s.failure = none := by
  induction hrun with
  | refl =>
    obtain ⟨own, hown⟩ := declared_of_softly (hs root .refl)
    rw [← hc.first] at hown
    unfold Walk.start Walk.enter
    split
    · rfl
    · next e w' hr => cases hown.symm.trans (congrArg Prod.fst hr)
  | tail h hst ih =>
    obtain ⟨new, hx⟩ := explored_of_heeds hc h ih
    exact hx.unfailed_step hs hst (hc.later _ h)

theorem explored_of_unfailed (hc : Consults c root recorded w answers)
    (hrun : Relation.ReflTransGen (Walk.Step c root) (Walk.start c root recorded w) s)
    (hf : s.failure = none) : ∃ new, Explored answers root recorded s new :=
  explored_of_heeds hc.heeds hrun hf

theorem unfailed_of_softly (hc : Consults c root recorded w answers)
    (hs : FailsSoftly root recorded answers)
    (hrun : Relation.ReflTransGen (Walk.Step c root) (Walk.start c root recorded w) s) :
    s.failure = none :=
  unfailed_of_heeds hc.heeds hs hrun

/-- With nothing pending, all that can be reached has been recorded. -/
theorem Explored.mem_keys_iff (hx : Explored answers root recorded s new) (hp : s.pending = [])
    {p : PackageId} :
    p ∈ Entries.keys new ↔ Relation.TransGen (LeadsOn answers root recorded) root p := by
  have hclosed : ∀ q, q = root ∨ q ∈ Entries.keys new →
      ∀ p, LeadsOn answers root recorded q p → p ∈ Entries.keys new := by
    rintro q hq p ⟨⟨hf, d, hd, rfl⟩, hr, hk⟩
    rcases hx.closed q hq d hd with ⟨l, hl, -⟩ | hskip
    · simp [hp] at hl
    · rw [hx.kept, skips_iff, mem_keys_append] at hskip
      rcases hskip with h | h | h | h
      · rw [show isFramework d.account = false from hf] at h
        cases h
      · exact absurd h hr
      · exact absurd h hk
      · exact h
  refine ⟨hx.reached p, fun h => ?_⟩
  induction h with
  | single h => exact hclosed root (.inl rfl) _ h
  | tail _ h ih => exact hclosed _ (.inr ih) _ h

/-- A walk that came to its end without failing met nothing but accounts that fail softly. -/
theorem Explored.failsSoftly (hx : Explored answers root recorded s new) (hp : s.pending = []) :
    FailsSoftly root recorded answers := by
  intro p hreach e he
  have hmem : p = root ∨ p ∈ Entries.keys new :=
    (Relation.reflTransGen_iff_eq_or_transGen.mp hreach).imp_right (hx.mem_keys_iff hp).mpr
  obtain ⟨own, hown⟩ := hx.read p hmem
  rw [he] at hown
  by_contra hn
  simp [declared, hn] at hown

/-- Resolution returns, and records after what was recorded before exactly the packages that a path
of declared edges leads to which keeps off the framework, the root and what was recorded before.
Each is recorded once, with an edge that names it. -/
theorem resolveFrom_records_reached (hc : Consults c root recorded w answers)
    (hs : FailsSoftly root recorded answers) :
    (resolveFrom c root recorded w).failure = none ∧
    ∃ new, (resolveFrom c root recorded w).recorded = recorded ++ new ∧
      (Entries.keys new).Nodup ∧
      (∀ p, p ∈ Entries.keys new ↔
        Relation.TransGen (LeadsOn answers root recorded) root p) ∧
      (∀ e ∈ new, e.2.account = e.1.account ∧ e.2.name = e.1.name) ∧
      ∀ p ∈ Entries.keys new, p ≠ root ∧ isFramework p.account = false := by
  obtain ⟨hrun, hp⟩ := Walk.run_finish (Walk.start c root recorded w)
  obtain ⟨new, hx⟩ := explored_of_unfailed hc hrun (unfailed_of_softly hc hs hrun)
  refine ⟨hx.unfailed, new, hx.kept, hx.nodup, fun p => hx.mem_keys_iff hp, ?_, ?_⟩
  · intro e he
    rw [← hx.target e he]
    exact ⟨rfl, rfl⟩
  · intro p hm
    obtain ⟨q, -, h⟩ := Relation.TransGen.tail'_iff.mp (hx.reached p hm)
    exact ⟨h.2.1, h.1.1⟩

namespace Sample

open MoveSkeleton.Sample

theorem eq_ok {ε α : Type} {r : Except ε α} {a : α} (h : r.toOption = some a) : r = .ok a := by
  cases r with
  | error e => cases h
  | ok a => rw [Option.some.inj h]

theorem eq_error {ε α : Type} {r : Except ε α} {e : ε}
    (h : (match r with | .error e => some e | .ok _ => none) = some e) : r = .error e := by
  cases r with
  | error e => rw [Option.some.inj h]
  | ok a => cases h

theorem record_p : recordOf (answersAt client world) ⟨"0xa", "P"⟩ =
    .ok { name := "P", dependencies := [⟨"0xb", "Q"⟩, ⟨"0x1", "AptosStdlib"⟩],
          modules := ["p"] } :=
  eq_ok (by decide +kernel)

theorem record_q : recordOf (answersAt client world) ⟨"0xb", "Q"⟩ =
    .ok { name := "Q", dependencies := [⟨"0xc", "R"⟩, ⟨"0xa", "P"⟩], modules := ["q"] } :=
  eq_ok (by decide +kernel)

theorem record_r : recordOf (answersAt client world) ⟨"0xc", "R"⟩ =
    .ok { name := "R", dependencies := [], modules := [] } :=
  eq_ok (by decide +kernel)

/-- All that the edges off the framework lead to from the first package. -/
theorem mem_of_reached {p : PackageId}
    (h : Relation.ReflTransGen (Leads (answersAt client world)) ⟨"0xa", "P"⟩ p) :
    p ∈ [(⟨"0xa", "P"⟩ : PackageId), ⟨"0xb", "Q"⟩, ⟨"0xc", "R"⟩] := by
  refine mem_of_reflTransGen_leads (by decide) (fun q hq d hd hf => ?_) h
  simp only [List.mem_cons, List.not_mem_nil, or_false] at hq
  rcases hq with rfl | rfl | rfl
  · rw [edges_of_record record_p] at hd
    simp only [List.mem_cons, List.not_mem_nil, or_false] at hd
    rcases hd with rfl | rfl
    · decide
    · exact absurd hf (by decide)
  · rw [edges_of_record record_q] at hd
    simp only [List.mem_cons, List.not_mem_nil, or_false] at hd
    rcases hd with rfl | rfl <;> decide
  · rw [edges_of_record record_r] at hd
    cases hd

theorem record_of_reached {p : PackageId}
    (h : Relation.ReflTransGen (Leads (answersAt client world)) ⟨"0xa", "P"⟩ p) :
    ∃ record, recordOf (answersAt client world) p = .ok record := by
  have hp := mem_of_reached h
  simp only [List.mem_cons, List.not_mem_nil, or_false] at hp
  rcases hp with rfl | rfl | rfl
  exacts [⟨_, record_p⟩, ⟨_, record_q⟩, ⟨_, record_r⟩]

end Sample

/-- In a cycle beside the framework, with one more package recorded before. -/
theorem resolveFrom_records_reached_in_cycle :
    let c := Sample.client
    let w := Sample.world
    let root : PackageId := ⟨"0xa", "P"⟩
    let recorded : DependencySet := [(⟨"0xd", "S"⟩, ⟨"0xd", "S"⟩)]
    Consults c root recorded w (answersAt c w) ∧ FailsSoftly root recorded (answersAt c w) ∧
    (resolveFrom c root recorded w).failure = none ∧
    ∃ new, (resolveFrom c root recorded w).recorded = recorded ++ new ∧
      (Entries.keys new).Nodup ∧
      (∀ p, p ∈ Entries.keys new ↔
        Relation.TransGen (LeadsOn (answersAt c w) root recorded) root p) ∧
      (∀ e ∈ new, e.2.account = e.1.account ∧ e.2.name = e.1.name) ∧
      ∀ p ∈ Entries.keys new, p ≠ root ∧ isFramework p.account = false := by
  intro c w root recorded
  have hc : Consults c root recorded w (answersAt c w) := .of_steady Sample.node_steady
  have hs : FailsSoftly root recorded (answersAt c w) := by
    intro p hp e he
    obtain ⟨record, hr⟩ := Sample.record_of_reached (reflTransGen_leads hp)
    obtain ⟨rs, hrs, -⟩ := recordOf_eq_ok_iff.mp hr
    cases hrs.symm.trans he
  exact ⟨hc, hs, resolveFrom_records_reached hc hs⟩

end MoveSkeleton.Resolution
