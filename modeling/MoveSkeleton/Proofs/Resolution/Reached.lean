import MoveSkeleton.Proofs.Resolution.Reachability
import MoveSkeleton.Proofs.Returns

/-! What a resolution from nothing recorded returns at a steady node: all that the root reaches. -/
namespace MoveSkeleton.Resolution

variable {c : Client} {root : PackageId} {w v v' : World} {answers : Answers}
  {dependencies : DependencySet} {p : PackageId}

/-- The package is the root, or declared edges off the framework lead from the root to it. -/
def Reached (answers : Answers) (root p : PackageId) : Prop :=
  Relation.ReflTransGen (Leads answers) root p

theorem reached_iff : p ≠ root ∧ Reached answers root p ↔
    Relation.TransGen (LeadsOn answers root []) root p := by
  constructor
  · rintro ⟨hp, h⟩
    have hall : p = root ∨ Relation.TransGen (LeadsOn answers root []) root p := by
      clear hp
      induction h with
      | refl => exact .inl rfl
      | @tail q p _ hstep ih =>
        by_cases hp : p = root
        · exact .inl hp
        · have hon : LeadsOn answers root [] q p := ⟨hstep, hp, by simp [Entries.keys]⟩
          rcases ih with rfl | ih
          · exact .inr (.single hon)
          · exact .inr (ih.tail hon)
    exact hall.resolve_left hp
  · intro h
    obtain ⟨q, -, hlast⟩ := Relation.TransGen.tail'_iff.mp h
    exact ⟨hlast.2.1, reflTransGen_leads h.to_reflTransGen⟩

theorem returns_resolve : Returns (resolve c root) v dependencies v' ↔
    (resolveFrom c root [] v).failure = none ∧
      dependencies = (resolveFrom c root [] v).recorded ∧
        v' = (resolveFrom c root [] v).world := by
  unfold Returns resolve
  simp only [ExceptT.run_mk, StateT.run]
  constructor
  · intro h
    cases hf : (resolveFrom c root [] v).failure with
    | none =>
      rw [hf] at h
      cases h
      exact ⟨rfl, rfl, rfl⟩
    | some e =>
      rw [hf] at h
      cases h
  · rintro ⟨hf, rfl, rfl⟩
    rw [hf]

/-- What resolution returns names each package that is reached once, and changes no disk. -/
theorem reached_of_resolve (hv : w.node.Alike v.node)
    (h : Returns (resolve c root) v dependencies v') :
    w.node.Alike v'.node ∧ v'.disk = v.disk ∧ (Entries.keys dependencies).Nodup ∧
      (∀ e ∈ dependencies, e.2.target = e.1) ∧
      ∀ p, p ∈ Entries.keys dependencies ↔ p ≠ root ∧ Reached (answersAt c w) root p := by
  obtain ⟨hf, rfl, rfl⟩ := returns_resolve.mp h
  obtain ⟨hrun, hp⟩ := Walk.run_finish (Walk.start c root [] v)
  have hc : Consults c root [] v (answersAt c w) :=
    answersAt_of_alike hv ▸ .of_steady hv.steady
  obtain ⟨new, hx⟩ := explored_of_unfailed hc hrun hf
  have hall : (resolveFrom c root [] v).recorded = new := hx.kept
  refine ⟨resolveFrom_alike hv, resolveFrom_disk .., hall ▸ hx.nodup, hall ▸ hx.target, ?_⟩
  intro p
  rw [hall, hx.mem_keys_iff hp, reached_iff]

/-- Resolution returns if a record is found for all that is reached. -/
theorem resolve_returns (hv : w.node.Alike v.node)
    (hrecord : ∀ p, Reached (answersAt c w) root p →
      ∃ record, recordOf (answersAt c w) p = .ok record) :
    ∃ dependencies v', Returns (resolve c root) v dependencies v' := by
  have hc : Consults c root [] v (answersAt c w) :=
    answersAt_of_alike hv ▸ .of_steady hv.steady
  have hs : FailsSoftly root [] (answersAt c w) := by
    intro p hp e he
    obtain ⟨record, hr⟩ := hrecord p (reflTransGen_leads hp)
    obtain ⟨rs, hrs, -⟩ := recordOf_eq_ok_iff.mp hr
    cases hrs.symm.trans he
  exact ⟨_, _, returns_resolve.mpr
    ⟨unfailed_of_softly hc hs (Walk.run_finish _).1, rfl, rfl⟩⟩

end MoveSkeleton.Resolution
