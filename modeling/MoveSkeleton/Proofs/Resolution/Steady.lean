import MoveSkeleton.Proofs.Node.Steady
import MoveSkeleton.Proofs.Resolution.Step

/-! Resolution at a steady node, where one reading tells what every other will. -/
namespace MoveSkeleton.Resolution

/-- What each account answers when it is asked for its resources. -/
abbrev Answers := Text → Except Failure (List Resource)

/-- What each account answers at the node of a world. -/
def answersAt (c : Client) (w : World) : Answers :=
  fun account => (c.readResources account w).1

variable {c : Client} {root : PackageId} {recorded : DependencySet} {w : World} {n : Node}
  {s t : Walk}

theorem answersAt_of_alike {w' : World} (h : w.node.Alike w'.node) :
    answersAt c w' = answersAt c w :=
  funext fun _ => Client.readResources_fst_of_alike h

theorem readDependencies_alike {p : PackageId} (h : n.Alike w.node) :
    n.Alike (readDependencies c p w).2.node := by
  rw [readDependencies_eq, Client.readResources_snd]
  dsimp only
  exact Client.request_alike h

theorem readDependencies_disk (c : Client) (p : PackageId) (w : World) :
    (readDependencies c p w).2.disk = w.disk := by
  rw [readDependencies_eq, Client.readResources_snd]
  dsimp only
  exact Client.request_disk ..

theorem Walk.world_start (c : Client) (root : PackageId) (recorded : DependencySet) (w : World) :
    (Walk.start c root recorded w).world = (readDependencies c root w).2 := by
  unfold Walk.start Walk.enter
  dsimp only
  cases readDependencies c root w with
  | mk r w' => cases r <;> rfl

/-- A step leaves the world as it is, or as reading a package leaves it. -/
theorem Walk.Step.world (hst : Walk.Step c root s t) :
    t.world = s.world ∨
      ∃ p, t.world = (readDependencies c p (noteDiscovered p s.world)).2 := by
  cases hst with
  | leave | pass => exact .inl rfl
  | follow _ hr | fail _ hr => exact .inr ⟨_, (congrArg Prod.snd hr).symm⟩

/-- No step of a walk changes what the node answers, nor the disk. -/
theorem Walk.Step.keeps (hst : Walk.Step c root s t) :
    (n.Alike s.world.node → n.Alike t.world.node) ∧ t.world.disk = s.world.disk := by
  rcases hst.world with hw | ⟨p, hw⟩
  · rw [hw]
    exact ⟨id, rfl⟩
  · rw [hw, readDependencies_disk]
    exact ⟨fun h => readDependencies_alike (by exact h), rfl⟩

theorem Walk.alike_start (h : n.Alike w.node) :
    n.Alike (Walk.start c root recorded w).world.node := by
  rw [world_start]
  exact readDependencies_alike h

theorem Walk.alike_of_run (h : Relation.ReflTransGen (Walk.Step c root) s t)
    (hs : n.Alike s.world.node) : n.Alike t.world.node := by
  induction h with
  | refl => exact hs
  | tail _ hst ih => exact hst.keeps.1 ih

theorem Walk.disk_of_run (h : Relation.ReflTransGen (Walk.Step c root) s t) :
    t.world.disk = s.world.disk := by
  induction h with
  | refl => rfl
  | tail _ hst ih => exact (hst.keeps (n := [])).2.trans ih

theorem resolveFrom_alike (h : n.Alike w.node) :
    n.Alike (resolveFrom c root recorded w).world.node :=
  Walk.alike_of_run (Walk.run_finish _).1 (Walk.alike_start h)

theorem resolveFrom_disk (c : Client) (root : PackageId) (recorded : DependencySet) (w : World) :
    (resolveFrom c root recorded w).world.disk = w.disk := by
  rw [resolveFrom, Walk.disk_of_run (Walk.run_finish _).1, Walk.world_start, readDependencies_disk]

end MoveSkeleton.Resolution
