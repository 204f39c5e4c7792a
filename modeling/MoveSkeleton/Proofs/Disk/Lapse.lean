import MoveSkeleton.Proofs.Disk.Path
import MoveSkeleton.Proofs.Ending

/-! A disk that can hold a path refuses what is done there with a lapse of its own, if at all. -/
namespace MoveSkeleton

/-- A lapse of the disk itself, not of a path that no disk can hold. -/
def DiskFault.IsLapse : DiskFault → Prop
  | .at _ _ | .notEmptiable _ => True
  | .unencodable _ | .zeroCharacter => False

theorem Failure.isExpected_of_isLapse {fault : DiskFault} (h : fault.IsLapse) :
    (Failure.disk fault).isExpected = true := by
  cases fault with
  | «at» | notEmptiable => rfl
  | unencodable | zeroCharacter => exact h.elim

namespace Disk

variable {d : Disk} {p : Path} {fault : DiskFault} {content : ByteArray}

/-- An action that fails with a lapse of the disk, if at all. -/
abbrev Lapses {α : Type} (a : Action α) : Prop :=
  Ends (fun _ => True) a (fun _ _ => True) DiskFault.IsLapse

theorem isLapse_of_exists? (h : d.exists? p = .error fault) : fault.IsLapse := by
  unfold exists? at h
  split at h
  · cases h
  · split at h <;> cases h
    trivial

theorem isLapse_of_isFolder? (h : d.isFolder? p = .error fault) : fault.IsLapse := by
  unfold isFolder? at h
  split at h
  · cases h
  · split at h <;> cases h
    trivial

theorem isLapse_of_readFile (hp : DiskFault.ofPath? p = none) (h : d.readFile p = .error fault) :
    fault.IsLapse := by
  unfold readFile at h
  rw [hp] at h
  dsimp only at h
  split at h
  · cases h
    trivial
  · split at h <;> cases h <;> trivial

theorem lapses_checkPath (h : DiskFault.ofPath? p = none) : Lapses (checkPath p) := by
  unfold checkPath
  rw [h]
  exact .pure fun _ _ => trivial

theorem lapses_tolerate (lapse : DiskLapse) : Lapses (tolerate p lapse) := by
  refine .get_bind fun d _ => ?_
  split
  · exact .returned trivial
  · exact .failed trivial
  · next h => exact .failed (isLapse_of_isFolder? h)

theorem lapses_ensureFolder : Lapses (ensureFolder p) := by
  refine .get_bind fun d _ => ?_
  split
  · exact .returned trivial
  · exact .failed trivial
  · exact lapses_tolerate _ d trivial

theorem lapses_ensureFolderUpTo (n : Nat) : Lapses (ensureFolderUpTo p n) := by
  induction n with
  | zero => exact lapses_ensureFolder
  | succ n ih =>
    refine .get_bind fun d _ => ?_
    split
    · exact .returned trivial
    · exact (ih.bind fun _ => lapses_ensureFolder) d trivial
    · exact lapses_tolerate _ d trivial

theorem lapses_ensureFolders (h : DiskFault.ofPath? p = none) : Lapses (ensureFolders p) :=
  (lapses_checkPath h).bind fun _ => lapses_ensureFolderUpTo _

theorem lapses_writeFile (h : DiskFault.ofPath? p = none) : Lapses (writeFile p content) := by
  refine (lapses_checkPath h).bind fun _ => .get_bind fun d _ => ?_
  split
  · exact .returned trivial
  · exact .failed trivial

theorem lapses_removeEmptied : Lapses (removeEmptied p) := by
  refine .get_bind fun d _ => ?_
  split
  · exact .failed trivial
  · exact .failed trivial
  · split
    · exact .failed trivial
    · exact .returned trivial

theorem lapses_removeFolder : Lapses (removeFolder p) := by
  have hset : ∀ e : Disk, Lapses (set e : Action PUnit) := fun e => .set trivial
  refine .get_bind fun d _ => ?_
  split
  · exact .failed trivial
  · next s _ =>
    split
    · split
      · exact ((hset (d.empty s.location)).bind fun _ => lapses_removeEmptied) d trivial
      · exact lapses_removeEmptied d trivial
    · exact .failed trivial

end Disk

end MoveSkeleton
