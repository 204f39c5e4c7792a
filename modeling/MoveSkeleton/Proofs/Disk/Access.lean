import MoveSkeleton.Disk.Access
import MoveSkeleton.Proofs.Disk.Lapse
import MoveSkeleton.Proofs.Disk.Walk
import MoveSkeleton.Proofs.Results

/-! What can be looked up and read where not everything may be: when it cannot be told whether a path
leads to something, and when it does not matter. -/
namespace MoveSkeleton.Access

variable {a : Access} {d : Disk} {p : Path} {s : Spot} {part : Text} {fault : DiskFault}
  {content : ByteArray}

theorem enter_ne_denied (d : Disk) (s : Spot) (part : Text) : d.enter s part ≠ .error .denied := by
  intro h
  unfold Disk.enter at h
  split at h
  · cases h
  · cases h
  · split_ifs at h <;> cases h

theorem enter_eq_denied_iff :
    a.enter d s part = .error .denied ↔ d.Opens s ∧ a.maySearch s.location = false := by
  rw [enter, ← Disk.any_isFolder_at?_iff]
  split
  · next h => simpa using h
  · next h => exact iff_of_false (enter_ne_denied d s part) (by simpa using h)

/-- A lookup is refused at the first folder on the way that may not be searched. -/
theorem locate_eq_denied_iff : a.locate d p = .error .denied ↔
    Path.size p.text ≤ Disk.maxPath ∧ ∃ before part after s, p.parts = before ++ part :: after ∧
      before.foldlM (a.enter d) (d.start p) = .ok s ∧ d.Opens s ∧
      a.maySearch s.location = false := by
  rw [locate]
  split
  · next h => simp [Nat.not_le_of_lt h]
  · next h => simp only [foldlM_eq_error_iff, enter_eq_denied_iff, Nat.le_of_not_lt h, true_and]

/-- A disk of which all may be searched and read is looked at as it is. -/
theorem eq_of_unbarred (hsearch : ∀ l, a.maySearch l = true) (hread : ∀ l, a.mayRead l = true) :
    a.exists? d p = d.exists? p ∧ a.read d p = d.readFile p := by
  have hlocate : a.locate d p = d.locate p := by
    have henter : a.enter d = d.enter := by
      funext s part
      simp [enter, hsearch]
    rw [locate, henter, Disk.locate]
  constructor
  · have hdenied : d.locate p ≠ .error .denied := by
      rw [← hlocate, Ne, locate_eq_denied_iff]
      rintro ⟨-, -, -, -, s, -, -, -, hs⟩
      exact absurd (hsearch s.location) (by simp [hs])
    rw [exists?, Disk.exists?, hlocate]
    rcases hl : d.locate p with lapse | s
    · cases lapse <;> first | rfl | exact absurd hl hdenied
    · rfl
  · rw [read, Disk.readFile, hlocate]
    cases DiskFault.ofPath? p with
    | some fault => rfl
    | none =>
      cases hl : d.locate p with
      | error lapse => rfl
      | ok s => simp [hread]

/-- It can be told of every path whether it leads to something, unless the path, or a name on it, is
too long, or a folder on the way may not be searched. -/
theorem exists?_eq_error_iff : a.exists? d p = .error fault ↔ DiskFault.ofPath? p = none ∧
    ∃ lapse, a.locate d p = .error lapse ∧ (lapse = .nameTooLong ∨ lapse = .denied) ∧
      fault = .at lapse p := by
  unfold exists?
  cases hp : DiskFault.ofPath? p with
  | some _ => simp
  | none =>
    rcases hl : a.locate d p with lapse | s
    · by_cases h : lapse = .nameTooLong ∨ lapse = .denied
      · simp [h, eq_comm]
      · simp [h]
    · simp

theorem ofPath?_of_exists? (h : a.exists? d p = .ok true) : DiskFault.ofPath? p = none := by
  unfold exists? at h
  split at h
  · cases h
  · next hp => exact Option.not_isSome_iff_eq_none.mp hp

theorem isLapse_of_read (hp : DiskFault.ofPath? p = none) (h : a.read d p = .error fault) :
    fault.IsLapse := by
  unfold read at h
  rw [hp] at h
  dsimp only at h
  split at h
  · cases h
    trivial
  · split at h
    · exact Disk.isLapse_of_readFile hp h
    · cases h
      trivial

theorem exists?_of_read (h : a.read d p = .ok content) : a.exists? d p = .ok true := by
  unfold read at h
  split at h
  · cases h
  · next hpath =>
    split at h
    · cases h
    · next hlocate => simp [exists?, hpath, hlocate]

end MoveSkeleton.Access
