import MoveSkeleton.Proofs.Package.Folder
import MoveSkeleton.Proofs.Text.Sections

/-! The lines by which a manifest names dependencies, and what can be read from them. -/
namespace MoveSkeleton

open Text

/-- What the `0x` of an account is not stands in the rest of it. -/
theorem mem_bare_of_mem_account {account : Text} {x : CodePoint} (hzero : x ≠ .char '0')
    (hx : x ≠ .char 'x') (h : x ∈ account.points) : x ∈ (bareAccount account).points := by
  unfold bareAccount
  split
  · next rest hrest =>
    rw [hrest] at h
    exact ((List.mem_cons.mp h).resolve_left hzero |> List.mem_cons.mp).resolve_left hx
  · exact h

theorem oneLine_bareAccount {account : Text} : (bareAccount account).OneLine ↔ account.OneLine :=
  not_congr ⟨mem_account_of_mem_bare, mem_bare_of_mem_account (by decide) (by decide)⟩

namespace Manifest

variable {isRoot : Bool} {d e : Dependency}

/-- What follows the name in the line of a dependency, up to its first quote. -/
def opening (d : Dependency) : Text :=
  if isFramework d.account then " = \x7b git = " else " = \x7b local = "

/-- What follows that quote. -/
def target (isRoot : Bool) (d : Dependency) : Text :=
  if isFramework d.account then
    frameworkRepository ++ "\", rev = \"" ++ frameworkRevision ++ "\", subdir = \"" ++
      frameworkFolder d.name ++ "\"\x7d"
  else localPath isRoot d ++ "\" \x7d"

theorem points_dependencyLine (isRoot : Bool) (d : Dependency) :
    (dependencyLine isRoot d).points = (d.name.points ++ (opening d).points) ++
      .char '"' :: (target isRoot d).points := by
  cases h : isFramework d.account with
  | true => simp [dependencyLine, opening, target, h]
  | false => simp [dependencyLine_of_not_framework, opening, target, h]

theorem oneLine_frameworkFolder (name : Text) :
    (Text.ofString (frameworkFolder name)).OneLine := by
  have hlisted : ∀ entry ∈ frameworkFolders, (Text.ofString entry.2).OneLine := by decide
  unfold frameworkFolder
  cases h : frameworkFolders.lookup name with
  | none => decide
  | some folder => exact hlisted _ (Entries.mem_of_get? h)

theorem oneLine_target : (target isRoot d).OneLine ↔
    isFramework d.account = true ∨ d.name.OneLine ∧ d.account.OneLine := by
  unfold target
  cases h : isFramework d.account with
  | true =>
    simp only [if_true, oneLine_append, true_or, iff_true]
    exact ⟨⟨by decide, oneLine_frameworkFolder _⟩, by decide⟩
  | false =>
    simp only [Bool.false_eq_true, if_false, false_or, localPath, Dependency.folder, folderName,
      oneLine_append, oneLine_bareAccount]
    have hlead : (Text.ofString (if isRoot then dependenciesFolder ++ "/" else "../")).OneLine := by
      cases isRoot <;> decide
    have hjoint : (Text.ofString "_").OneLine := by decide
    have hend : (Text.ofString "\" \x7d").OneLine := by decide
    simp only [hlead, hjoint, hend, true_and, and_true]

/-- A dependency has a line of its own unless its account, off the framework, has a line feed. -/
theorem oneLine_dependencyLine (hname : d.name.OneLine) : (dependencyLine isRoot d).OneLine ↔
    isFramework d.account = true ∨ d.account.OneLine := by
  have hopening : (opening d).OneLine := by
    unfold opening
    split <;> decide
  have hline : dependencyLine isRoot d = d.name ++ opening d ++ "\"" ++ target isRoot d :=
    ext_points (by rw [points_dependencyLine]; simp)
  have hquote : (Text.ofString "\"").OneLine := by decide
  rw [hline]
  simp only [oneLine_append, hname, hopening, hquote, oneLine_target, true_and]

theorem dependencyLine_ne_empty : dependencyLine isRoot d ≠ "" := by
  intro h
  have hpoints := congrArg Text.points h
  rw [points_dependencyLine] at hpoints
  simp at hpoints

end Manifest

end MoveSkeleton
