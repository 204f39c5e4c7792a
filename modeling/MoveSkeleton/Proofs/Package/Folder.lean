import Mathlib.Data.List.Nodup
import MoveSkeleton.Package.Manifest
import MoveSkeleton.Proofs.Disk.Path
import MoveSkeleton.Skeleton

/-! The names of folders and source files, and the paths that manifests name folders by. -/
namespace MoveSkeleton

/-- The text `0x` and more, without underscores or slashes. -/
def IsPlainAccount (account : Text) : Prop :=
  ∃ bare : Text, account = "0x" ++ bare ∧ ∀ x ∈ bare.points, x ≠ .char '_' ∧ x ≠ .char '/'

/-- The text `0x` and more, without underscores. -/
def IsHexAccount (account : Text) : Prop :=
  ∃ bare : Text, account = "0x" ++ bare ∧ CodePoint.char '_' ∉ bare.points

/-- What is left of an account without one leading `0x`: all of it if it does not begin with that. -/
inductive Bares : Text → Text → Prop where
  | stripped (bare : Text) : Bares ("0x" ++ bare) bare
  | unchanged {account : Text} (h : ∀ bare : Text, account ≠ "0x" ++ bare) : Bares account account

/-- A text without slashes. -/
def Text.SlashFree (t : Text) : Prop :=
  ∀ x ∈ t.points, x ≠ .char '/'

instance : DecidablePred Text.SlashFree :=
  fun t => inferInstanceAs (Decidable (∀ x ∈ t.points, x ≠ .char '/'))

variable {account account' bare name name' t : Text} {d : Dependency}

theorem bareAccount_append (bare : Text) : bareAccount ("0x" ++ bare) = bare := rfl

theorem bareAccount_of_ne (h : ∀ bare : Text, account ≠ "0x" ++ bare) :
    bareAccount account = account := by
  unfold bareAccount
  split
  · next rest hrest => exact absurd (congrArg Text.mk hrest) (h ⟨rest⟩)
  · rfl

theorem bareAccount_eq_iff : bareAccount account = bare ↔ Bares account bare := by
  constructor
  · rintro rfl
    by_cases h : ∃ bare : Text, account = "0x" ++ bare
    · obtain ⟨bare, rfl⟩ := h
      exact .stripped bare
    · have h := not_exists.mp h
      rw [bareAccount_of_ne h]
      exact .unchanged h
  · intro h
    cases h with
    | stripped => rfl
    | unchanged h => exact bareAccount_of_ne h

theorem IsPlainAccount.isHexAccount (h : IsPlainAccount account) : IsHexAccount account := by
  obtain ⟨bare, rfl, hbare⟩ := h
  exact ⟨bare, rfl, fun hx => (hbare _ hx).1 rfl⟩

theorem IsHexAccount.notMem (h : IsHexAccount account) : CodePoint.char '_' ∉ account.points := by
  obtain ⟨bare, rfl, hbare⟩ := h
  have hopening : CodePoint.char '_' ∉ (Text.ofString "0x").points := by decide
  exact fun hx => (List.mem_append.mp hx).elim hopening hbare

theorem IsPlainAccount.slashFree (h : IsPlainAccount account) : account.SlashFree := by
  obtain ⟨bare, rfl, hbare⟩ := h
  have hopening : ∀ x ∈ (Text.ofString "0x").points, x ≠ .char '/' := by decide
  exact List.forall_mem_append.mpr ⟨hopening, fun x hx => (hbare x hx).2⟩

theorem points_folderName (name account : Text) : (folderName name account).points =
    name.points ++ .char '_' :: (bareAccount account).points := by
  simp [folderName]

theorem isName_of_mem {x : CodePoint} (hx : x ∈ t.points) (hdot : x ≠ .char '.')
    (ht : t.SlashFree) : Path.IsName t := by
  refine ⟨⟨?_, ?_, ht⟩, ?_⟩ <;> rintro rfl <;> simp at hx <;> exact hdot hx

theorem isName_sources : Path.IsName (Text.ofString Skeleton.sourcesFolder) := by decide

theorem isName_manifest : Path.IsName (Text.ofString Manifest.fileName) := by decide

theorem isName_dependencies : Path.IsName (Text.ofString Manifest.dependenciesFolder) := by decide

/-- A folder's name has an underscore in it, so that it is neither empty nor made of dots. -/
theorem isName_folder (h : d.folder.SlashFree) : Path.IsName d.folder := by
  have hmem : CodePoint.char '_' ∈ d.folder.points := by
    rw [Dependency.folder, points_folderName]
    simp
  exact isName_of_mem hmem (by decide) h

/-- Without its `0x` an account holds nothing else. -/
theorem mem_account_of_mem_bare {x : CodePoint} (hx : x ∈ (bareAccount account).points) :
    x ∈ account.points := by
  unfold bareAccount at hx
  split at hx
  · next rest hrest =>
    rw [hrest]
    exact List.mem_cons_of_mem _ (List.mem_cons_of_mem _ hx)
  · exact hx

/-- A folder's name holds the package's name and account. -/
theorem slashFree_folder (hn : d.name.SlashFree) (ha : d.account.SlashFree) :
    d.folder.SlashFree := by
  intro x hx
  rw [Dependency.folder, points_folderName, List.mem_append, List.mem_cons] at hx
  rcases hx with hx | rfl | hx
  exacts [hn x hx, by decide, ha x (mem_account_of_mem_bare hx)]

theorem isName_folderName (ha : IsPlainAccount account) (hn : name.SlashFree) :
    Path.IsName (folderName name account) :=
  isName_folder (d := ⟨account, name⟩) (slashFree_folder hn ha.slashFree)

theorem isName_sourceFile (hn : name.SlashFree) : Path.IsName (Skeleton.sourceFile name) := by
  have hpoints : (Skeleton.sourceFile name).points =
      name.points ++ ['.', 'm', 'o', 'v', 'e'].map .char := rfl
  refine isName_of_mem (x := .char 'm') (by simp [hpoints]) (by decide) ?_
  intro x hx
  rw [hpoints, List.mem_append] at hx
  rcases hx with hx | hx
  · exact hn x hx
  · simp only [List.map_cons, List.map_nil, List.mem_cons, List.not_mem_nil, or_false] at hx
    rcases hx with rfl | rfl | rfl | rfl | rfl <;> decide

private theorem append_cons_inj {α : Type} {a : α} {u v s r : List α} (hu : a ∉ u) (hv : a ∉ v)
    (h : u ++ a :: s = v ++ a :: r) : u = v ∧ s = r := by
  induction u generalizing v with
  | nil =>
    cases v with
    | nil => simpa using h
    | cons b v =>
      obtain ⟨rfl, -⟩ := List.cons.inj h
      exact absurd List.mem_cons_self hv
  | cons b u ih =>
    cases v with
    | nil =>
      obtain ⟨rfl, -⟩ := List.cons.inj h
      exact absurd List.mem_cons_self hu
    | cons b' v =>
      obtain ⟨rfl, hrest⟩ := List.cons.inj h
      obtain ⟨rfl, rfl⟩ := ih (fun h => hu (List.mem_cons_of_mem _ h))
        (fun h => hv (List.mem_cons_of_mem _ h)) hrest
      exact ⟨rfl, rfl⟩

/-- The last underscore of a folder's name is the one before the account. -/
theorem folderName_eq_iff (ha : CodePoint.char '_' ∉ account.points)
    (ha' : CodePoint.char '_' ∉ account'.points) :
    folderName name account = folderName name' account' ↔
      name = name' ∧ bareAccount account = bareAccount account' := by
  constructor
  · intro h
    have hrev := congrArg (fun t => t.points.reverse) h
    simp only [points_folderName, List.reverse_append, List.reverse_cons, List.append_assoc,
      List.singleton_append] at hrev
    have hmem : ∀ {b : Text}, CodePoint.char '_' ∉ b.points →
        CodePoint.char '_' ∉ (bareAccount b).points.reverse :=
      fun hb hx => hb (mem_account_of_mem_bare (List.mem_reverse.mp hx))
    obtain ⟨hb, hn⟩ := append_cons_inj (hmem ha) (hmem ha') hrev
    exact ⟨Text.ext_points (List.reverse_inj.mp hn), Text.ext_points (List.reverse_inj.mp hb)⟩
  · rintro ⟨rfl, h⟩
    rw [folderName, folderName, h]

/-- Of an account that begins with `0x` nothing is lost in a folder's name, so that packages have
folders of their own. -/
theorem folderName_inj_of_hex (ha : IsHexAccount account) (ha' : IsHexAccount account')
    (h : folderName name account = folderName name' account') :
    name = name' ∧ account = account' := by
  obtain ⟨hname, hbare⟩ := (folderName_eq_iff ha.notMem ha'.notMem).mp h
  obtain ⟨bare, rfl, -⟩ := ha
  obtain ⟨bare', rfl, -⟩ := ha'
  rw [bareAccount_append, bareAccount_append] at hbare
  exact ⟨hname, congrArg _ hbare⟩

theorem folderName_inj (ha : IsPlainAccount account) (ha' : IsPlainAccount account')
    (h : folderName name account = folderName name' account') :
    name = name' ∧ account = account' :=
  folderName_inj_of_hex ha.isHexAccount ha'.isHexAccount h

theorem nodup_folders {ds : List Dependency} (hds : ds.Nodup)
    (h : ∀ d ∈ ds, IsHexAccount d.account) : (ds.map Dependency.folder).Nodup := by
  refine List.Nodup.map_on (fun d hd d' hd' hf => ?_) hds
  obtain ⟨hname, haccount⟩ := folderName_inj_of_hex (h d hd) (h d' hd') hf
  cases d
  cases d'
  exact congrArg₂ Dependency.mk haccount hname

namespace Manifest

/-- The path that a manifest names a package off the framework by. -/
def localPath (isRoot : Bool) (d : Dependency) : Text :=
  (if isRoot then dependenciesFolder ++ "/" else "../") ++ d.folder

theorem dependencyLine_of_not_framework (isRoot : Bool) (h : isFramework d.account = false) :
    dependencyLine isRoot d =
      d.name ++ " = \x7b local = \"" ++ localPath isRoot d ++ "\" \x7d" := by
  unfold dependencyLine localPath
  rw [h, if_neg (by decide)]
  exact congrArg (· ++ Text.ofString "\" \x7d") (congrArg Text.mk (List.append_assoc ..))

/-- From the root package's folder the path goes by way of the folder of dependencies, from the
folder of a dependency by way of the one that holds it. -/
theorem join_localPath (isRoot : Bool) (p : Path) (h : Path.IsPart d.folder) :
    p.join (localPath isRoot d) =
      p.below [Text.ofString (if isRoot then dependenciesFolder else ".."), d.folder] := by
  cases isRoot with
  | false => exact Path.join_append_slash (t := Text.ofString "..") (by decide) h
  | true => exact Path.join_append_slash (t := Text.ofString dependenciesFolder) (by decide) h

end Manifest

end MoveSkeleton
