import MoveSkeleton.Proofs.Package.Lines

/-! The table of dependencies in a manifest: its lines and their keys. A table must not give one key
twice, and a key is the name of a dependency without its account. -/
namespace MoveSkeleton.Manifest

open Text

/-- The head of the table. -/
def tableHead : Text := "[dependencies]"

/-- The lines between the head of the table and the next line that is empty. -/
def dependencyTable (manifest : Text) : List Text :=
  ((manifest.feedLines.dropWhile (· ≠ tableHead)).drop 1).takeWhile (· ≠ "")

/-- What stands between a key and the inline table that is its value. -/
def keyEnd : List CodePoint := (" = \x7b" : Text).points

/-- The key of a line, which is what stands before the first of these. -/
def key (line : Text) : Text :=
  ⟨upTo keyEnd line.points⟩

/-- The lines of a manifest before the head of the table. -/
def rowsBefore (name : Text) : List Text :=
  ["[package]", "name = \"" ++ name ++ "\"", "version = \"" ++ version ++ "\"", "authors = []", "",
    "[dev-addresses]", ""]

/-- The lines of the dependencies, or an empty one if there are none. -/
def dependencyRows (isRoot : Bool) (p : Package) : List Text :=
  if p.dependencies = [] then [""] else p.dependencies.map (dependencyLine isRoot)

def rowsAfter : List Text := ["", "[dev-dependencies]"]

variable {isRoot : Bool} {name t : Text} {p : Package} {d : Dependency}

theorem text_eq_rows : text isRoot name p = intercalate "\n"
    (rowsBefore name ++ tableHead :: (dependencyRows isRoot p ++ rowsAfter)) := by
  have hrows : intercalate "\n" (dependencyRows isRoot p) =
      intercalate "\n" (p.dependencies.map (dependencyLine isRoot)) := by
    unfold dependencyRows
    split
    · next hnone =>
      rw [hnone]
      rfl
    · rfl
  have hne : dependencyRows isRoot p ≠ [] := by
    unfold dependencyRows
    split <;> simp [*]
  have hcons : tableHead :: (dependencyRows isRoot p ++ rowsAfter) =
      [tableHead] ++ (dependencyRows isRoot p ++ rowsAfter) := rfl
  rw [hcons, intercalate_append (by simp [rowsBefore]) (by simp),
    intercalate_append (by simp) (by simp [rowsAfter]),
    intercalate_append hne (by simp [rowsAfter]), hrows]
  refine ext_points ?_
  simp [text, rowsBefore, rowsAfter, intercalate, tableHead]

theorem oneLine_nameRow (hname : name.OneLine) :
    (Text.ofString "name = \"" ++ name ++ Text.ofString "\"").OneLine :=
  oneLine_append.mpr ⟨oneLine_append.mpr ⟨by decide, hname⟩, by decide⟩

theorem oneLine_rows (hname : name.OneLine)
    (hlines : ∀ d ∈ p.dependencies, (dependencyLine isRoot d).OneLine) :
    ∀ row ∈ rowsBefore name ++ tableHead :: (dependencyRows isRoot p ++ rowsAfter),
      row.OneLine := by
  have hbefore : ∀ row ∈ rowsBefore name, row.OneLine :=
    List.forall_mem_cons.mpr ⟨by decide, List.forall_mem_cons.mpr ⟨oneLine_nameRow hname, by decide⟩⟩
  have hrows : ∀ row ∈ dependencyRows isRoot p, row.OneLine := by
    unfold dependencyRows
    split
    · decide
    · exact List.forall_mem_map.mpr hlines
  have hafter : ∀ row ∈ rowsAfter, row.OneLine := by decide
  exact List.forall_mem_append.mpr ⟨hbefore, List.forall_mem_cons.mpr
    ⟨by decide, List.forall_mem_append.mpr ⟨hrows, hafter⟩⟩⟩

/-- No line before its head is the head of the table. -/
theorem dropWhile_rows (rows : List Text) :
    (rowsBefore name ++ tableHead :: rows).dropWhile (· ≠ tableHead) = tableHead :: rows := by
  have hnamed : Text.ofString "name = \"" ++ name ++ Text.ofString "\"" ≠ tableHead := by
    intro h
    have hfirst := congrArg (fun t => t.points.head?) h
    simp [tableHead] at hfirst
  have hbefore : ∀ row ∈ rowsBefore name, row ≠ tableHead :=
    List.forall_mem_cons.mpr ⟨by decide, List.forall_mem_cons.mpr ⟨hnamed, by decide⟩⟩
  rw [List.dropWhile_append_of_pos fun row hrow => decide_eq_true (hbefore row hrow)]
  simp

/-- The lines of the dependencies end at an empty one. -/
theorem takeWhile_rows : (dependencyRows isRoot p ++ rowsAfter).takeWhile (· ≠ Text.ofString "") =
    p.dependencies.map (dependencyLine isRoot) := by
  unfold dependencyRows
  split
  · next hnone =>
    rw [hnone]
    rfl
  · rw [List.takeWhile_append_of_pos]
    · simp [rowsAfter]
    · intro row hrow
      obtain ⟨d, -, rfl⟩ := List.mem_map.mp hrow
      exact decide_eq_true dependencyLine_ne_empty

/-- The table has exactly one line for each dependency, in order, if no line of theirs is broken. -/
theorem dependencyTable_text_iff (hname : name.OneLine) :
    dependencyTable (text isRoot name p) = p.dependencies.map (dependencyLine isRoot) ↔
      ∀ d ∈ p.dependencies, (dependencyLine isRoot d).OneLine := by
  constructor
  · intro h d hd
    have hline : dependencyLine isRoot d ∈ dependencyTable (text isRoot name p) :=
      h ▸ List.mem_map_of_mem hd
    exact oneLine_of_mem_feedLines ((List.dropWhile_suffix _).subset
      (List.mem_of_mem_drop ((List.takeWhile_prefix _).subset hline)))
  · intro h
    rw [dependencyTable, text_eq_rows, feedLines_intercalate (by simp [rowsBefore])
      (oneLine_rows hname h), dropWhile_rows, List.drop_one, List.tail_cons]
    exact takeWhile_rows

theorem key_eq_self (h : ¬ keyEnd <:+: t.points) : key t = t :=
  ext_points (upTo_eq_self h)

/-- The key of a dependency's line is that of its name, whatever its account. -/
theorem key_dependencyLine (isRoot : Bool) (d : Dependency) :
    key (dependencyLine isRoot d) = key d.name := by
  obtain ⟨rest, hrest⟩ : ∃ rest,
      (dependencyLine isRoot d).points = d.name.points ++ (keyEnd ++ rest) := by
    rw [points_dependencyLine, List.append_assoc]
    unfold opening
    split <;> exact ⟨_, rfl⟩
  have hmark : ∀ k ∈ keyEnd.tails, k <+: keyEnd → k = [] ∨ k = keyEnd := by decide
  rw [key, key, hrest, upTo_append_mark hmark (by decide)]

/-- The table of a manifest has one line for each dependency, in order and with a key of its own,
exactly if no account off the framework has a line feed and the names give distinct keys. A name is
its own key unless it holds the end of one. -/
theorem dependencyTable_sound_iff (hname : name.OneLine)
    (hnames : ∀ d ∈ p.dependencies, d.name.OneLine) :
    (dependencyTable (text isRoot name p) = p.dependencies.map (dependencyLine isRoot) ∧
        ((dependencyTable (text isRoot name p)).map key).Nodup ↔
      (∀ d ∈ p.dependencies, isFramework d.account = true ∨ d.account.OneLine) ∧
        (p.dependencies.map fun d => key d.name).Nodup) ∧
    ∀ d ∈ p.dependencies, ¬ keyEnd <:+: d.name.points → key d.name = d.name := by
  have hlines : (∀ d ∈ p.dependencies, (dependencyLine isRoot d).OneLine) ↔
      ∀ d ∈ p.dependencies, isFramework d.account = true ∨ d.account.OneLine :=
    forall₂_congr fun d hd => oneLine_dependencyLine (hnames d hd)
  refine ⟨?_, fun d _ h => key_eq_self h⟩
  rw [← hlines, ← dependencyTable_text_iff hname]
  refine and_congr_right fun htable => ?_
  have hkeys : (p.dependencies.map (dependencyLine isRoot)).map key =
      p.dependencies.map fun d => key d.name := by
    rw [List.map_map]
    exact List.map_congr_left fun d _ => key_dependencyLine isRoot d
  rw [htable, hkeys]

namespace Sample

/-- A package with a dependency on the framework, and others of names that are alike. -/
def mixed : Package where
  name := "P"
  dependencies := [⟨"0x1", "AptosStdlib"⟩, ⟨"0xb", "Q"⟩, ⟨"0xb", "Q ="⟩, ⟨"0xc", "Q = x"⟩]
  modules := []

/-- A package that depends on two packages of one name, which two accounts have published. -/
def namesakes : Package where
  name := "P"
  dependencies := [⟨"0xb", "Q"⟩, ⟨"0xc", "Q"⟩]
  modules := []

end Sample

/-- Each of the lines has a key of its own, though some of the names begin others. -/
theorem dependencyTable_sound_mixed :
    (Text.ofString "P").OneLine ∧ (∀ d ∈ Sample.mixed.dependencies, d.name.OneLine) ∧
      dependencyTable (text true "P" Sample.mixed) =
        Sample.mixed.dependencies.map (dependencyLine true) ∧
      ((dependencyTable (text true "P" Sample.mixed)).map key).Nodup := by
  have hname : (Text.ofString "P").OneLine := by decide
  have hnames : ∀ d ∈ Sample.mixed.dependencies, d.name.OneLine := by decide
  exact ⟨hname, hnames, (dependencyTable_sound_iff hname hnames).1.mpr ⟨by decide, by decide⟩⟩

/-- Two dependencies of distinct identities may share a key, in both forms of the manifest. -/
theorem namesakes_share_key :
    (Sample.namesakes.dependencies.map Dependency.target).Nodup ∧
      (∀ d ∈ Sample.namesakes.dependencies, d.name.OneLine ∧ .char '"' ∉ d.name.points) ∧
      ¬ ((dependencyTable (text true "P" Sample.namesakes)).map key).Nodup ∧
      ¬ ((dependencyTable (text false "P" Sample.namesakes)).map key).Nodup :=
  ⟨by decide, by decide, by decide +kernel, by decide +kernel⟩

end MoveSkeleton.Manifest
