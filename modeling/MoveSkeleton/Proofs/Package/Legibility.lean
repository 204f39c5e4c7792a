import Mathlib.Data.List.Forall2
import MoveSkeleton.Proofs.Package.Lines

/-! What the manifest of a package shows: its name, and of each dependency the name and, off the
framework, the account without its `0x`. All of that can be read back from the text, and in which
folder the manifest is to lie. -/
namespace MoveSkeleton.Manifest

open Text

/-- Dependencies that a manifest does not tell apart. -/
structure ShownAlike (d e : Dependency) : Prop where
  name : d.name = e.name
  account : isFramework d.account = true ∧ isFramework e.account = true ∨
    isFramework d.account = false ∧ isFramework e.account = false ∧
      bareAccount d.account = bareAccount e.account

instance (d e : Dependency) : Decidable (ShownAlike d e) :=
  decidable_of_iff (_ ∧ _) ⟨fun h => ⟨h.1, h.2⟩, fun h => ⟨h.name, h.account⟩⟩

/-- A dependency of which a line can be made that shows where the name ends. -/
structure Legible (d : Dependency) : Prop where
  quoteFree : .char '"' ∉ d.name.points
  name : d.name.OneLine
  account : d.account.OneLine

instance (d : Dependency) : Decidable (Legible d) :=
  decidable_of_iff (_ ∧ _ ∧ _) ⟨fun h => ⟨h.1, h.2.1, h.2.2⟩,
    fun h => ⟨h.quoteFree, h.name, h.account⟩⟩

variable {isRoot : Bool} {d e : Dependency} {ds es : List Dependency} {n m : Text} {p q : Package}

/-- Words without quotes end where a quote follows. -/
theorem apart_quoteFree : Apart (.char '"' ∉ ·) (· = CodePoint.char '"') :=
  apart_of_notMem fun _ _ hu ha => ha ▸ hu

theorem isFramework_eq_of_opening
    (h : d.name.points ++ (opening d).points = e.name.points ++ (opening e).points) :
    isFramework d.account = isFramework e.account := by
  -- The words before the quote end in different letters.
  have hlast := congrArg (fun l => l.reverse[3]?) h
  unfold opening at hlast
  cases hd : isFramework d.account <;> cases he : isFramework e.account <;>
    simp [hd, he] at hlast ⊢

theorem dependencyLine_eq_of_shownAlike (h : ShownAlike d e) :
    dependencyLine isRoot d = dependencyLine isRoot e := by
  obtain ⟨hname, ⟨hd, he⟩ | ⟨hd, he, haccount⟩⟩ := h
  · simp only [dependencyLine, hd, he, hname, if_true]
  · simp only [dependencyLine, Dependency.folder, folderName, hd, he, hname, haccount]

theorem shownAlike_of_dependencyLine (hd : .char '"' ∉ d.name.points)
    (he : .char '"' ∉ e.name.points) (h : dependencyLine isRoot d = dependencyLine isRoot e) :
    ShownAlike d e := by
  have hpoints := congrArg Text.points h
  rw [points_dependencyLine, points_dependencyLine] at hpoints
  have hplain : ∀ d : Dependency, .char '"' ∉ d.name.points →
      .char '"' ∉ d.name.points ++ (opening d).points := by
    intro d hd
    have hopening : .char '"' ∉ (opening d).points := by
      unfold opening
      split <;> decide
    exact List.mem_append.not.mpr (not_or.mpr ⟨hd, hopening⟩)
  obtain ⟨hhead, htarget⟩ := apart_quoteFree.append_inj (hplain d hd) (hplain e he)
    (stopsAt_cons rfl) (stopsAt_cons rfl) hpoints
  have hkind := isFramework_eq_of_opening hhead
  have hname : d.name = e.name := by
    have hopening : opening d = opening e := by rw [opening, opening, hkind]
    rw [hopening] at hhead
    exact ext_points (List.append_cancel_right hhead)
  refine ⟨hname, ?_⟩
  cases hf : isFramework d.account with
  | true => exact .inl ⟨rfl, hkind ▸ hf⟩
  | false =>
    refine .inr ⟨rfl, hkind ▸ hf, ?_⟩
    have htarget := (List.cons.inj htarget).2
    simp only [target, hf, ← hkind, Bool.false_eq_true, if_false, localPath, Dependency.folder,
      folderName, hname, points_append, List.append_assoc] at htarget
    exact ext_points (List.append_cancel_right (List.append_cancel_left (List.append_cancel_left
      (List.append_cancel_left htarget))))

/-- The lists of dependencies that give the same lines are those that agree one by one. -/
theorem lines_eq_iff (hd : ∀ d ∈ ds, .char '"' ∉ d.name.points)
    (he : ∀ e ∈ es, .char '"' ∉ e.name.points) :
    ds.map (dependencyLine isRoot) = es.map (dependencyLine isRoot) ↔
      List.Forall₂ ShownAlike ds es := by
  induction ds generalizing es with
  | nil => cases es <;> simp
  | cons d ds ih =>
    cases es with
    | nil => simp
    | cons e es =>
      rw [List.forall_mem_cons] at hd he
      rw [List.map_cons, List.map_cons, List.cons.injEq, List.forall₂_cons, ih hd.2 he.2]
      exact and_congr_left fun _ =>
        ⟨shownAlike_of_dependencyLine hd.1 he.1, dependencyLine_eq_of_shownAlike⟩

theorem points_text : (text isRoot n p).points = (("[package]\nname = \"" : Text).points ++
    (n.points ++ .char '"' :: ((("\nversion = \"" ++ version ++
      "\"\nauthors = []\n\n[dev-addresses]\n\n[dependencies]\n" : String) : Text).points ++
        ((intercalate "\n" (p.dependencies.map (dependencyLine isRoot))).points ++
          ("\n\n[dev-dependencies]" : Text).points)))) := by
  simp [text]

theorem text_inj (hn : .char '"' ∉ n.points) (hm : .char '"' ∉ m.points)
    (h : text isRoot n p = text isRoot m q) : n = m ∧
      intercalate "\n" (p.dependencies.map (dependencyLine isRoot)) =
        intercalate "\n" (q.dependencies.map (dependencyLine isRoot)) := by
  have hpoints := congrArg Text.points h
  rw [points_text, points_text] at hpoints
  obtain ⟨hname, hrest⟩ := apart_quoteFree.append_inj hn hm (stopsAt_cons rfl) (stopsAt_cons rfl)
    (List.append_cancel_left hpoints)
  exact ⟨ext_points hname, ext_points (List.append_cancel_right
    (List.append_cancel_left (List.cons.inj hrest).2))⟩

/-- Off the framework the line in the root package's manifest is longer by the difference between
`deps/` and `../`. -/
theorem length_dependencyLine (d : Dependency) : (dependencyLine true d).points.length =
    (dependencyLine false d).points.length + if isFramework d.account then 0 else 2 := by
  cases h : isFramework d.account with
  | true => simp [dependencyLine, h]
  | false =>
    simp [dependencyLine, h, dependenciesFolder]
    omega

theorem length_text (n : Text) (p : Package) : (text true n p).points.length =
    (text false n p).points.length +
      2 * p.dependencies.countP fun d => !isFramework d.account := by
  have hlines : ∀ ds : List Dependency,
      (intercalate "\n" (ds.map (dependencyLine true))).points.length =
        (intercalate "\n" (ds.map (dependencyLine false))).points.length +
          2 * ds.countP fun d => !isFramework d.account := by
    intro ds
    induction ds with
    | nil => rfl
    | cons d ds ih =>
      have hline := length_dependencyLine d
      rw [List.countP_cons]
      cases ds with
      | nil =>
        simp only [List.map_cons, List.map_nil, intercalate, List.countP_nil]
        cases h : isFramework d.account <;> simp [h] at hline ⊢ <;> omega
      | cons e ds =>
        simp only [List.map_cons, intercalate, points_append, List.length_append] at ih ⊢
        cases h : isFramework d.account <;> simp [h] at hline ⊢ <;> omega
  simp only [points_text, List.length_append, List.length_cons, hlines]
  omega

/-- Two manifests of one form are the same text exactly if the packages have one name and their
dependencies are shown alike, one by one. The two forms of a manifest are the same text only where
all dependencies are on the framework. -/
theorem text_eq_iff (hn : .char '"' ∉ n.points) (hm : .char '"' ∉ m.points)
    (hp : ∀ d ∈ p.dependencies, Legible d) (hq : ∀ d ∈ q.dependencies, Legible d) :
    (text isRoot n p = text isRoot m q ↔
        n = m ∧ List.Forall₂ ShownAlike p.dependencies q.dependencies) ∧
      ((∃ d ∈ p.dependencies, isFramework d.account = false) → text true n p ≠ text false n p) := by
  have hlines : ∀ ds : List Dependency, (∀ d ∈ ds, Legible d) →
      ∀ line ∈ ds.map (dependencyLine isRoot), line.OneLine ∧ line ≠ "" := fun ds hds =>
    List.forall_mem_map.mpr fun d hd =>
      ⟨(oneLine_dependencyLine (hds d hd).name).mpr (.inr (hds d hd).account),
        dependencyLine_ne_empty⟩
  have hiff : p.dependencies.map (dependencyLine isRoot) =
      q.dependencies.map (dependencyLine isRoot) ↔
        List.Forall₂ ShownAlike p.dependencies q.dependencies :=
    lines_eq_iff (fun d hd => (hp d hd).quoteFree) (fun d hd => (hq d hd).quoteFree)
  refine ⟨⟨fun h => ?_, ?_⟩, ?_⟩
  · obtain ⟨hname, hbody⟩ := text_inj hn hm h
    exact ⟨hname, hiff.mp (intercalate_lines_inj (hlines _ hp) (hlines _ hq) hbody)⟩
  · rintro ⟨rfl, halike⟩
    rw [text, text, hiff.mpr halike]
  · rintro ⟨d, hd, hlocal⟩ h
    have hlength := length_text n p
    rw [h] at hlength
    have hcount : 0 < p.dependencies.countP fun d => !isFramework d.account :=
      List.countP_pos_iff.mpr ⟨d, hd, by rw [hlocal]; rfl⟩
    omega

namespace Sample

/-- Dependencies whose names hold what stands between and around names, one of them on the
framework. -/
def intricate : Package where
  name := "P"
  dependencies := [⟨"0x1", "AptosStdlib"⟩, ⟨"0xb", "Q = \x7b local"⟩, ⟨"0xc_d", "R_/"⟩]
  modules := []

/-- The same with another account of the framework, and without a `0x`. -/
def respelled : Package where
  name := "P"
  dependencies := [⟨"0x3", "AptosStdlib"⟩, ⟨"b", "Q = \x7b local"⟩, ⟨"0xc_d", "R_/"⟩]
  modules := ["r"]

end Sample

/-- Manifests of packages that differ in all that a manifest does not show. -/
theorem text_eq_respelled :
    .char '"' ∉ (Text.ofString "P").points ∧
      (∀ d ∈ Sample.intricate.dependencies, Legible d) ∧
      (∀ d ∈ Sample.respelled.dependencies, Legible d) ∧
      text true "P" Sample.intricate = text true "P" Sample.respelled ∧
      text true "P" Sample.intricate ≠ text false "P" Sample.intricate := by
  have hname : CodePoint.char '"' ∉ (Text.ofString "P").points := by decide
  have hp : ∀ d ∈ Sample.intricate.dependencies, Legible d := by decide
  have hq : ∀ d ∈ Sample.respelled.dependencies, Legible d := by decide
  obtain ⟨hiff, hforms⟩ :
      (text true "P" Sample.intricate = text true "P" Sample.respelled ↔ _) ∧ _ :=
    text_eq_iff hname hname hp hq
  exact ⟨hname, hp, hq, hiff.mpr ⟨rfl, by decide⟩, hforms ⟨⟨"0xb", "Q = \x7b local"⟩, by decide⟩⟩

end MoveSkeleton.Manifest
