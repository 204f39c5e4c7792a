import MoveSkeleton.Proofs.Disk.Access
import MoveSkeleton.Proofs.Entries
import MoveSkeleton.Proofs.Text.Lines
import MoveSkeleton.Token

/-! Texts of assignments put together: each line is read for itself, so what a text assigns is what
its first part assigns with the rest put over it. -/
namespace MoveSkeleton

namespace Dotenv

open Text Entries

variable {s t : List Char} {c : Char}

/-- What the lines of a text assign, one after the other. -/
def assigned (text : List Char) : List (List Char × List Char) :=
  (lines text).filterMap assignment?

theorem load_eq_ofList (text : List Char) : load text = ofList (assigned text) := rfl

/-- An empty line assigns nothing, so it does not matter whether one stands between two breaks. -/
theorem assigned_eq_sections (text : List Char) :
    assigned text = (sections isLineBreak text).filterMap assignment? :=
  filterMap_lines rfl text

theorem assigned_append (hc : isLineBreak c) :
    assigned (s ++ c :: t) = assigned s ++ assigned t := by
  simp only [assigned_eq_sections, sections_append hc, List.filterMap_append]

theorem assigned_of_unbroken (h : ∀ c ∈ s, isLineBreak c = false) :
    assigned s = (assignment? s).toList := by
  rw [assigned_eq_sections, sections_of_forall h]
  cases hs : assignment? s <;> simp [hs]

/-- A text that is read with its line breaks made equal assigns what it did. -/
theorem load_withFeeds (text : List Char) : load (withFeeds text) = load text := by
  rw [load, load, lines_withFeeds]

theorem load_append (hc : isLineBreak c) : load (s ++ c :: t) = update (load s) (load t) := by
  rw [load_eq_ofList, assigned_append hc, ofList_append, ← update_ofList, ← load_eq_ofList,
    ← load_eq_ofList]

theorem get?_load_append (hc : isLineBreak c) (k : List Char) :
    get? (load (s ++ c :: t)) k = (get? (load t) k).or (get? (load s) k) := by
  rw [load_append hc]
  exact get?_update_ofList

theorem keys_load_append (hc : isLineBreak c) :
    keys (load (s ++ c :: t)) =
      keys (load s) ++ (keys (load t)).filter (· ∉ keys (load s)) := by
  rw [load_append hc, load_eq_ofList t, update_ofList, keys_update]

end Dotenv

/-- The file may be read and holds the text. -/
def Disk.HoldsText (d : Disk) (a : Access) (file : Path) (text : List Char) : Prop :=
  a.read d file = .ok (String.ofList text).toUTF8

/-- A disk that has the texts as files in its working folder. -/
def Disk.ofTexts (files : List (Text × List Char)) : Disk where
  root := .folder (files.map fun e => (e.1, .file (String.ofList e.2).toUTF8))
  here := []

namespace Token

open Dotenv Entries

variable {access : Access} {d : Disk} {f g h : Path} {s t text : List Char}

theorem assignments_of_holdsText (hf : d.HoldsText access f text) :
    assignments access d f = .ok (load text) := by
  refine bind_eq_ok_iff.mpr ⟨true, mapError_eq_ok_iff.mpr (Access.exists?_of_read hf), ?_⟩
  refine bind_eq_ok_iff.mpr ⟨_, mapError_eq_ok_iff.mpr hf, ?_⟩
  refine bind_eq_ok_iff.mpr ⟨_, mapError_eq_ok_iff.mpr (Text.Utf8.decode_toUTF8 _), ?_⟩
  rw [String.toList_ofList, load_withFeeds]
  rfl

/-- A file of one text, a line feed and another text assigns what the first text does with what the
second does put over it, whatever the two texts are. -/
theorem assignments_of_joined (hf : d.HoldsText access f s) (hg : d.HoldsText access g t)
    (hh : d.HoldsText access h (s ++ '\n' :: t)) :
    ∃ a b r, assignments access d f = .ok a ∧ assignments access d g = .ok b ∧
      assignments access d h = .ok r ∧ r = update a b ∧
      (∀ k, get? r k = (get? b k).or (get? a k)) ∧
      keys r = keys a ++ (keys b).filter (· ∉ keys a) :=
  ⟨load s, load t, load (s ++ '\n' :: t), assignments_of_holdsText hf, assignments_of_holdsText hg,
    assignments_of_holdsText hh, load_append rfl, get?_load_append rfl, keys_load_append rfl⟩

/-- The first text ends in an open quote and a carriage return, and the second begins with a line
feed. -/
theorem assignments_of_joined_torn :
    let s := "A='x\r".toList
    let t := "\nB=1\nA=2".toList
    let d := Disk.ofTexts [("f", s), ("g", t), ("h", s ++ '\n' :: t)]
    d.HoldsText {} ⟨.here, ["f"]⟩ s ∧ d.HoldsText {} ⟨.here, ["g"]⟩ t ∧
      d.HoldsText {} ⟨.here, ["h"]⟩ (s ++ '\n' :: t) ∧
      ∃ a b r, assignments {} d ⟨.here, ["f"]⟩ = .ok a ∧ assignments {} d ⟨.here, ["g"]⟩ = .ok b ∧
        assignments {} d ⟨.here, ["h"]⟩ = .ok r ∧ r = update a b ∧
        (∀ k, get? r k = (get? b k).or (get? a k)) ∧
        keys r = keys a ++ (keys b).filter (· ∉ keys a) :=
  ⟨rfl, rfl, rfl, assignments_of_joined rfl rfl rfl⟩

end Token

end MoveSkeleton
