import Mathlib.Data.List.SplitBy
import MoveSkeleton.Proofs.Results
import MoveSkeleton.Proofs.Text.Encoding
import MoveSkeleton.Terminal.Table

/-! What stands on the lines of a screen: the code points of the texts that are laid out, blanks and
a few marks. So the lines can be written if the texts could be. -/
namespace MoveSkeleton.Terminal

/-- All code points of the list satisfy `P`. -/
abbrev Consists (P : CodePoint → Prop) (ps : List CodePoint) : Prop :=
  ∀ p ∈ ps, P p

section
variable {P : CodePoint → Prop} {ps line word : List CodePoint} {p : CodePoint} {n room : Nat}
  {t : Text} {o : Overflow} {a : Alignment}

theorem Consists.append (h : Consists P ps) (h' : Consists P line) : Consists P (ps ++ line) :=
  List.forall_mem_append.mpr ⟨h, h'⟩

theorem Consists.of_subset (h : Consists P ps) (hs : line ⊆ ps) : Consists P line :=
  fun p hp => h p (hs hp)

theorem consists_replicate (h : P p) (n : Nat) : Consists P (List.replicate n p) :=
  fun _ hq => (List.eq_of_mem_replicate hq) ▸ h

/-- No tag begins in these. -/
def Unbracketed (ps : List CodePoint) : Prop :=
  ∀ p ∈ ps, p ≠ .char '['

instance : DecidablePred Unbracketed := fun ps => inferInstanceAs (Decidable (∀ p ∈ ps, _))

theorem unbracketed_numeral (n : Nat) : Unbracketed (Text.ofString (toString n)).points := by
  intro p hp
  obtain ⟨c, rfl, -, hc⟩ := Text.digit_of_mem_numeral hp
  rintro ⟨⟩
  revert hc
  decide

/-! Clusters, into which a text is cut before it is cropped. -/

/-- So far clusters of nothing but such code points. -/
def Clustering.Consists (P : CodePoint → Prop) (s : Clustering) : Prop :=
  ∀ k ∈ s.clusters, Terminal.Consists P k.points

theorem Clustering.Consists.add {s : Clustering} (h : s.Consists P) (hp : P p) :
    (s.add p).Consists P := by
  have hsingle : Terminal.Consists P [p] := List.forall_mem_singleton.mpr hp
  unfold Clustering.Consists at h ⊢
  unfold Clustering.add
  cases hs : s.clusters with
  | nil => exact List.forall_mem_singleton.mpr hsingle
  | cons newest others =>
    rw [hs, List.forall_mem_cons] at h
    have hgrown : ∀ n, ∀ k ∈ (⟨newest.points ++ [p], n⟩ :: others : List Cluster),
        Terminal.Consists P k.points :=
      fun n => List.forall_mem_cons.mpr ⟨h.1.append hsingle, h.2⟩
    dsimp only
    split_ifs
    · exact hgrown _
    · exact hgrown _
    · exact hgrown _
    · exact hgrown _
    · exact List.forall_mem_cons.mpr ⟨hsingle, List.forall_mem_cons.mpr h⟩

theorem consists_clusters (h : Consists P ps) : ∀ k ∈ clusters ps, Consists P k.points := by
  have hrun : (ps.foldl Clustering.add ⟨[], none, false⟩).Consists P :=
    List.foldlRecOn ps _ nofun fun s hs p hp => hs.add (h p hp)
  exact fun k hk => hrun k (List.mem_reverse.mp hk)

theorem consists_fitting (hblank : P ' ') {ks : List Cluster}
    (h : ∀ k ∈ ks, Consists P k.points) : Consists P (fitting room ks) := by
  induction ks generalizing room with
  | nil => exact nofun
  | cons k ks ih =>
    rw [List.forall_mem_cons] at h
    unfold fitting
    split_ifs
    · exact h.1.append (ih h.2)
    · exact nofun
    · exact List.forall_mem_singleton.mpr hblank

theorem consists_crop (hblank : P ' ') (h : Consists P ps) : Consists P (crop room ps) := by
  unfold crop
  split_ifs
  · exact nofun
  · exact h
  · exact consists_fitting hblank (consists_clusters h)

/-! Words, which are cut where a line has no room for them. -/

/-- So far pieces of nothing but such code points. -/
def Cutting.Consists (P : CodePoint → Prop) (s : Cutting) : Prop :=
  (∀ piece ∈ s.done, Terminal.Consists P piece) ∧ Terminal.Consists P s.line

theorem Cutting.Consists.add {s : Cutting} (h : s.Consists P) {k : Cluster}
    (hk : Terminal.Consists P k.points) : (s.add room k).Consists P := by
  unfold Cutting.add
  split_ifs
  · exact ⟨h.1, h.2.append hk⟩
  · exact ⟨List.forall_mem_append.mpr ⟨h.1, List.forall_mem_singleton.mpr h.2⟩, hk⟩

theorem consists_cutWord (h : Consists P word) : ∀ piece ∈ cutWord room word, Consists P piece := by
  have hrun : ((clusters word).foldl (Cutting.add room) ⟨[], [], 0⟩).Consists P :=
    List.foldlRecOn _ _ ⟨nofun, nofun⟩ fun s hs k hk => hs.add (consists_clusters h k hk)
  exact List.forall_mem_append.mpr ⟨hrun.1, List.forall_mem_singleton.mpr hrun.2⟩

/-- So far lines of nothing but such code points. -/
def Filling.Consists (P : CodePoint → Prop) (f : Filling) : Prop :=
  (∀ line ∈ f.done, Terminal.Consists P line) ∧ Terminal.Consists P f.line

theorem Filling.Consists.add {f : Filling} (h : f.Consists P) (hw : Terminal.Consists P word) :
    (f.add o room word).Consists P := by
  have hclosed : ∀ line ∈ (if f.line.isEmpty then f.done else f.done ++ [f.line]),
      Terminal.Consists P line := by
    split_ifs
    · exact h.1
    · exact List.forall_mem_append.mpr ⟨h.1, List.forall_mem_singleton.mpr h.2⟩
  have hcut : ∀ piece ∈ cutWord room word, Terminal.Consists P piece := consists_cutWord hw
  unfold Filling.add
  dsimp only
  generalize (if f.line.isEmpty then f.done else f.done ++ [f.line]) = closed at hclosed ⊢
  split_ifs
  · exact ⟨h.1, h.2.append hw⟩
  · refine ⟨List.forall_mem_append.mpr ⟨hclosed, fun piece hp => ?_⟩, ?_⟩
    · exact hcut piece (List.mem_of_mem_dropLast hp)
    · cases hlast : (cutWord room word).getLast? with
      | none => exact nofun
      | some last => exact hcut last (List.mem_of_getLast? hlast)
  · exact ⟨hclosed, hw⟩

theorem consists_words (h : Consists P ps) : ∀ word ∈ words ps, Consists P word := by
  have hparts : ∀ r, ∀ word ∈ (ps.dropWhile CodePoint.isBlank).splitBy r, Consists P word := by
    intro r word hw
    have hdrop : Consists P (ps.dropWhile CodePoint.isBlank) :=
      h.of_subset (List.dropWhile_sublist _).subset
    rw [← List.flatten_splitBy r (ps.dropWhile CodePoint.isBlank)] at hdrop
    exact hdrop.of_subset fun p hp => List.mem_flatten.mpr ⟨word, hw, hp⟩
  unfold words
  split
  · exact nofun
  · next word others hsplit =>
    have hwords := hparts fun a b => !a.isBlank || b.isBlank
    rw [hsplit, List.forall_mem_cons] at hwords
    refine List.forall_mem_cons.mpr ⟨Consists.append ?_ hwords.1, hwords.2⟩
    exact h.of_subset (List.takeWhile_subset _)

theorem consists_expandTabs (hblank : P ' ') (h : Consists P ps) : Consists P (expandTabs ps) := by
  have hparts : ∀ part ∈ Text.sections (· == .char '\t') ps, Consists P part :=
    fun part hpart p hp => h p (Text.of_mem_sections hpart hp).1
  have hfill : ∀ part, Consists P part → Consists P (fillTab part) := fun part hpart =>
    (hpart.append (List.forall_mem_singleton.mpr hblank)).append (consists_replicate hblank _)
  unfold expandTabs
  refine Consists.append (fun p hp => ?_) ?_
  · obtain ⟨part, hpart, hp⟩ := List.mem_flatMap.mp hp
    exact hfill part (hparts part (List.mem_of_mem_dropLast hpart)) p hp
  · cases hlast : (Text.sections (· == .char '\t') ps).getLast? with
    | none => exact nofun
    | some last => exact hparts last (List.mem_of_getLast? hlast)

/-! Lines, which are shortened and filled up. -/

theorem consists_fill (hblank : P ' ') (h : Consists P ps) :
    ∀ line ∈ fill o room ps, Consists P line := by
  have htabs := consists_expandTabs hblank h
  have hrun : ((words (expandTabs ps)).foldl (Filling.add o room) ⟨[], [], 0⟩).Consists P :=
    List.foldlRecOn _ _ ⟨nofun, nofun⟩ fun f hf word hw => hf.add (consists_words htabs word hw)
  unfold fill
  dsimp only
  refine List.forall_mem_map.mpr fun line hline => ?_
  refine Consists.of_subset ?_ (List.take_subset _ _)
  cases hwords : words (expandTabs ps) with
  | nil =>
    rw [hwords] at hline
    exact List.forall_mem_singleton.mpr htabs line hline
  | cons word others =>
    rw [hwords] at hline hrun
    exact List.forall_mem_append.mpr ⟨hrun.1, List.forall_mem_singleton.mpr hrun.2⟩ line hline

theorem consists_paragraphs (h : Consists P t.points) :
    ∀ paragraph ∈ paragraphs t, Consists P paragraph := fun _ hmem p hp =>
  h p (List.mem_of_mem_filter (Text.of_mem_sections hmem hp).1)

/-- What the paragraphs of a text are filled into. -/
theorem consists_filled (hblank : P ' ') (h : Consists P t.points) :
    ∀ line ∈ (paragraphs t).flatMap (fill o room), Consists P line := by
  intro line hline
  obtain ⟨paragraph, hparagraph, hline⟩ := List.mem_flatMap.mp hline
  exact consists_fill hblank (consists_paragraphs h _ hparagraph) line hline

theorem consists_truncate (hblank : P ' ') (hmark : P '…') (h : Consists P line) :
    Consists P (truncate o room line) := by
  unfold truncate
  split_ifs
  · exact h
  · cases o with
    | fold => exact consists_crop hblank h
    | ellipsis =>
      exact (consists_crop hblank h).append (List.forall_mem_singleton.mpr hmark)

theorem consists_pad (hblank : P ' ') (h : Consists P line) : Consists P (pad room line) :=
  h.append (consists_replicate hblank _)

theorem consists_align (hblank : P ' ') (hmark : P '…') (h : Consists P line) :
    Consists P (align a o room line) := by
  have hstrip : Consists P (stripEnd line) := fun p hp =>
    h p (List.mem_reverse.mp ((List.dropWhile_sublist _).mem (List.mem_reverse.mp hp)))
  have hcut : Consists P (truncate o room (if a = .left then line else stripEnd line)) := by
    refine consists_truncate hblank hmark ?_
    split_ifs
    · exact h
    · exact hstrip
  cases a with
  | left => exact consists_pad hblank hcut
  | center => exact consists_pad hblank ((consists_replicate hblank _).append hcut)
  | right => exact (consists_replicate hblank _).append hcut

/-- A text that is laid out between blanks. -/
theorem consists_alignedLines (hblank : P ' ') (hmark : P '…') (h : Consists P t.points) :
    ∀ line ∈ alignedLines a o room t, Consists P line := by
  intro line hline
  obtain ⟨whole, hwhole, rfl⟩ := List.mem_map.mp hline
  exact consists_align hblank hmark (consists_filled hblank h whole hwhole)

end

/-! Tables. -/

section
variable {ts : List Text} {t : Text} {s : Screen} {room : Nat} {o : Overflow} {a : Alignment}

/-- Such lines of a text can be written if the text can. -/
theorem isEncodable_alignedLines (h : t.IsEncodable) :
    ∀ line ∈ alignedLines a o room t, Text.IsEncodable ⟨line⟩ := fun line hline =>
  Text.isEncodable_iff.mpr
    (consists_alignedLines (.char ' ') (.char '…')
      (Text.isEncodable_iff.mp h) line hline)

theorem isEncodable_replicate (c : Char) (n : Nat) :
    Text.IsEncodable ⟨List.replicate n (.char c)⟩ :=
  Text.isEncodable_iff.mpr (consists_replicate (.char c) n)

namespace Table

theorem isEncodable_rule (left joint right : String) (line : Char) (ws : List Nat) :
    (rule left joint right line ws).IsEncodable := by
  refine (Text.isEncodable_ofString left).append ?_ |>.append (Text.isEncodable_ofString right)
  refine (Text.isEncodable_ofString joint).intercalate fun part hpart => ?_
  obtain ⟨w, -, rfl⟩ := List.mem_map.mp hpart
  exact isEncodable_replicate line w

theorem isEncodable_rowLines (border : String) {cells : List (Alignment × Nat × Text)}
    (h : ∀ cell ∈ cells, cell.2.2.IsEncodable) :
    ∀ line ∈ rowLines border cells, line.IsEncodable := by
  have hborder := Text.isEncodable_ofString border
  intro line hline
  obtain ⟨i, -, rfl⟩ := List.mem_map.mp hline
  refine (hborder.append (hborder.intercalate fun part hpart => ?_)).append hborder
  obtain ⟨shaped, hshaped, rfl⟩ := List.mem_map.mp hpart
  obtain ⟨⟨a, w, cell⟩, hcell, rfl⟩ := List.mem_map.mp hshaped
  dsimp only
  split
  · next line hget =>
    have hmem := List.mem_of_getElem? hget
    split_ifs at hmem
    · cases hmem
    · obtain ⟨aligned, haligned, rfl⟩ := List.mem_map.mp hmem
      have hcells := Text.isEncodable_iff.mp (isEncodable_alignedLines (h _ hcell) _ haligned)
      exact Text.isEncodable_iff.mpr (List.forall_mem_cons.mpr
        ⟨.char ' ', consists_pad (.char ' ') hcells⟩)
  · exact isEncodable_replicate ' ' w

/-- All texts of the table can be written. -/
structure IsEncodable (t : Table) : Prop where
  title : t.title.IsEncodable
  texts : ∀ c ∈ t.columns, ∀ x ∈ c.texts, x.IsEncodable

theorem IsEncodable.layOut {t : Table} (h : t.IsEncodable) (columns : Nat) :
    ∀ line ∈ t.layOut columns, line.IsEncodable := by
  have hrow : ∀ (border : String) (text : Column → Text),
      (∀ c ∈ t.columns, (text c).IsEncodable) →
      ∀ line ∈ rowLines border ((t.columns.zip (t.widths columns)).map fun cell =>
        (cell.1.alignment, cell.2, text cell.1)), line.IsEncodable := by
    intro border text htext
    refine isEncodable_rowLines border fun cell hcell => ?_
    obtain ⟨⟨c, w⟩, hc, rfl⟩ := List.mem_map.mp hcell
    exact htext c (List.of_mem_zip hc).1
  have hrule := isEncodable_rule
  unfold Table.layOut
  refine List.forall_mem_map.mpr fun line hline => ?_
  refine Text.isEncodable_iff.mpr (consists_crop (.char ' ') (Text.isEncodable_iff.mp ?_))
  revert line
  simp only [List.forall_mem_append, List.forall_mem_singleton]
  refine ⟨⟨⟨⟨⟨?_, hrule ..⟩, ?_⟩, hrule ..⟩, ?_⟩, hrule ..⟩
  · exact List.forall_mem_map.mpr (isEncodable_alignedLines h.title)
  · exact hrow "┃" Column.header fun c hc => h.texts c hc _ List.mem_cons_self
  · intro line hline
    obtain ⟨i, -, hline⟩ := List.mem_flatMap.mp hline
    refine hrow "│" (fun c => (c.cells[i]?).getD "") (fun c hc => ?_) line hline
    cases hi : c.cells[i]? with
    | none => exact Text.isEncodable_ofString ""
    | some cell => exact h.texts c hc _ (List.mem_cons_of_mem _ (List.mem_of_getElem? hi))

end Table

theorem encodable_eq_ok (h : ∀ t ∈ ts, t.IsEncodable) : encodable ts = .ok ts := by
  have hnone : Text.EncodingFault.find .surrogate
      ⟨ts.flatMap fun t => t.points ++ [.char '\n']⟩ = none := by
    refine Text.EncodingFault.findFrom_eq_none_iff.mpr fun x hx hcovers => ?_
    obtain ⟨t, ht, hx⟩ := List.mem_flatMap.mp hx
    have hpoints := Text.isEncodable_iff.mp (h t ht)
    have hplain : x.isSurrogate = false :=
      List.forall_mem_append.mpr
        ⟨hpoints, List.forall_mem_singleton.mpr (.char '\n')⟩ x hx
    exact absurd hcovers (by simp [Text.EncodingLapse.covers, hplain])
  rw [encodable, hnone]

namespace Screen

/-- A text with markup is read without a fault, and what it shows can be written. -/
def Shows (s : Screen) (t : Text) : Prop :=
  ∃ shown, s.read t = .ok shown ∧ shown.IsEncodable

instance : DecidablePred s.Shows := fun t =>
  match h : s.read t with
  | .ok shown => decidable_of_iff shown.IsEncodable
      ⟨fun he => ⟨shown, h, he⟩, fun ⟨_, hread, he⟩ => Except.ok.inj (h.symm.trans hread) ▸ he⟩
  | .error _ => .isFalse fun ⟨_, hread, _⟩ => nomatch h.symm.trans hread

theorem Shows.lines (h : s.Shows t) : ∃ lines, s.lines t = .ok lines := by
  obtain ⟨shown, hread, hshown⟩ := h
  have hpoints := Text.isEncodable_iff.mp hshown
  have hlines : ∀ line ∈ ((paragraphs shown).flatMap (fill .fold s.columns)).map
      fun line => (⟨truncate .fold s.columns line⟩ : Text), line.IsEncodable := by
    intro line hline
    obtain ⟨whole, hwhole, rfl⟩ := List.mem_map.mp hline
    have hcut : Consists CodePoint.IsEncodable (truncate .fold s.columns whole) :=
      consists_truncate (.char ' ') (.char '…') (consists_filled (.char ' ') hpoints whole hwhole)
    exact Text.isEncodable_iff.mpr hcut
  exact ⟨_, bind_eq_ok_iff.mpr ⟨shown, hread, encodable_eq_ok hlines⟩⟩

theorem isEncodable_colon : Consists CodePoint.IsEncodable [.char ':'] :=
  List.forall_mem_singleton.mpr (.char ':')

theorem isEncodable_showName {name : List CodePoint} (h : Consists CodePoint.IsEncodable name) :
    Consists CodePoint.IsEncodable (s.showName name) := by
  unfold showName
  dsimp only
  split
  · exact Text.isEncodable_iff.mp (Text.isEncodable_ofString _)
  · exact isEncodable_colon.append (h.append isEncodable_colon)

/-- Emoji in the place of their names can be written. -/
theorem isEncodable_showNames {parts : List (List CodePoint)}
    (h : ∀ part ∈ parts, Consists CodePoint.IsEncodable part) :
    Consists CodePoint.IsEncodable (s.showNames parts) := by
  induction parts using showNames.induct with
  | case1 before name after rest hblank ih =>
    rw [List.forall_mem_cons] at h
    rw [showNames, if_pos hblank]
    exact h.1.append (isEncodable_colon.append (ih h.2))
  | case2 before name after rest hblank ih =>
    rw [List.forall_mem_cons, List.forall_mem_cons] at h
    rw [showNames, if_neg hblank]
    exact (h.1.append (isEncodable_showName h.2.1)).append (ih h.2.2)
  | case3 before last =>
    rw [List.forall_mem_cons, List.forall_mem_singleton] at h
    exact h.1.append (isEncodable_colon.append h.2)
  | case4 last => exact h last List.mem_cons_self
  | case5 => exact nofun

/-- A text in which no tag begins is shown, whatever stands in it otherwise. -/
theorem shows_of_unbracketed (h : t.IsEncodable) (hplain : Unbracketed t.points) : s.Shows t := by
  have hunescape : ∀ ps, Unbracketed ps → unescape ps = ps := by
    intro ps h
    induction ps using unescape.induct with
    | case1 rest => exact absurd rfl (h _ (List.mem_cons_of_mem _ List.mem_cons_self))
    | case2 p rest hnot ih =>
      rw [unescape, ih (List.forall_mem_cons.mp h).2]
      exact hnot
    | case3 => rfl
  have hpieces : pieces t = [.plain t.points] := by
    rw [pieces, Text.sections_of_forall fun p hp => beq_eq_false_iff_ne.mpr (hplain p hp)]
    rfl
  have hadd : s.add {} (.plain t.points) =
      .ok { shown := s.showNames (Text.sections (· == .char ':') t.points) } := by
    rw [add, hunescape _ hplain]
    rfl
  refine ⟨⟨s.showNames (Text.sections (· == .char ':') t.points)⟩, ?_, ?_⟩
  · rw [read, hpieces, List.foldlM_cons, hadd]
    rfl
  · refine Text.isEncodable_iff.mpr (isEncodable_showNames fun part hpart p hp => ?_)
    exact Text.isEncodable_iff.mp h p (Text.of_mem_sections hpart hp).1

/-- A number between words in which no tag begins. -/
theorem shows_count (before after : String) (n : Nat)
    (hbefore : Unbracketed (Text.ofString before).points)
    (hafter : Unbracketed (Text.ofString after).points) :
    s.Shows (Text.ofString (before ++ toString n ++ after)) := by
  refine shows_of_unbracketed (Text.isEncodable_ofString _) fun p hp => ?_
  rw [Text.ofString, String.toList_append, String.toList_append, List.map_append,
    List.map_append] at hp
  exact (Consists.append hbefore (unbracketed_numeral n)).append hafter p hp

end Screen

namespace Table

variable {t : Table}

theorem exists_readCell (t : Table) {cell : Text} (h : s.Shows cell) :
    ∃ shown, t.readCell s cell = .ok shown ∧ shown.IsEncodable := by
  unfold readCell
  split
  · exact ⟨_, rfl, Text.isEncodable_ofString ""⟩
  · exact h

/-- A table is laid out if its title and its cells can be shown, each for itself. -/
theorem exists_lines (htitle : s.Shows t.title)
    (hcells : ∀ c ∈ t.columns, ∀ x ∈ c.texts, s.Shows x) : ∃ lines, t.lines s = .ok lines := by
  obtain ⟨title, htitle, ht⟩ := htitle
  have hcolumn : ∀ c ∈ t.columns, ∃ read : Column, (do
      return { c with header := ← t.readCell s c.header, cells := ← c.cells.mapM (t.readCell s) }) =
        Except.ok read ∧ ∀ x ∈ read.texts, x.IsEncodable := by
    intro c hc
    obtain ⟨hheader, hbody⟩ := List.forall_mem_cons.mp (hcells c hc)
    obtain ⟨header, hread, hh⟩ := t.exists_readCell hheader
    obtain ⟨cells, hreads, hcs⟩ := exists_mapM fun x hx => t.exists_readCell (hbody x hx)
    refine ⟨{ c with header, cells }, ?_, List.forall_mem_cons.mpr ⟨hh, hcs⟩⟩
    rw [hread, hreads]
    rfl
  obtain ⟨columns, hcolumns, hc⟩ := exists_mapM hcolumn
  have hread : t.read s = .ok { title, columns } := by
    rw [read, hcolumns, htitle]
    rfl
  have hlines := IsEncodable.layOut (t := { title, columns }) ⟨ht, hc⟩ s.columns
  exact ⟨_, bind_eq_ok_iff.mpr ⟨_, hread, encodable_eq_ok hlines⟩⟩

end Table

end

end MoveSkeleton.Terminal
