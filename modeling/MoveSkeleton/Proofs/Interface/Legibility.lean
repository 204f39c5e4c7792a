import Mathlib.Logic.Function.Basic
import MoveSkeleton.Proofs.Interface.Words

/-! What the source of an interface shows of it. All of that can be read back from the text. -/
namespace MoveSkeleton.Interface

open Text

/-- What the source of a struct shows of it: of its type parameters no more than their number, and
no padding field. -/
structure Struct.Shown where
  name : Text
  abilities : List Text
  typeParams : Nat
  fields : List Field
  deriving DecidableEq

structure Function.Shown where
  name : Text
  isEntry : Bool
  isPublic : Bool
  typeParams : Nat
  params : List Text
  returns : List Text
  deriving DecidableEq

/-- What the source of an interface shows of it. -/
structure Shown where
  address : Text
  name : Text
  structs : List Struct.Shown
  functions : List Function.Shown
  deriving DecidableEq

def Struct.shown (s : Struct) : Struct.Shown where
  name := s.name
  abilities := s.abilities
  typeParams := s.typeParams.length
  fields := s.shownFields

def Function.shown (f : Function) : Function.Shown where
  name := f.name
  isEntry := f.isEntry
  isPublic := f.isPublic
  typeParams := f.typeParams.length
  params := f.params
  returns := f.returns

def shown (m : Interface) : Shown where
  address := m.address
  name := m.name
  structs := m.structs.map Struct.shown
  functions := m.functions.map Function.shown

structure Struct.WellFormed (s : Struct) : Prop where
  name : IsWord s.name
  abilities : ∀ a ∈ s.abilities, IsWord a
  fields : ∀ f ∈ s.fields, IsWord f.name ∧ IsType f.type

structure Function.WellFormed (f : Function) : Prop where
  name : IsWord f.name
  params : ∀ t ∈ f.params, IsType t
  returns : ∀ t ∈ f.returns, IsType t

structure WellFormed (m : Interface) : Prop where
  address : IsWord m.address
  name : IsWord m.name
  structs : ∀ s ∈ m.structs, s.WellFormed
  functions : ∀ f ∈ m.functions, f.WellFormed

instance (s : Struct) : Decidable s.WellFormed :=
  decidable_of_iff (IsWord s.name ∧ (∀ a ∈ s.abilities, IsWord a) ∧
      ∀ g ∈ s.fields, IsWord g.name ∧ IsType g.type)
    ⟨fun h => ⟨h.1, h.2.1, h.2.2⟩, fun h => ⟨h.name, h.abilities, h.fields⟩⟩

instance (f : Function) : Decidable f.WellFormed :=
  decidable_of_iff (IsWord f.name ∧ (∀ t ∈ f.params, IsType t) ∧ ∀ t ∈ f.returns, IsType t)
    ⟨fun h => ⟨h.1, h.2.1, h.2.2⟩, fun h => ⟨h.name, h.params, h.returns⟩⟩

instance (m : Interface) : Decidable m.WellFormed :=
  decidable_of_iff (IsWord m.address ∧ IsWord m.name ∧ (∀ s ∈ m.structs, s.WellFormed) ∧
      ∀ f ∈ m.functions, f.WellFormed)
    ⟨fun h => ⟨h.1, h.2.1, h.2.2.1, h.2.2.2⟩,
      fun h => ⟨h.address, h.name, h.structs, h.functions⟩⟩

variable {r r' : List CodePoint} {m m' : Interface} {s s' : Struct} {f f' : Function}

section Shown

/-- Lists of items that look alike are written alike. -/
theorem map_eq_of_map_eq {α β : Type} {see : α → β} (write : α → Text)
    (h : ∀ x y, see x = see y → write x = write y) {xs ys : List α}
    (he : xs.map see = ys.map see) : xs.map write = ys.map write := by
  obtain ⟨rewrite, rfl⟩ := (Function.factorsThrough_iff write).mp fun x y => h x y
  rw [← List.map_map, ← List.map_map, he]

theorem Struct.source_eq_of_shown (h : s.shown = s'.shown) : s.source = s'.source := by
  simp only [Struct.shown, Struct.Shown.mk.injEq] at h
  simp only [Struct.source, Struct.abilitiesSource, h]

theorem Function.source_eq_of_shown (h : f.shown = f'.shown) : f.source = f'.source := by
  simp only [Function.shown, Function.Shown.mk.injEq] at h
  simp only [Function.source, Function.paramsSource, Function.returnsSource, h]

theorem source_eq_of_shown (h : m.shown = m'.shown) : m.source = m'.source := by
  simp only [shown, Shown.mk.injEq] at h
  obtain ⟨haddress, hname, hstructs, hfunctions⟩ := h
  have hstructs' := map_eq_of_map_eq (fun s => s.source ++ "\n")
    (fun s s' h => by rw [Struct.source_eq_of_shown h]) hstructs
  have hfunctions' := map_eq_of_map_eq (fun f => f.source ++ "\n")
    (fun f f' h => by rw [Function.source_eq_of_shown h]) hfunctions
  simp only [source, haddress, hname, hstructs', hfunctions']

end Shown

section Parts

/-- A clause that lists something, and is left out where there is nothing to list. -/
def clause (opening closing : List CodePoint) (ts : List Text) : List CodePoint :=
  if ts = [] then [] else opening ++ ((intercalate ", " ts).points ++ closing)

theorem clause_cons (opening closing : List CodePoint) (t : Text) (ts : List Text) :
    clause opening closing (t :: ts) ++ r =
      opening ++ ((intercalate ", " (t :: ts)).points ++ (closing ++ r)) := by
  simp [clause]

/-- What a clause lists is read back where nothing that follows begins like the clause. -/
theorem clause_inj {W : List CodePoint → Prop} {S : CodePoint → Prop} (hW : Apart W S)
    (hcomma : S (.char ',')) (close : CodePoint) (hclose : S close) (hne : close ≠ .char ',')
    {opening closing k k' : List CodePoint} {ts us : List Text}
    (ht : ∀ x ∈ ts, W x.points) (hu : ∀ x ∈ us, W x.points)
    (hr : ∀ rest, r ≠ opening ++ rest) (hr' : ∀ rest, r' ≠ opening ++ rest)
    (hk : closing ++ r = close :: k) (hk' : closing ++ r' = close :: k')
    (he : clause opening closing ts ++ r = clause opening closing us ++ r') :
    ts = us ∧ r = r' := by
  match ts, us with
  | [], [] => exact ⟨rfl, he⟩
  | [], u :: us =>
    rw [clause_cons] at he
    exact absurd he (hr _)
  | t :: ts, [] =>
    rw [clause_cons] at he
    exact absurd he.symm (hr' _)
  | t :: ts, u :: us =>
    rw [clause_cons, clause_cons, hk, hk'] at he
    obtain ⟨hlists, rfl⟩ := hW.intercalate_cons_inj (.char ',') rfl hcomma hclose hne ht hu
      (List.append_cancel_left he)
    exact ⟨hlists, List.append_cancel_left (hk.trans hk'.symm)⟩

/-- The names of `count` type parameters. -/
def genericNames (count : Nat) : List Text :=
  (List.range count).map fun i => ((s!"T{i}" : String) : Text)

theorem length_genericNames (n : Nat) : (genericNames n).length = n := by
  rw [genericNames, List.length_map, List.length_range]

theorem isWord_of_mem_genericNames {n : Nat} {t : Text} (h : t ∈ genericNames n) : IsWord t := by
  obtain ⟨i, -, rfl⟩ := List.mem_map.mp h
  exact isWord_numbered i

theorem points_genericParams (n : Nat) : (genericParams n : Text).points =
    clause [.char '<'] [.char '>'] (genericNames n) := by
  cases n with
  | zero => rfl
  | succ n =>
    have hparams : genericParams (n + 1 : Nat) =
        "<" ++ String.intercalate ", " ((List.range (n + 1)).map fun i => s!"T{i}") ++ ">" :=
      if_neg (by omega)
    have hnames : genericNames (n + 1) =
        ((List.range (n + 1)).map fun i => s!"T{i}").map ofString := by
      rw [List.map_map]
      rfl
    rw [hparams, clause, if_neg (by simp [genericNames]), hnames, ← ofString_intercalate]
    simp

/-- The number of type parameters is read back where no bracket follows them. -/
theorem genericParams_inj {n n' : Nat} (hr : ∀ rest, r ≠ .char '<' :: rest)
    (hr' : ∀ rest, r' ≠ .char '<' :: rest)
    (he : (genericParams n : Text).points ++ r = (genericParams n' : Text).points ++ r') :
    n = n' ∧ r = r' := by
  rw [points_genericParams, points_genericParams] at he
  obtain ⟨hnames, hrest⟩ := clause_inj apart_words (by decide) (.char '>') (by decide) (by decide)
    (fun t => isWord_of_mem_genericNames) (fun t => isWord_of_mem_genericNames) hr hr' rfl rfl he
  have hlength := congrArg List.length hnames
  rw [length_genericNames, length_genericNames] at hlength
  exact ⟨hlength, hrest⟩

theorem separated_genericParams (n : Nat) (hr : Separated r) :
    Separated ((genericParams n : Text).points ++ r) := by
  rw [points_genericParams, clause]
  split
  · exact hr
  · exact stopsAt_cons (by decide)

/-- Whether a mark is there is read back where nothing that follows begins like the mark. -/
theorem mark_inj {mark : String} {a : CodePoint} {more : List CodePoint}
    (hmark : (mark : Text).points = a :: more) {p q : Bool} (hr : ∀ rest, r ≠ a :: rest)
    (hr' : ∀ rest, r' ≠ a :: rest)
    (he : ((if p then mark else "" : String) : Text).points ++ r =
      ((if q then mark else "" : String) : Text).points ++ r') : p = q ∧ r = r' := by
  cases p with
  | false =>
    cases q with
    | false => exact ⟨rfl, he⟩
    | true =>
      refine absurd ?_ (hr (more ++ r'))
      rw [← List.cons_append, ← hmark]
      exact he
  | true =>
    cases q with
    | false =>
      refine absurd ?_ (hr' (more ++ r))
      rw [← List.cons_append, ← hmark]
      exact he.symm
    | true => exact ⟨rfl, List.append_cancel_left he⟩

end Parts

section Structs

theorem points_field (g : Field) : g.source.points ++ r =
    ("    " : Text).points ++ (g.name.points ++ .char ':' :: .char ' ' ::
      (g.type.points ++ .char ',' :: r)) := by
  simp [Field.source]

/-- A field is read back from its line. -/
theorem Field.source_inj {g g' : Field} (hg : IsWord g.name ∧ IsType g.type)
    (hg' : IsWord g'.name ∧ IsType g'.type)
    (he : g.source.points ++ .char '\n' :: r = g'.source.points ++ .char '\n' :: r') :
    g = g' ∧ r = r' := by
  rw [points_field, points_field] at he
  obtain ⟨hname, htail⟩ := apart_words.append_inj hg.1 hg'.1 (stopsAt_cons (by decide))
    (stopsAt_cons (by decide)) (List.append_cancel_left he)
  have hline : Apart (fun l => CodePoint.char '\n' ∉ l) (· = .char '\n') :=
    apart_of_notMem fun u a hu ha => ha ▸ hu
  have hline' : ∀ {t : Text}, IsType t → CodePoint.char '\n' ∉ t.points ++ [.char ','] := by
    intro t ht
    simpa using ht.oneLine
  obtain ⟨htype, hrest⟩ := hline.append_inj (hline' hg.2) (hline' hg'.2) (stopsAt_cons rfl)
    (stopsAt_cons rfl) (by simpa using htail)
  cases g
  cases g'
  rw [Field.mk.injEq]
  exact ⟨⟨ext_points hname, ext_points (List.append_cancel_right htype)⟩, (List.cons.inj hrest).2⟩

theorem Struct.points_abilitiesSource (s : Struct) :
    s.abilitiesSource.points = clause (" has " : Text).points [] s.abilities := by
  unfold abilitiesSource clause
  cases s.abilities with
  | nil => rfl
  | cons a as => simp

/-- The abilities are read back up to the brace that opens the fields. -/
theorem Struct.abilitiesSource_inj (hs : ∀ a ∈ s.abilities, IsWord a)
    (hs' : ∀ a ∈ s'.abilities, IsWord a)
    (he : s.abilitiesSource.points ++ .char ' ' :: .char '\x7b' :: r =
      s'.abilitiesSource.points ++ .char ' ' :: .char '\x7b' :: r') :
    s.abilities = s'.abilities ∧ r = r' := by
  rw [points_abilitiesSource, points_abilitiesSource] at he
  obtain ⟨habilities, hrest⟩ := clause_inj apart_words (by decide) (.char ' ') (by decide)
    (by decide) hs hs' (by simp) (by simp) rfl rfl he
  exact ⟨habilities, (List.cons.inj (List.cons.inj hrest).2).2⟩

theorem Struct.points_source : s.source.points ++ r =
    ("struct " : Text).points ++ (s.name.points ++
      ((genericParams s.typeParams.length : Text).points ++
        (s.abilitiesSource.points ++ .char ' ' :: .char '\x7b' :: .char '\n' ::
          ((intercalate "\n" (s.shownFields.map Field.source)).points ++
            .char '\n' :: .char '\x7d' :: r)))) := by
  simp [source]

/-- A struct is read back as far as its source shows it, whatever follows. -/
theorem Struct.source_inj (hs : s.WellFormed) (hs' : s'.WellFormed)
    (he : s.source.points ++ r = s'.source.points ++ r') : s.shown = s'.shown ∧ r = r' := by
  have hgap : ∀ (t : Struct) (r : List CodePoint), ∃ rest,
      t.abilitiesSource.points ++ .char ' ' :: r = .char ' ' :: rest := by
    intro t r
    unfold abilitiesSource
    split <;> exact ⟨_, rfl⟩
  have hafter : ∀ (t : Struct) (r : List CodePoint),
      Separated ((genericParams t.typeParams.length : Text).points ++
        (t.abilitiesSource.points ++ .char ' ' :: r)) := by
    intro t r
    obtain ⟨rest, hrest⟩ := hgap t r
    exact separated_genericParams _ (hrest ▸ stopsAt_cons (by decide))
  have hbracket : ∀ (t : Struct) (r rest : List CodePoint),
      t.abilitiesSource.points ++ .char ' ' :: r ≠ .char '<' :: rest := by
    intro t r rest
    obtain ⟨rest, hrest⟩ := hgap t r
    simp [hrest]
  rw [Struct.points_source, Struct.points_source] at he
  obtain ⟨hname, he⟩ := apart_words.append_inj hs.name hs'.name (hafter s _) (hafter s' _)
    (List.append_cancel_left he)
  obtain ⟨hparams, he⟩ := genericParams_inj (hbracket s _) (hbracket s' _) he
  obtain ⟨habilities, he⟩ := Struct.abilitiesSource_inj hs.abilities hs'.abilities he
  have hshown : ∀ {t : Struct}, t.WellFormed → ∀ g ∈ t.shownFields,
      IsWord g.name ∧ IsType g.type := fun ht g hg => ht.fields g (List.mem_of_mem_filter hg)
  obtain ⟨hfields, he⟩ := intercalate_feed_inj id (.char ' ')
    (fun g => ⟨_, by simp [Field.source]; rfl⟩) (by decide)
    (fun g hg g' hg' r r' => Field.source_inj (hshown hs g hg) (hshown hs' g' hg'))
    (by simp) (by simp) (List.cons.inj he).2
  rw [List.map_id, List.map_id] at hfields
  refine ⟨?_, (List.cons.inj he).2⟩
  simp only [Struct.shown, ext_points hname, hparams, habilities, hfields]

end Structs

section Functions

/-- Parameters are read back from their list up to the parenthesis that closes it. -/
theorem Function.paramsSource_inj (hf : ∀ t ∈ f.params, IsType t) (hf' : ∀ t ∈ f'.params, IsType t)
    (he : f.paramsSource.points ++ .char ')' :: r = f'.paramsSource.points ++ .char ')' :: r') :
    f.params = f'.params ∧ r = r' := by
  have htypes : ∀ {ts : List Text}, (∀ t ∈ ts, IsType t) →
      ∀ u ∈ ts.mapIdx fun i t => ((s!"arg{i}: " : String) : Text) ++ t, IsType u := by
    intro ts hts u hu
    obtain ⟨i, hi, rfl⟩ := List.mem_mapIdx.mp hu
    exact (hts _ (List.getElem_mem hi)).numbered i
  obtain ⟨hparams, hrest⟩ := apart_types.intercalate_inj (.char ',') rfl (.inl rfl)
    (.inr rfl) (by decide) (fun l hl => hl.cons) (htypes hf) (htypes hf') he
  have hnamed : ∀ i : Nat, (((s!"arg{i}: " : String) : Text) ++ ·).Injective := fun i t t' h =>
    ext_points (List.append_cancel_left (congrArg Text.points h))
  refine ⟨List.ext_getElem? fun i => Option.map_injective (hnamed i) ?_, hrest⟩
  have hi := congrArg (·[i]?) hparams
  simpa only [List.getElem?_mapIdx] using hi

theorem Function.points_returnsSource (f : Function) :
    f.returnsSource.points = clause (": (" : Text).points [.char ')'] f.returns := by
  unfold returnsSource clause
  cases f.returns with
  | nil => rfl
  | cons t ts => simp

/-- The types that a function returns are read back up to the end of its declaration. -/
theorem Function.returnsSource_inj (hf : ∀ t ∈ f.returns, IsType t)
    (hf' : ∀ t ∈ f'.returns, IsType t)
    (he : f.returnsSource.points ++ .char ' ' :: r = f'.returnsSource.points ++ .char ' ' :: r') :
    f.returns = f'.returns ∧ r = r' := by
  rw [points_returnsSource, points_returnsSource] at he
  obtain ⟨hreturns, hrest⟩ := clause_inj apart_types (.inl rfl) (.char ')') (.inr rfl) (by decide)
    hf hf' (by simp) (by simp) rfl rfl he
  exact ⟨hreturns, (List.cons.inj hrest).2⟩

theorem Function.points_source : f.source.points ++ r =
    ("native " : Text).points ++ (((if f.isEntry then "entry " else "" : String) : Text).points ++
      (((if f.isPublic then "public " else "" : String) : Text).points ++ (("fun " : Text).points ++
        (f.name.points ++ ((genericParams f.typeParams.length : Text).points ++ .char '(' ::
          (f.paramsSource.points ++ .char ')' :: (f.returnsSource.points ++ .char ' ' ::
            .char ';' :: r))))))) := by
  simp [source]

/-- A function is read back as far as its source shows it, whatever follows. -/
theorem Function.source_inj (hf : f.WellFormed) (hf' : f'.WellFormed)
    (he : f.source.points ++ r = f'.source.points ++ r') : f.shown = f'.shown ∧ r = r' := by
  have hentry : ∀ (g : Function) (r rest : List CodePoint),
      ((if g.isPublic then "public " else "" : String) : Text).points ++
        (("fun " : Text).points ++ r) ≠ .char 'e' :: rest := by
    intro g r rest
    split <;> simp
  rw [Function.points_source, Function.points_source] at he
  obtain ⟨hisEntry, he⟩ := mark_inj (a := .char 'e') rfl (hentry f _) (hentry f' _)
    (List.append_cancel_left he)
  obtain ⟨hisPublic, he⟩ := mark_inj (a := .char 'p') rfl (by simp) (by simp) he
  obtain ⟨hname, he⟩ := apart_words.append_inj hf.name hf'.name
    (separated_genericParams _ (stopsAt_cons (by decide)))
    (separated_genericParams _ (stopsAt_cons (by decide))) (List.append_cancel_left he)
  obtain ⟨htypeParams, he⟩ := genericParams_inj (by simp) (by simp) he
  obtain ⟨hparams, he⟩ := Function.paramsSource_inj hf.params hf'.params (List.cons.inj he).2
  obtain ⟨hreturns, he⟩ := Function.returnsSource_inj hf.returns hf'.returns he
  refine ⟨?_, (List.cons.inj he).2⟩
  simp only [Function.shown, hisEntry, hisPublic, ext_points hname, htypeParams, hparams, hreturns]

end Functions

theorem Struct.source_begins (s : Struct) :
    ∃ rest, (s.source ++ ("\n" : Text)).points = .char 's' :: rest := by
  rw [points_append, Struct.points_source]
  exact ⟨_, rfl⟩

theorem Function.source_begins (f : Function) :
    ∃ rest, (f.source ++ ("\n" : Text)).points = .char 'n' :: rest := by
  rw [points_append, Function.points_source]
  exact ⟨_, rfl⟩

/-- No struct follows where the functions begin. -/
theorem functions_ne (fs : List Function) (rest : List CodePoint) :
    (intercalate "\n" (fs.map (·.source ++ "\n"))).points ++ .char '\n' :: r ≠
      .char 's' :: rest := by
  cases fs with
  | nil => simp [intercalate, Text.ofString]
  | cons f fs =>
    obtain ⟨more, hf⟩ := f.source_begins
    exact intercalate_cons_ne hf (by decide)

theorem points_source : m.source.points =
    ("module " : Text).points ++ (m.address.points ++ .char ':' :: .char ':' ::
      (m.name.points ++ .char ' ' :: .char '\x7b' :: .char '\n' ::
        ((intercalate "\n" (m.structs.map (·.source ++ "\n"))).points ++ .char '\n' ::
          ((intercalate "\n" (m.functions.map (·.source ++ "\n"))).points ++ .char '\n' ::
            [.char '\x7d'])))) := by
  simp [source]

/-- Two well-formed interfaces have the same source exactly if it shows the same of both. -/
theorem source_eq_iff (hm : m.WellFormed) (hm' : m'.WellFormed) :
    m.source = m'.source ↔ m.shown = m'.shown := by
  refine ⟨fun h => ?_, source_eq_of_shown⟩
  have he := congrArg Text.points h
  rw [points_source, points_source] at he
  obtain ⟨haddress, he⟩ := apart_words.append_inj hm.address hm'.address
    (stopsAt_cons (by decide)) (stopsAt_cons (by decide)) (List.append_cancel_left he)
  simp only [List.cons.injEq, true_and] at he
  obtain ⟨hname, he⟩ := apart_words.append_inj hm.name hm'.name
    (stopsAt_cons (by decide)) (stopsAt_cons (by decide)) he
  simp only [List.cons.injEq, true_and] at he
  obtain ⟨hstructs, he⟩ := intercalate_feed_inj Struct.shown (.char 's')
    Struct.source_begins (by decide) (fun s hs s' hs' r r' h => by
      rw [points_append, points_append, List.append_assoc, List.append_assoc] at h
      obtain ⟨hshown, hrest⟩ := Struct.source_inj (hm.structs s hs) (hm'.structs s' hs') h
      exact ⟨hshown, (List.cons.inj (List.cons.inj hrest).2).2⟩)
    (functions_ne m.functions) (functions_ne m'.functions) he
  obtain ⟨hfunctions, -⟩ := intercalate_feed_inj Function.shown (.char 'n')
    Function.source_begins (by decide) (fun f hf f' hf' r r' h => by
      rw [points_append, points_append, List.append_assoc, List.append_assoc] at h
      obtain ⟨hshown, hrest⟩ := Function.source_inj (hm.functions f hf) (hm'.functions f' hf') h
      exact ⟨hshown, (List.cons.inj (List.cons.inj hrest).2).2⟩)
    (by simp) (by simp) he
  simp only [shown, ext_points haddress, ext_points hname, hstructs, hfunctions]

namespace Sample

/-- An interface with what a source shows, and with what it does not. -/
def detailed : Interface where
  address := "0xa"
  name := "market"
  friends := ["0xa::admin"]
  structs := [
    { name := "Offer", abilities := ["copy", "drop"], typeParams := [["store"], []],
      fields := [⟨"price", "Pair<u64, u8>"⟩, ⟨"dummy_field", "bool"⟩], isEvent := true },
    { name := "Closed", abilities := [], typeParams := [], fields := [⟨"dummy_field", "bool"⟩] }]
  functions := [
    { name := "offer", visibility := "public", isEntry := true, isView := false,
      typeParams := [["store"]], params := ["&signer", "Pair<T0, u8>"], returns := [] },
    { name := "best", visibility := "friend", isEntry := false, isView := true,
      typeParams := [], params := [], returns := ["u64", "Pair<u64, u8>"] }]

/-- The same interface with other friends, constraints, flags and padding. -/
def plain : Interface where
  address := "0xa"
  name := "market"
  friends := []
  structs := [
    { name := "Offer", abilities := ["copy", "drop"], typeParams := [[], []],
      fields := [⟨"price", "Pair<u64, u8>"⟩] },
    { name := "Closed", abilities := [], typeParams := [], fields := [], isNative := true }]
  functions := [
    { name := "offer", visibility := "public", isEntry := true, isView := true,
      typeParams := [[]], params := ["&signer", "Pair<T0, u8>"], returns := [] },
    { name := "best", visibility := "private", isEntry := false, isView := false,
      typeParams := [], params := [], returns := ["u64", "Pair<u64, u8>"] }]

end Sample

/-- Interfaces that differ in everything that the source leaves out. -/
theorem source_eq_iff_erased : Sample.detailed.WellFormed ∧ Sample.plain.WellFormed ∧
    Sample.detailed ≠ Sample.plain ∧ Sample.detailed.source = Sample.plain.source := by
  have hdetailed : Sample.detailed.WellFormed := by decide +kernel
  have hplain : Sample.plain.WellFormed := by decide +kernel
  exact ⟨hdetailed, hplain, by decide, (source_eq_iff hdetailed hplain).mpr (by decide)⟩

end MoveSkeleton.Interface
