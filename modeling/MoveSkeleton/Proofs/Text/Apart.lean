import MoveSkeleton.Text.Basic

/-! Words that are told apart by what ends them, and lists that are read back item by item. -/
namespace MoveSkeleton.Text

section
variable {α β γ : Type} {W : List α → Prop} {S : α → Prop} {R : List α → Prop} {a start : α}
  {u v r s : List α}

/-- What begins with a stop. -/
def StopsAt (S : α → Prop) (r : List α) : Prop :=
  ∃ a rest, r = a :: rest ∧ S a

/-- No word with a stop after it is the beginning of another word. -/
def Apart (W : List α → Prop) (S : α → Prop) : Prop :=
  ∀ u v a, W u → W v → S a → ¬ u ++ [a] <+: v

theorem stopsAt_cons (h : S a) : StopsAt S (a :: r) :=
  ⟨a, r, rfl, h⟩

theorem apart_of_notMem (h : ∀ u a, W u → S a → a ∉ u) : Apart W S :=
  fun _ v a _ hv ha hp => h v a hv ha (hp.subset (by simp))

/-- Where stops follow, one word ends where the other does. -/
theorem Apart.append_inj (h : Apart W S) (hu : W u) (hv : W v) (hr : StopsAt S r)
    (hs : StopsAt S s) (he : u ++ r = v ++ s) : u = v ∧ r = s := by
  have hshort : ∀ {u v r s more : List α}, W u → W v → StopsAt S r → v = u ++ more →
      r = more ++ s → u = v ∧ r = s := by
    intro u v r s more hu hv hr hmore hrest
    cases more with
    | nil => exact ⟨by simp [hmore], hrest⟩
    | cons a more =>
      obtain ⟨a', _, hcons, ha⟩ := hr
      obtain ⟨rfl, -⟩ := List.cons.inj (hrest.symm.trans hcons)
      exact absurd ⟨more, by simp [hmore]⟩ (h u v a hu hv ha)
  rcases List.append_eq_append_iff.mp he with ⟨more, hv', hr'⟩ | ⟨more, hu', hs'⟩
  · exact hshort hu hv hr hv' hr'
  · obtain ⟨hvu, hsr⟩ := hshort hv hu hs hu' hs'
    exact ⟨hvu.symm, hsr.symm⟩

/-- What may follow a list of items that all begin with `start`: what may follow an item, and no
further item. -/
structure Closes (start : α) (R : List α → Prop) (r : List α) : Prop where
  follows : R r
  ends : ∀ rest, r ≠ start :: rest

/-- Items that are read one at a time, whatever follows them, are read as a list up to what closes
it. -/
theorem flatMap_append_inj (see : γ → β) (start : α) {write : γ → List α} {xs ys : List γ}
    (hwrite : ∀ x, ∃ rest, write x = start :: rest) (hR : ∀ rest, R (start :: rest))
    (hread : ∀ x ∈ xs, ∀ y ∈ ys, ∀ r s, R r → R s → write x ++ r = write y ++ s →
      see x = see y ∧ r = s)
    (hr : Closes start R r) (hs : Closes start R s)
    (he : xs.flatMap write ++ r = ys.flatMap write ++ s) : xs.map see = ys.map see ∧ r = s := by
  have hfollows : ∀ (zs : List γ) (t : List α), Closes start R t → R (zs.flatMap write ++ t) := by
    intro zs t ht
    cases zs with
    | nil => exact ht.follows
    | cons z zs =>
      obtain ⟨rest, hz⟩ := hwrite z
      rw [List.flatMap_cons, hz]
      exact hR _
  induction xs generalizing ys with
  | nil =>
    cases ys with
    | nil => exact ⟨rfl, he⟩
    | cons y ys =>
      obtain ⟨rest, hy⟩ := hwrite y
      exact absurd (by simpa [hy] using he) (hr.ends (rest ++ (ys.flatMap write ++ s)))
  | cons x xs ih =>
    cases ys with
    | nil =>
      obtain ⟨rest, hx⟩ := hwrite x
      exact absurd (by simpa [hx] using he.symm) (hs.ends (rest ++ (xs.flatMap write ++ r)))
    | cons y ys =>
      rw [List.flatMap_cons, List.flatMap_cons, List.append_assoc, List.append_assoc] at he
      obtain ⟨hxy, htail⟩ := hread x List.mem_cons_self y List.mem_cons_self _ _
        (hfollows xs r hr) (hfollows ys s hs) he
      obtain ⟨hxys, hrs⟩ := ih (fun x hx y hy => hread x (List.mem_cons_of_mem _ hx) y
        (List.mem_cons_of_mem _ hy)) htail
      exact ⟨by rw [List.map_cons, List.map_cons, hxy, hxys], hrs⟩

end

theorem ext_points {t u : Text} (h : t.points = u.points) : t = u := by
  cases t
  cases u
  exact congrArg Text.mk h

theorem points_intercalate_cons (separator t : Text) (ts : List Text) :
    (intercalate separator (t :: ts)).points =
      t.points ++ ts.flatMap fun u => separator.points ++ u.points := by
  induction ts generalizing t with
  | nil => simp [intercalate]
  | cons u ts ih => simp [intercalate, ih]

theorem ofString_intercalate (separator : String) (ts : List String) :
    ofString (separator.intercalate ts) = intercalate separator (ts.map ofString) := by
  refine ext_points ?_
  rw [points_ofString, String.toList_intercalate]
  induction ts with
  | nil => rfl
  | cons t ts ih =>
    cases ts with
    | nil => simp [intercalate, List.intercalate]
    | cons u ts =>
      simp only [List.map_cons, intercalate, points_append] at ih ⊢
      rw [← ih]
      simp [List.intercalate]

theorem intercalate_cons_ne {separator t : Text} {ts : List Text} {a b : CodePoint}
    {rest r s : List CodePoint} (ht : t.points = a :: rest) (hne : a ≠ b) :
    (intercalate separator (t :: ts)).points ++ r ≠ b :: s := by
  rw [points_intercalate_cons, ht]
  exact fun h => hne (List.cons.inj h).1

/-- With line feeds between items and one after the last, each item has its own. -/
theorem points_intercalate_feed {α : Type} (write : α → Text) (x : α) (xs : List α)
    (r : List CodePoint) :
    (intercalate "\n" ((x :: xs).map write)).points ++ .char '\n' :: r =
      ((x :: xs).flatMap fun y => (write y).points ++ [.char '\n']) ++ r := by
  rw [List.map_cons, points_intercalate_cons]
  induction xs generalizing x with
  | nil => simp
  | cons y ys ih => simpa using ih y

section
variable {W : List CodePoint → Prop} {S : CodePoint → Prop} {r s : List CodePoint}
  {separator : Text} {close : CodePoint} {more : List CodePoint}

/-- Words are read back from a list of them that holds one at least. -/
theorem Apart.intercalate_cons_inj (hW : Apart W S) (comma : CodePoint)
    (hseparator : separator.points = comma :: more) (hcomma : S comma) (hclose : S close)
    (hne : close ≠ comma) {t u : Text} {ts us : List Text}
    (ht : ∀ x ∈ t :: ts, W x.points) (hu : ∀ x ∈ u :: us, W x.points)
    (he : (intercalate separator (t :: ts)).points ++ close :: r =
      (intercalate separator (u :: us)).points ++ close :: s) : t :: ts = u :: us ∧ r = s := by
  obtain ⟨htw, hts⟩ := List.forall_mem_cons.mp ht
  obtain ⟨huw, hus⟩ := List.forall_mem_cons.mp hu
  have hcloses : ∀ r, Closes comma (StopsAt S) (close :: r) := fun r =>
    ⟨stopsAt_cons hclose, fun rest h => hne (List.cons.inj h).1⟩
  have hfollows : ∀ (ts : List Text) (r : List CodePoint),
      StopsAt S ((ts.flatMap fun x => separator.points ++ x.points) ++ close :: r) := by
    intro ts r
    cases ts with
    | nil => exact stopsAt_cons hclose
    | cons t ts =>
      rw [List.flatMap_cons, hseparator]
      exact stopsAt_cons hcomma
  rw [points_intercalate_cons, points_intercalate_cons, List.append_assoc, List.append_assoc] at he
  obtain ⟨htu, hrest⟩ := hW.append_inj htw huw (hfollows ts r) (hfollows us s) he
  obtain ⟨htus, hrs⟩ := flatMap_append_inj id comma (R := StopsAt S)
    (fun x => ⟨more ++ x.points, by rw [hseparator, List.cons_append]⟩)
    (fun rest => stopsAt_cons hcomma) (fun x hx y hy r s hr hs h => by
      rw [List.append_assoc, List.append_assoc] at h
      obtain ⟨hxy, hrs⟩ := hW.append_inj (hts x hx) (hus y hy) hr hs (List.append_cancel_left h)
      exact ⟨ext_points hxy, hrs⟩) (hcloses r) (hcloses s) hrest
  exact ⟨by rw [ext_points htu, ← List.map_id ts, htus, List.map_id], (List.cons.inj hrs).2⟩

/-- Words are read back from a list of them if none of them begins like what closes it. -/
theorem Apart.intercalate_inj (hW : Apart W S) (comma : CodePoint)
    (hseparator : separator.points = comma :: more) (hcomma : S comma) (hclose : S close)
    (hne : close ≠ comma) (hword : ∀ l, W l → ∃ x rest, l = x :: rest ∧ x ≠ close)
    {ts us : List Text}
    (ht : ∀ x ∈ ts, W x.points) (hu : ∀ x ∈ us, W x.points)
    (he : (intercalate separator ts).points ++ close :: r =
      (intercalate separator us).points ++ close :: s) : ts = us ∧ r = s := by
  have hbegins : ∀ (t : Text) (ts : List Text) (r s : List CodePoint), W t.points →
      (intercalate separator (t :: ts)).points ++ r ≠ close :: s := by
    intro t ts r s ht
    obtain ⟨x, rest, hx, hxc⟩ := hword t.points ht
    exact intercalate_cons_ne hx hxc
  match ts, us with
  | [], [] => exact ⟨rfl, (List.cons.inj he).2⟩
  | [], u :: us => exact absurd he.symm (hbegins u us _ _ (hu u List.mem_cons_self))
  | t :: ts, [] => exact absurd he (hbegins t ts _ _ (ht t List.mem_cons_self))
  | t :: ts, u :: us => exact hW.intercalate_cons_inj comma hseparator hcomma hclose hne ht hu he

/-- Items that begin alike, but not with a line feed, are read back from a list with line feeds
between them and one more after the last. -/
theorem intercalate_feed_inj {α β : Type} (see : α → β) (start : CodePoint) {write : α → Text}
    {xs ys : List α} (hwrite : ∀ x, ∃ rest, (write x).points = start :: rest)
    (hfeed : start ≠ .char '\n')
    (hread : ∀ x ∈ xs, ∀ y ∈ ys, ∀ r s, (write x).points ++ .char '\n' :: r =
      (write y).points ++ .char '\n' :: s → see x = see y ∧ r = s)
    (hr : ∀ rest, r ≠ start :: rest) (hs : ∀ rest, s ≠ start :: rest)
    (he : (intercalate "\n" (xs.map write)).points ++ .char '\n' :: r =
      (intercalate "\n" (ys.map write)).points ++ .char '\n' :: s) :
    xs.map see = ys.map see ∧ r = s := by
  have hbegins : ∀ (x : α) (xs : List α) (r s : List CodePoint),
      (intercalate "\n" ((x :: xs).map write)).points ++ r ≠ .char '\n' :: s := by
    intro x xs r s
    obtain ⟨rest, hx⟩ := hwrite x
    exact intercalate_cons_ne hx hfeed
  match xs, ys with
  | [], [] => exact ⟨rfl, (List.cons.inj he).2⟩
  | [], y :: ys => exact absurd he.symm (hbegins y ys _ _)
  | x :: xs, [] => exact absurd he (hbegins x xs _ _)
  | x :: xs, y :: ys =>
    rw [points_intercalate_feed, points_intercalate_feed] at he
    refine flatMap_append_inj see start (R := fun _ => True) (fun z => ?_)
      (fun _ => trivial) (fun x hx y hy r s _ _ h => hread x hx y hy r s ?_) ⟨trivial, hr⟩
      ⟨trivial, hs⟩ he
    · obtain ⟨rest, hz⟩ := hwrite z
      exact ⟨rest ++ [.char '\n'], by rw [hz, List.cons_append]⟩
    · simpa using h

end

end MoveSkeleton.Text
