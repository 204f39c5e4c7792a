import Mathlib.Data.List.Induction
import Mathlib.Data.List.Nodup
import MoveSkeleton.Entries

/-! Entries put over others: which values they then have, and the order of their keys. -/
namespace MoveSkeleton.Entries

variable {α β : Type} [DecidableEq α]

/-- The entries with others put over them in turn. -/
def update (m : Entries α β) (es : List (α × β)) : Entries α β :=
  es.foldl (fun m e => put m e.1 e.2) m

variable {m : Entries α β} {es fs : List (α × β)} {k k' : α} {v v' : β}

theorem ofList_eq_update (es : List (α × β)) : ofList es = update [] es := rfl

@[simp] theorem update_nil (m : Entries α β) : update m [] = m := rfl

@[simp] theorem update_cons (m : Entries α β) (e : α × β) (es : List (α × β)) :
    update m (e :: es) = update (put m e.1 e.2) es := rfl

theorem update_append : update m (es ++ fs) = update (update m es) fs :=
  List.foldl_append

theorem ofList_append : ofList (es ++ fs) = update (ofList es) fs :=
  update_append

theorem ofList_concat : ofList (es ++ [(k, v)]) = put (ofList es) k v :=
  update_append

/-- The last entry with a key counts, and what was there before only without one. -/
theorem get?_update : get? (update m es) k = (es.reverse.lookup k).or (get? m k) := by
  induction es generalizing m with
  | nil => rfl
  | cons e es ih =>
    have hlast : (if k = e.1 then some e.2 else get? m k) = ([e].lookup k).or (get? m k) := by
      obtain ⟨k', v'⟩ := e
      by_cases hk : k = k'
      · simp [hk]
      · simp [List.lookup_cons, hk, beq_eq_false_iff_ne.mpr hk]
    rw [update_cons, ih, get?_put, hlast, List.reverse_cons, List.lookup_append, Option.or_assoc]

theorem get?_ofList : get? (ofList es) k = es.reverse.lookup k := by
  rw [ofList_eq_update, get?_update]
  exact Option.or_none

/-- The value of a key is that of the last entry with it. -/
theorem get?_ofList_eq_some_iff : get? (ofList es) k = some v ↔
    ∃ before after, es = before ++ (k, v) :: after ∧ k ∉ after.map (·.1) := by
  induction es using List.reverseRecOn with
  | nil => simp [ofList, get?]
  | append_singleton es e ih =>
    obtain ⟨k', v'⟩ := e
    rw [ofList_concat, get?_put]
    constructor
    · intro h
      split at h
      · next hk =>
        obtain rfl := Option.some.inj h
        exact ⟨es, [], by rw [hk], List.not_mem_nil⟩
      · next hk =>
        obtain ⟨before, after, rfl, hafter⟩ := ih.mp h
        exact ⟨before, after ++ [(k', v')], by simp, by simpa [hk] using hafter⟩
    · rintro ⟨before, after, hes, hafter⟩
      rcases List.eq_nil_or_concat after with rfl | ⟨after, e, rfl⟩
      · obtain ⟨-, hlast⟩ := List.append_inj' hes rfl
        obtain ⟨rfl, rfl⟩ := Prod.mk.inj (List.cons.inj hlast).1
        exact if_pos rfl
      · rw [List.concat_eq_append, ← List.cons_append, ← List.append_assoc] at hes
        obtain ⟨rfl, hlast⟩ := List.append_inj' hes rfl
        obtain rfl := (List.cons.inj hlast).1
        rw [List.concat_eq_append, List.map_append, List.mem_append, not_or] at hafter
        have hne : k ≠ k' := fun hk => hafter.2 (hk ▸ List.mem_cons_self)
        rw [if_neg hne]
        exact ih.mpr ⟨before, after, rfl, hafter.1⟩

/-- Keys that were there stay where they are, and the new ones follow in their own order. -/
theorem keys_update [∀ k, Decidable (k ∉ keys m)] :
    keys (update m es) = keys m ++ (keys (ofList es)).filter (· ∉ keys m) := by
  induction es using List.reverseRecOn with
  | nil => exact (List.append_nil _).symm
  | append_singleton es e ih =>
    have hmem : e.1 ∈ keys (update m es) ↔ e.1 ∈ keys m ∨ e.1 ∈ keys (ofList es) := by
      rw [ih]
      by_cases hm : e.1 ∈ keys m <;> simp [hm]
    rw [update_append, update_cons, update_nil, ofList_concat, keys_put, keys_put]
    by_cases hm : e.1 ∈ keys m
    · rw [if_pos (hmem.mpr (.inl hm)), ih]
      split <;> simp [hm]
    · by_cases he : e.1 ∈ keys (ofList es)
      · rw [if_pos (hmem.mpr (.inr he)), if_pos he, ih]
      · rw [if_neg (by simp [hmem, hm, he]), if_neg he, ih]
        simp [hm]

/-- The keys stand in the order in which they first come. -/
theorem keys_ofList [BEq α] [LawfulBEq α] (es : List (α × β)) :
    keys (ofList es) = (es.map (·.1)).eraseDups := by
  induction es using List.reverseRecOn with
  | nil => rfl
  | append_singleton es e ih =>
    have hmem : e.1 ∈ keys (ofList es) ↔ e.1 ∈ es.map (·.1) := by rw [ih, List.mem_eraseDups]
    rw [ofList_concat, keys_put, List.map_append, List.eraseDups_append, ← ih]
    by_cases he : e.1 ∈ es.map (·.1)
    · rw [if_pos (hmem.mpr he)]
      simp [List.removeAll, he]
    · rw [if_neg (mt hmem.mp he)]
      simp [List.removeAll, he, List.eraseDups_cons]

theorem nodup_keys_put (h : (keys m).Nodup) : (keys (put m k v)).Nodup := by
  rw [keys_put]
  split
  · exact h
  · next hk =>
    refine List.nodup_append.mpr ⟨h, List.nodup_singleton k, ?_⟩
    rintro a ha b hb rfl
    exact hk (List.mem_singleton.mp hb ▸ ha)

theorem nodup_keys_update (h : (keys m).Nodup) : (keys (update m es)).Nodup := by
  induction es generalizing m with
  | nil => exact h
  | cons e es ih => exact ih (nodup_keys_put h)

theorem nodup_keys_ofList (es : List (α × β)) : (keys (ofList es)).Nodup :=
  nodup_keys_update List.nodup_nil

theorem put_put : put (put m k v) k v' = put m k v' := by
  induction m with
  | nil => simp [put]
  | cons e m ih => by_cases he : e.1 = k <;> simp [put, he, ih]

/-- A key that is there already keeps its place, so another may be put first. -/
theorem put_comm (hk : k ∈ keys m) (hne : k' ≠ k) :
    put (put m k' v') k v = put (put m k v) k' v' := by
  induction m with
  | nil => exact absurd hk List.not_mem_nil
  | cons e m ih =>
    by_cases he : e.1 = k
    · have he' : e.1 ≠ k' := fun h => hne (h ▸ he)
      simp [put, he, hne.symm]
    · have hm : k ∈ keys m := (List.mem_cons.mp hk).resolve_left (Ne.symm he)
      by_cases he' : e.1 = k'
      · simp [put, he', hne]
      · simp [put, he, he', ih hm]

theorem update_put_of_notMem (hk : k ∈ keys m) (h : k ∉ keys es) :
    update (put m k v) es = put (update m es) k v := by
  induction es generalizing m with
  | nil => rfl
  | cons e es ih =>
    obtain ⟨hne, h⟩ := List.ne_and_not_mem_of_not_mem_cons h
    have hk' : k ∈ keys (put m e.1 e.2) := by
      rw [keys_put]
      split
      · exact hk
      · exact List.mem_append_left _ hk
    rw [update_cons, update_cons, ← put_comm hk (Ne.symm hne), ih hk' h]

theorem mem_keys_put_self : k ∈ keys (put m k v) := by
  rw [keys_put]
  split
  · assumption
  · exact List.mem_append_right _ List.mem_cons_self

/-- To put one more entry into what is put over others is to put it over all. -/
theorem update_put (h : (keys es).Nodup) : update m (put es k v) = put (update m es) k v := by
  induction es generalizing m with
  | nil => rfl
  | cons e es ih =>
    obtain ⟨hnot, h⟩ := List.nodup_cons.mp h
    by_cases he : e.1 = k
    · have hput : put (e :: es) k v = (k, v) :: es := by simp [put, he]
      rw [hput, update_cons, update_cons, he,
        ← update_put_of_notMem mem_keys_put_self (he ▸ hnot), put_put]
    · have hput : put (e :: es) k v = e :: put es k v := by simp [put, he]
      rw [hput, update_cons, update_cons, ih h]

/-- Entries that are first made into a map of their own can be put over others all the same. -/
theorem update_ofList (m : Entries α β) (es : List (α × β)) :
    update m (ofList es) = update m es := by
  induction es using List.reverseRecOn with
  | nil => rfl
  | append_singleton es e ih =>
    rw [ofList_concat, update_put (nodup_keys_ofList es), ih, update_append, update_cons,
      update_nil]

theorem get?_update_ofList :
    get? (update m (ofList es)) k = (get? (ofList es) k).or (get? m k) := by
  rw [update_ofList, get?_update, get?_ofList]

end MoveSkeleton.Entries
