import MoveSkeleton.Node.Basic
import MoveSkeleton.Proofs.Interface.Matching
import MoveSkeleton.Proofs.Package.Matching

/-! Nodes that tell the same, as far as their answers are read. -/
namespace MoveSkeleton

open Json

namespace Answer

/-- The values of two bodies that match as resources, if resources are read at the address, and as
interfaces, if interfaces are. -/
structure BodyMatches (c : Client) (url : Text) (v w : Json) : Prop where
  resources : ∀ account, url = c.resourcesUrl account →
    Listed (Fielded Resource.FieldsMatch) v w
  interface : ∀ account module, url = c.interfaceUrl account module →
    Fielded (AtField "abi" (Fielded Interface.FieldsMatch)) v w

/-- The same answer twice, or two replies of one status with bodies that match or are not read. -/
inductive Matches (c : Client) (url : Text) : Answer → Answer → Prop
  | same (a : Answer) : Matches c url a a
  | bodies (status : Nat) {body body'} (h : Corresponding (BodyMatches c url) (decode body)
      (decode body')) : Matches c url (.reply status body) (.reply status body')
  | refused {status} (h : ¬ (200 ≤ status ∧ status < 300)) (body body') :
      Matches c url (.reply status body) (.reply status body')

variable {c : Client} {url : Text} {a b : Answer} {v w : Json}

/-- Resources that match are alike, or refused for the same fault. -/
theorem corresponding_resourcesOf (h : Listed (Fielded Resource.FieldsMatch) v w) :
    Corresponding (List.Forall₂ Resource.Alike) (resourcesOf url v) (resourcesOf url w) := by
  cases h with
  | list h => exact (Corresponding.mapM h fun _ _ h => Resource.corresponding_ofJson h).mapError _
  | other hv h =>
    have herror : ∀ {v : Json}, v.kind ≠ .list →
        resourcesOf url v = .error (.malformed url (.notResources v.kind)) := by
      intro v hv
      cases v <;> first | rfl | exact absurd rfl hv
    rw [herror hv, herror (h ▸ hv), h]
    exact .error _

theorem interfaceOf_of_kind (hv : v.kind ≠ .object) :
    interfaceOf url v = .error (.malformed url .noInterface) := by
  cases v <;> first | rfl | exact absurd rfl hv

theorem interfaceOf_object_of_kind {fs : Entries Text Json}
    (hx : ∀ x, Entries.get? fs "abi" = some x → x.kind ≠ .object) :
    interfaceOf url (.object fs) = .error (.malformed url .noInterface) := by
  unfold interfaceOf
  split
  · next hobject =>
    cases hobject
    split
    · next h => exact absurd rfl (hx _ h)
    · rfl
  · next hother => exact absurd rfl (hother fs)

/-- Interfaces that match have the same source text, or are refused for the same fault. -/
theorem corresponding_interfaceOf
    (h : Fielded (AtField "abi" (Fielded Interface.FieldsMatch)) v w) :
    Corresponding (fun m k => m.source = k.source) (interfaceOf url v) (interfaceOf url w) := by
  cases h with
  | other hv h =>
    rw [interfaceOf_of_kind hv, interfaceOf_of_kind (h ▸ hv)]
    exact .error _
  | @object fs gs h =>
    unfold AtField at h
    rcases hx : Entries.get? fs "abi" with _ | x <;> rcases hy : Entries.get? gs "abi" with _ | y <;>
      rw [hx, hy] at h <;> cases h
    · rw [interfaceOf_object_of_kind (by simp [hx]), interfaceOf_object_of_kind (by simp [hy])]
      exact .error _
    · next h =>
      cases h with
      | object h =>
        simp only [interfaceOf, hx, hy]
        exact (Interface.corresponding_ofJson (.object h)).mapError _
      | other hv h =>
        rw [interfaceOf_object_of_kind (by simpa [hx] using hv),
          interfaceOf_object_of_kind (by simpa [hy, h] using hv)]
        exact .error _

/-- Whatever is made of a value, it is the same for answers that match, if it is for values that
do. -/
theorem Matches.map_valueAt {β : Type} (h : Matches c url a b) (f : Except Failure Json → β)
    (hf : ∀ v w, BodyMatches c url v w → f (.ok v) = f (.ok w)) :
    f (a.valueAt url) = f (b.valueAt url) := by
  have hreply : ∀ {status : Nat} {body body' : ByteArray},
      f ((reply status body).value url) = f ((reply status body').value url) →
        f ((reply status body).valueAt url) = f ((reply status body').valueAt url) := by
    intro status body body' h
    unfold valueAt
    cases Address.relative? url with
    | some path => rfl
    | none => exact h
  cases h with
  | same => rfl
  | @bodies status body body' h =>
    refine hreply ?_
    simp only [value]
    generalize decode body = x, decode body' = y at h
    by_cases hs : 200 ≤ status ∧ status < 300
    · rw [if_pos hs, if_pos hs]
      cases h with
      | ok h => exact hf _ _ h
      | error e => rfl
    · rw [if_neg hs, if_neg hs]
  | refused hs => exact hreply (by simp only [value, if_neg hs])

end Answer

namespace Node

/-- At every address the nodes give answers that match, one after the other. -/
def Matches (c : Client) (n m : Node) : Prop :=
  ∀ url, Option.Rel (List.Forall₂ (Answer.Matches c url)) (Entries.get? n url) (Entries.get? m url)

variable {c : Client} {n m : Node}

theorem matches_of_forall₂ (h : List.Forall₂ (fun e f => e.1 = f.1 ∧
    List.Forall₂ (Answer.Matches c e.1) e.2 f.2) n m) : Node.Matches c n m := by
  intro url
  induction h with
  | nil => exact .none
  | @cons e f _ _ hef _ ih =>
    obtain ⟨hurl, hanswers⟩ := hef
    unfold Entries.get? at ih ⊢
    rw [List.lookup_cons, List.lookup_cons, ← hurl]
    by_cases hu : url = e.1
    · rw [beq_iff_eq.mpr hu]
      exact .some (hu ▸ hanswers)
    · rw [beq_eq_false_iff_ne.mpr hu]
      exact ih

/-- The answers match, and the nodes match afterwards. -/
theorem Matches.ask (h : Node.Matches c n m) (url : Text) :
    Answer.Matches c url (n.ask url).1 (m.ask url).1 ∧
      Node.Matches c (n.ask url).2 (m.ask url).2 := by
  have hurl := h url
  unfold Node.ask
  generalize hx : Entries.get? n url = x, hy : Entries.get? m url = y at hurl
  cases hurl with
  | none => exact ⟨.same _, h⟩
  | some h' =>
    cases h' with
    | nil => exact ⟨.same _, h⟩
    | cons ha hrest =>
      cases hrest with
      | nil => exact ⟨ha, h⟩
      | cons hb hrest =>
        refine ⟨ha, fun url' => ?_⟩
        rw [Entries.get?_put, Entries.get?_put]
        split
        · next hu => exact .some (hu ▸ .cons hb hrest)
        · exact h url'

end Node

end MoveSkeleton
