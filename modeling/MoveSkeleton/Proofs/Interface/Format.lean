import MoveSkeleton.Interface.Reading
import MoveSkeleton.Proofs.Json.Shape

/-! The format of an interface: which values are read as the interface of a module, and what is read
from them. -/
namespace MoveSkeleton

namespace Json

def IsText : Json → Prop
  | .text _ => True
  | _ => False

/-- The field holds a list of texts, which are `ts`. If it is absent, there are none. -/
def TextsAt (name : Text) : Entries Text Json → List Text → Prop :=
  ItemsAt name fun x t => x = .text t

/-- Whether the field holds a value that counts as true. -/
def TruthAt (name : Text) (fields : Entries Text Json) (b : Bool) : Prop :=
  ((Entries.get? fields name).map truthy).getD false = b

variable {fields : Entries Text Json} {v : Json} {ts : List Text} {what : String}

instance : DecidablePred IsText
  | .text _ => inferInstanceAs (Decidable True)
  | .null | .bool _ | .int _ | .float _ | .list _ | .object _ => inferInstanceAs (Decidable False)

theorem isText_iff : IsText v ↔ ∃ t, v = .text t := by
  cases v <;> simp [IsText]

theorem itemText_eq_ok_iff {t : Text} : v.itemText what = .ok t ↔ v = .text t := by
  cases v <;> simp [itemText]

theorem texts_eq_ok_iff : v.texts what = .ok ts ↔
    ∃ items, v = .list items ∧ List.Forall₂ (fun x t => x = .text t) items ts := by
  simp only [texts, bind_eq_ok_iff, items_eq_ok_iff, mapM_eq_ok_iff, itemText_eq_ok_iff]

theorem fieldTexts_object_eq_ok_iff {name : String} :
    (object fields).fieldTexts name = .ok ts ↔ TextsAt name fields ts := by
  have hread : (object fields).fieldTexts name =
      ((Entries.get? fields name).getD (.list [])).texts name := by
    simp only [fieldTexts, field?, bind, Except.bind]
    cases Entries.get? fields name <;> rfl
  rw [hread, texts_eq_ok_iff]
  rfl

theorem fieldTruthy_object_eq_ok_iff {name : Text} {b : Bool} :
    (object fields).fieldTruthy name = .ok b ↔ TruthAt name fields b :=
  ⟨fun h => Except.ok.inj h, fun h => congrArg Except.ok h⟩

theorem allows_texts_iff {name : Text} :
    Allows name (ListOf IsText) fields ↔ ∃ ts, TextsAt name fields ts :=
  allows_listOf_iff fun _ => isText_iff

end Json

namespace Interface

open Json

variable {fields : Entries Text Json} {v : Json}

/-- A type parameter that is an object has texts for constraints, if it has any. -/
def TypeParamFormat : Json → Prop
  | .object fields => Allows "constraints" (ListOf IsText) fields
  | _ => True

def TypeParamReads : Json → List Text → Prop
  | .object fields, constraints => TextsAt "constraints" fields constraints
  | _, constraints => constraints = []

instance : DecidablePred TypeParamFormat
  | .object fields => inferInstanceAs (Decidable (Allows "constraints" (ListOf IsText) fields))
  | .null | .bool _ | .int _ | .float _ | .text _ | .list _ => inferInstanceAs (Decidable True)

theorem typeParamFormat_iff : TypeParamFormat v ↔ ∃ constraints, TypeParamReads v constraints := by
  cases v with
  | object fields => exact allows_texts_iff
  | _ => exact iff_of_true trivial ⟨[], rfl⟩

theorem constraints_eq_ok_iff {what : String} {ts : List Text} :
    constraints what v = .ok ts ↔ TypeParamReads v ts := by
  cases v with
  | object fields =>
    have hread : constraints what (.object fields) =
        ((Entries.get? fields "constraints").getD (.list [])).texts (what ++ ".constraints") := by
      simp only [constraints]
      cases Entries.get? fields "constraints" <;> rfl
    rw [hread, texts_eq_ok_iff]
    rfl
  | _ => exact ⟨fun h => (Except.ok.inj h).symm, fun h => congrArg Except.ok h.symm⟩

/-- The type parameters of a function or a struct, which may be absent. -/
def TypeParamsAt : Entries Text Json → List (List Text) → Prop :=
  ItemsAt "generic_type_params" TypeParamReads

theorem typeParamsOf_eq_ok_iff {ps : List (List Text)} :
    typeParamsOf (.object fields) = .ok ps ↔ TypeParamsAt fields ps := by
  rw [typeParamsOf, bind_eq_ok_iff]
  exact (itemsAt_iff fun _ _ => constraints_eq_ok_iff).symm

theorem allows_typeParams_iff :
    Allows "generic_type_params" (ListOf TypeParamFormat) fields ↔ ∃ ps, TypeParamsAt fields ps :=
  allows_listOf_iff fun _ => typeParamFormat_iff

namespace Field

/-- Both of its texts are there. -/
structure Format (fields : Entries Text Json) : Prop where
  name : Requires "name" fields
  type : Requires "type" fields

instance : DecidablePred Format := fun fields =>
  decidable_of_iff (Requires "name" fields ∧ Requires "type" fields)
    ⟨fun h => ⟨h.1, h.2⟩, fun h => ⟨h.name, h.type⟩⟩

structure Reads (fields : Entries Text Json) (f : Field) : Prop where
  name : TextAt "name" fields f.name
  type : TextAt "type" fields f.type

theorem format_iff : Format fields ↔ ∃ f, Reads fields f := by
  constructor
  · rintro ⟨hname, htype⟩
    obtain ⟨name, hname⟩ := requires_iff.mp hname
    obtain ⟨type, htype⟩ := requires_iff.mp htype
    exact ⟨⟨name, type⟩, hname, htype⟩
  · rintro ⟨f, h⟩
    exact ⟨requires_iff.mpr ⟨_, h.name⟩, requires_iff.mpr ⟨_, h.type⟩⟩

theorem ofJson_eq_ok_iff {f : Field} : ofJson v = .ok f ↔ FromObject Reads v f := by
  cases v with
  | object fields =>
    simp only [ofJson, bind_eq_ok_iff, fieldText_object_eq_ok_iff]
    constructor
    · rintro ⟨name, hname, type, htype, h⟩
      obtain rfl := Except.ok.inj h
      exact ⟨hname, htype⟩
    · rintro ⟨hname, htype⟩
      exact ⟨_, hname, _, htype, rfl⟩
  | _ => exact iff_of_false (fun h => by cases h) id

end Field

namespace Struct

/-- A struct has a name; all else may be absent. -/
structure Format (fields : Entries Text Json) : Prop where
  name : Requires "name" fields
  abilities : Allows "abilities" (ListOf IsText) fields
  typeParams : Allows "generic_type_params" (ListOf TypeParamFormat) fields
  members : Allows "fields" (ListOf (ObjectWith Field.Format)) fields

instance : DecidablePred Format := fun fields =>
  decidable_of_iff (Requires "name" fields ∧ Allows "abilities" (ListOf IsText) fields ∧
      Allows "generic_type_params" (ListOf TypeParamFormat) fields ∧
      Allows "fields" (ListOf (ObjectWith Field.Format)) fields)
    ⟨fun ⟨hn, ha, ht, hm⟩ => ⟨hn, ha, ht, hm⟩,
      fun h => ⟨h.name, h.abilities, h.typeParams, h.members⟩⟩

structure Reads (fields : Entries Text Json) (s : Struct) : Prop where
  name : TextAt "name" fields s.name
  abilities : TextsAt "abilities" fields s.abilities
  typeParams : TypeParamsAt fields s.typeParams
  members : ItemsAt "fields" (FromObject Field.Reads) fields s.fields
  isNative : TruthAt "is_native" fields s.isNative
  isEvent : TruthAt "is_event" fields s.isEvent

theorem format_iff : Format fields ↔ ∃ s, Reads fields s := by
  have hfields : Allows "fields" (ListOf (ObjectWith Field.Format)) fields ↔
      ∃ ys, ItemsAt "fields" (FromObject Field.Reads) fields ys :=
    allows_listOf_iff fun _ => objectWith_iff_exists fun _ => Field.format_iff
  constructor
  · rintro ⟨hname, habilities, htypeParams, hf⟩
    obtain ⟨name, hname⟩ := requires_iff.mp hname
    obtain ⟨abilities, habilities⟩ := allows_texts_iff.mp habilities
    obtain ⟨typeParams, htypeParams⟩ := allows_typeParams_iff.mp htypeParams
    obtain ⟨fs, hf⟩ := hfields.mp hf
    exact ⟨⟨name, abilities, typeParams, fs, _, _⟩, hname, habilities, htypeParams, hf, rfl, rfl⟩
  · rintro ⟨s, h⟩
    exact {
      name := requires_iff.mpr ⟨_, h.name⟩
      abilities := allows_texts_iff.mpr ⟨_, h.abilities⟩
      typeParams := allows_typeParams_iff.mpr ⟨_, h.typeParams⟩
      members := hfields.mpr ⟨_, h.members⟩ }

theorem ofJson_eq_ok_iff {s : Struct} : ofJson v = .ok s ↔ FromObject Reads v s := by
  cases v with
  | object fields =>
    simp only [ofJson, bind_eq_ok_iff, fieldText_object_eq_ok_iff, fieldTexts_object_eq_ok_iff,
      typeParamsOf_eq_ok_iff, fieldTruthy_object_eq_ok_iff]
    constructor
    · rintro ⟨name, hname, abilities, habilities, typeParams, htypeParams, items, hitems, fs, hf,
        isNative, hnative, isEvent, hevent, h⟩
      obtain rfl := Except.ok.inj h
      exact {
        name := hname
        abilities := habilities
        typeParams := htypeParams
        members := (itemsAt_iff fun _ _ => Field.ofJson_eq_ok_iff).mpr ⟨items, hitems, hf⟩
        isNative := hnative
        isEvent := hevent }
    · rintro ⟨hname, habilities, htypeParams, hf, hnative, hevent⟩
      obtain ⟨items, hitems, hf⟩ := (itemsAt_iff fun _ _ => Field.ofJson_eq_ok_iff).mp hf
      exact ⟨_, hname, _, habilities, _, htypeParams, items, hitems, _, hf, _, hnative, _, hevent,
        rfl⟩
  | _ => exact iff_of_false (fun h => by cases h) id

end Struct

namespace Function

/-- A function has a name; all else may be absent. -/
structure Format (fields : Entries Text Json) : Prop where
  name : Requires "name" fields
  typeParams : Allows "generic_type_params" (ListOf TypeParamFormat) fields
  params : Allows "params" (ListOf IsText) fields
  returns : Allows "return" (ListOf IsText) fields

instance : DecidablePred Format := fun fields =>
  decidable_of_iff (Requires "name" fields ∧
      Allows "generic_type_params" (ListOf TypeParamFormat) fields ∧
      Allows "params" (ListOf IsText) fields ∧ Allows "return" (ListOf IsText) fields)
    ⟨fun ⟨hn, ht, hp, hr⟩ => ⟨hn, ht, hp, hr⟩, fun h => ⟨h.name, h.typeParams, h.params, h.returns⟩⟩

structure Reads (fields : Entries Text Json) (f : Function) : Prop where
  name : TextAt "name" fields f.name
  visibility : ((Entries.get? fields "visibility").map asText).getD "private" = f.visibility
  isEntry : TruthAt "is_entry" fields f.isEntry
  isView : TruthAt "is_view" fields f.isView
  typeParams : TypeParamsAt fields f.typeParams
  params : TextsAt "params" fields f.params
  returns : TextsAt "return" fields f.returns

theorem format_iff : Format fields ↔ ∃ f, Reads fields f := by
  constructor
  · rintro ⟨hname, htypeParams, hparams, hreturns⟩
    obtain ⟨name, hname⟩ := requires_iff.mp hname
    obtain ⟨typeParams, htypeParams⟩ := allows_typeParams_iff.mp htypeParams
    obtain ⟨params, hparams⟩ := allows_texts_iff.mp hparams
    obtain ⟨returns, hreturns⟩ := allows_texts_iff.mp hreturns
    exact ⟨⟨name, _, _, _, typeParams, params, returns⟩, hname, rfl, rfl, rfl, htypeParams, hparams,
      hreturns⟩
  · rintro ⟨f, h⟩
    exact {
      name := requires_iff.mpr ⟨_, h.name⟩
      typeParams := allows_typeParams_iff.mpr ⟨_, h.typeParams⟩
      params := allows_texts_iff.mpr ⟨_, h.params⟩
      returns := allows_texts_iff.mpr ⟨_, h.returns⟩ }

theorem ofJson_eq_ok_iff {f : Function} : ofJson v = .ok f ↔ FromObject Reads v f := by
  cases v with
  | object fields =>
    simp only [ofJson, bind_eq_ok_iff, fieldText_object_eq_ok_iff, fieldTexts_object_eq_ok_iff,
      typeParamsOf_eq_ok_iff, fieldTruthy_object_eq_ok_iff]
    constructor
    · rintro ⟨name, hname, visibility, hvisibility, isEntry, hentry, isView, hview, typeParams,
        htypeParams, params, hparams, returns, hreturns, h⟩
      obtain rfl := Except.ok.inj hvisibility
      obtain rfl := Except.ok.inj h
      exact ⟨hname, rfl, hentry, hview, htypeParams, hparams, hreturns⟩
    · rintro ⟨hname, hvisibility, hentry, hview, htypeParams, hparams, hreturns⟩
      refine ⟨_, hname, _, rfl, _, hentry, _, hview, _, htypeParams, _, hparams, _, hreturns, ?_⟩
      rw [hvisibility]
      rfl
  | _ => exact iff_of_false (fun h => by cases h) id

end Function

/-- An interface has an address and a name; friends, functions and structs may be absent. -/
structure Format (fields : Entries Text Json) : Prop where
  address : Requires "address" fields
  name : Requires "name" fields
  friends : Allows "friends" (ListOf IsText) fields
  functions : Allows "exposed_functions" (ListOf (ObjectWith Function.Format)) fields
  structs : Allows "structs" (ListOf (ObjectWith Struct.Format)) fields

instance : DecidablePred Format := fun fields =>
  decidable_of_iff (Requires "address" fields ∧ Requires "name" fields ∧
      Allows "friends" (ListOf IsText) fields ∧
      Allows "exposed_functions" (ListOf (ObjectWith Function.Format)) fields ∧
      Allows "structs" (ListOf (ObjectWith Struct.Format)) fields)
    ⟨fun ⟨ha, hn, hr, hf, hs⟩ => ⟨ha, hn, hr, hf, hs⟩,
      fun h => ⟨h.address, h.name, h.friends, h.functions, h.structs⟩⟩

structure Reads (fields : Entries Text Json) (m : Interface) : Prop where
  address : TextAt "address" fields m.address
  name : TextAt "name" fields m.name
  friends : TextsAt "friends" fields m.friends
  functions : ItemsAt "exposed_functions" (FromObject Function.Reads) fields m.functions
  structs : ItemsAt "structs" (FromObject Struct.Reads) fields m.structs

theorem format_iff : Format fields ↔ ∃ m, Reads fields m := by
  have hfunctions : Allows "exposed_functions" (ListOf (ObjectWith Function.Format)) fields ↔
      ∃ ys, ItemsAt "exposed_functions" (FromObject Function.Reads) fields ys :=
    allows_listOf_iff fun _ => objectWith_iff_exists fun _ => Function.format_iff
  have hstructs : Allows "structs" (ListOf (ObjectWith Struct.Format)) fields ↔
      ∃ ys, ItemsAt "structs" (FromObject Struct.Reads) fields ys :=
    allows_listOf_iff fun _ => objectWith_iff_exists fun _ => Struct.format_iff
  constructor
  · rintro ⟨haddress, hname, hfriends, hf, hs⟩
    obtain ⟨address, haddress⟩ := requires_iff.mp haddress
    obtain ⟨name, hname⟩ := requires_iff.mp hname
    obtain ⟨friends, hfriends⟩ := allows_texts_iff.mp hfriends
    obtain ⟨functions, hf⟩ := hfunctions.mp hf
    obtain ⟨structs, hs⟩ := hstructs.mp hs
    exact ⟨⟨address, name, friends, functions, structs⟩, haddress, hname, hfriends, hf, hs⟩
  · rintro ⟨m, h⟩
    exact {
      address := requires_iff.mpr ⟨_, h.address⟩
      name := requires_iff.mpr ⟨_, h.name⟩
      friends := allows_texts_iff.mpr ⟨_, h.friends⟩
      functions := hfunctions.mpr ⟨_, h.functions⟩
      structs := hstructs.mpr ⟨_, h.structs⟩ }

theorem ofJson_eq_ok_iff {m : Interface} : ofJson v = .ok m ↔ FromObject Reads v m := by
  cases v with
  | object fields =>
    simp only [ofJson, bind_eq_ok_iff, fieldText_object_eq_ok_iff, fieldTexts_object_eq_ok_iff]
    constructor
    · rintro ⟨address, haddress, name, hname, friends, hfriends, items, hitems, functions, hf,
        items', hitems', structs, hs, h⟩
      obtain rfl := Except.ok.inj h
      exact {
        address := haddress
        name := hname
        friends := hfriends
        functions := (itemsAt_iff fun _ _ => Function.ofJson_eq_ok_iff).mpr ⟨items, hitems, hf⟩
        structs := (itemsAt_iff fun _ _ => Struct.ofJson_eq_ok_iff).mpr ⟨items', hitems', hs⟩ }
    · rintro ⟨haddress, hname, hfriends, hf, hs⟩
      obtain ⟨items, hitems, hf⟩ := (itemsAt_iff fun _ _ => Function.ofJson_eq_ok_iff).mp hf
      obtain ⟨items', hitems', hs⟩ := (itemsAt_iff fun _ _ => Struct.ofJson_eq_ok_iff).mp hs
      exact ⟨_, haddress, _, hname, _, hfriends, items, hitems, _, hf, items', hitems', _, hs, rfl⟩
  | _ => exact iff_of_false (fun h => by cases h) id

end Interface

end MoveSkeleton
