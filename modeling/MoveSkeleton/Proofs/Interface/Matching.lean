import MoveSkeleton.Interface.Reading
import MoveSkeleton.Interface.Source
import MoveSkeleton.Proofs.Json.Matching

/-! Module interfaces of which the same source text is made. Friends, the constraints of type
parameters, and whether something is a view, native or an event are left out of it. -/
namespace MoveSkeleton.Interface

open Json

structure Field.FieldsMatch (fs gs : Entries Text Json) : Prop where
  name : AtField "name" SameText fs gs
  type : AtField "type" SameText fs gs

/-- The constraints of a type parameter do not matter. -/
def ParamMatches (v w : Json) : Prop :=
  AcceptedAlike (constraints "generic_type_params" v) (constraints "generic_type_params" w)

structure Struct.FieldsMatch (fs gs : Entries Text Json) : Prop where
  name : AtField "name" SameText fs gs
  abilities : AtField "abilities" (Listed SameItem) fs gs
  typeParams : AtField "generic_type_params" (Listed ParamMatches) fs gs
  fields : AtField "fields" (Listed (Fielded Field.FieldsMatch)) fs gs

/-- A function without a visibility is private. -/
def Function.visibilityOf (fs : Entries Text Json) : Text :=
  ((Entries.get? fs "visibility").map asText).getD "private"

/-- Of the visibility it matters whether it is public, and of `is_entry` whether it counts as
true. -/
structure Function.FieldsMatch (fs gs : Entries Text Json) : Prop where
  name : AtField "name" SameText fs gs
  visibility : visibilityOf fs = "public" ↔ visibilityOf gs = "public"
  entry : ((Entries.get? fs "is_entry").map truthy).getD false =
    ((Entries.get? gs "is_entry").map truthy).getD false
  typeParams : AtField "generic_type_params" (Listed ParamMatches) fs gs
  params : AtField "params" (Listed SameItem) fs gs
  returns : AtField "return" (Listed SameItem) fs gs

structure FieldsMatch (fs gs : Entries Text Json) : Prop where
  address : AtField "address" SameText fs gs
  name : AtField "name" SameText fs gs
  friends : AcceptedAlike ((object fs).fieldTexts "friends") ((object gs).fieldTexts "friends")
  functions : AtField "exposed_functions" (Listed (Fielded Function.FieldsMatch)) fs gs
  structs : AtField "structs" (Listed (Fielded Struct.FieldsMatch)) fs gs

section
variable (fs gs : Entries Text Json)

instance : Decidable (Field.FieldsMatch fs gs) :=
  decidable_of_iff (_ ∧ _) ⟨fun h => ⟨h.1, h.2⟩, fun h => ⟨h.name, h.type⟩⟩

instance (v w : Json) : Decidable (ParamMatches v w) :=
  inferInstanceAs (Decidable (Corresponding ..))

instance : Decidable (Struct.FieldsMatch fs gs) :=
  decidable_of_iff (_ ∧ _ ∧ _ ∧ _) ⟨fun ⟨hn, ha, ht, hf⟩ => ⟨hn, ha, ht, hf⟩,
    fun h => ⟨h.name, h.abilities, h.typeParams, h.fields⟩⟩

instance : Decidable (Function.FieldsMatch fs gs) :=
  decidable_of_iff (_ ∧ _ ∧ _ ∧ _ ∧ _ ∧ _)
    ⟨fun ⟨hn, hv, he, ht, hp, hr⟩ => ⟨hn, hv, he, ht, hp, hr⟩,
      fun h => ⟨h.name, h.visibility, h.entry, h.typeParams, h.params, h.returns⟩⟩

instance : Decidable (FieldsMatch fs gs) :=
  decidable_of_iff (_ ∧ _ ∧ _ ∧ _ ∧ _) ⟨fun ⟨ha, hn, hr, hf, hs⟩ => ⟨ha, hn, hr, hf, hs⟩,
    fun h => ⟨h.address, h.name, h.friends, h.functions, h.structs⟩⟩

end

variable {F : Entries Text Json → Entries Text Json → Prop} {v w : Json}

theorem Field.corresponding_ofJson (h : Fielded Field.FieldsMatch v w) :
    Corresponding Eq (Field.ofJson v) (Field.ofJson w) :=
  (h.fieldText fun _ _ h => h.name).bind fun _ _ hname =>
    (h.fieldText fun _ _ h => h.type).bind fun _ _ htype => hname ▸ htype ▸ .ok rfl

/-- There are as many type parameters. -/
theorem corresponding_typeParamsOf (h : Fielded F v w)
    (hf : ∀ fs gs, F fs gs → AtField "generic_type_params" (Listed ParamMatches) fs gs) :
    Corresponding (fun ps qs => ps.length = qs.length) (typeParamsOf v) (typeParamsOf w) :=
  (h.fieldItems hf).bind fun _ _ h =>
    (Corresponding.mapM h fun _ _ h => h).mono fun _ _ h => h.length_eq

theorem Struct.corresponding_ofJson (h : Fielded Struct.FieldsMatch v w) :
    Corresponding (fun s t => s.source = t.source) (Struct.ofJson v) (Struct.ofJson w) := by
  unfold Struct.ofJson
  refine (h.fieldText fun _ _ h => h.name).bind fun _ _ hname => ?_
  refine (h.fieldTexts fun _ _ h => h.abilities).bind fun _ _ habilities => ?_
  refine (corresponding_typeParamsOf h fun _ _ h => h.typeParams).bind fun _ _ hparams => ?_
  refine (h.fieldItems fun _ _ h => h.fields).bind fun _ _ hitems => ?_
  refine (Corresponding.mapM_eq hitems fun _ _ h => Field.corresponding_ofJson h).bind
    fun _ _ hfields => ?_
  refine (h.fieldTruthy (P := fun _ _ => True) fun _ _ _ => trivial).bind fun _ _ _ => ?_
  refine (h.fieldTruthy (P := fun _ _ => True) fun _ _ _ => trivial).bind fun _ _ _ => .ok ?_
  subst hname habilities hfields
  simp only [source, abilitiesSource, shownFields, hparams]

theorem Function.corresponding_ofJson (h : Fielded Function.FieldsMatch v w) :
    Corresponding (fun f g => f.source = g.source) (Function.ofJson v) (Function.ofJson w) := by
  unfold Function.ofJson
  refine (h.fieldText fun _ _ h => h.name).bind fun _ _ hname => ?_
  refine (h.field? (P := fun x y => (x.map asText).getD "private" = "public" ↔
    (y.map asText).getD "private" = "public") fun _ _ h => h.visibility).bind fun _ _ hpublic => ?_
  refine (h.fieldTruthy fun _ _ h => h.entry).bind fun _ _ hentry => ?_
  refine (h.fieldTruthy (P := fun _ _ => True) fun _ _ _ => trivial).bind fun _ _ _ => ?_
  refine (corresponding_typeParamsOf h fun _ _ h => h.typeParams).bind fun _ _ htypeParams => ?_
  refine (h.fieldTexts fun _ _ h => h.params).bind fun _ _ hparams => ?_
  refine (h.fieldTexts fun _ _ h => h.returns).bind fun _ _ hreturns => .ok ?_
  subst hname hentry hparams hreturns
  simp only [source, isPublic, paramsSource, returnsSource, htypeParams, beq_iff_eq, hpublic]

/-- Interfaces that match in what is made a source of come to the same source text, or are refused
for the same fault. -/
theorem corresponding_ofJson (h : Fielded FieldsMatch v w) :
    Corresponding (fun m k => m.source = k.source) (ofJson v) (ofJson w) := by
  unfold ofJson
  refine (h.fieldText fun _ _ h => h.address).bind fun _ _ haddress => ?_
  refine (h.fieldText fun _ _ h => h.name).bind fun _ _ hname => ?_
  refine (h.acceptedTexts fun _ _ h => h.friends).bind fun _ _ _ => ?_
  refine (h.fieldItems fun _ _ h => h.functions).bind fun _ _ hitems => ?_
  refine (Corresponding.mapM hitems fun _ _ h => Function.corresponding_ofJson h).bind
    fun _ _ hfunctions => ?_
  refine (h.fieldItems fun _ _ h => h.structs).bind fun _ _ hitems => ?_
  refine (Corresponding.mapM hitems fun _ _ h => Struct.corresponding_ofJson h).bind
    fun _ _ hstructs => .ok ?_
  subst haddress hname
  unfold Interface.source
  dsimp only
  rw [map_eq_of_forall₂ hfunctions fun _ _ h => congrArg (· ++ ("\n" : Text)) h,
    map_eq_of_forall₂ hstructs fun _ _ h => congrArg (· ++ ("\n" : Text)) h]

end MoveSkeleton.Interface
