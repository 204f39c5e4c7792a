import MoveSkeleton.Text.Basic

/-! The public interface of a Move module, as a node reports it. -/
namespace MoveSkeleton

namespace Interface

structure Field where
  name : Text
  type : Text
  deriving DecidableEq

/-- Each type parameter is a list of the abilities that it is constrained to. -/
structure Struct where
  name : Text
  abilities : List Text
  typeParams : List (List Text)
  fields : List Field
  isNative : Bool := false
  isEvent : Bool := false
  deriving DecidableEq

structure Function where
  name : Text
  visibility : Text
  isEntry : Bool
  isView : Bool
  typeParams : List (List Text)
  params : List Text
  returns : List Text
  deriving DecidableEq

def Function.isPublic (f : Function) : Bool :=
  f.visibility == "public"

end Interface

structure Interface where
  address : Text
  name : Text
  friends : List Text
  functions : List Interface.Function
  structs : List Interface.Struct
  deriving DecidableEq

end MoveSkeleton
