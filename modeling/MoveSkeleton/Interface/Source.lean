import MoveSkeleton.Interface.Basic

/-! Move source text with the declarations of an interface. An interface tells types only, so type
parameters are named `T0`, `T1`, …, parameters `arg0`, `arg1`, …, and every function is native. -/
namespace MoveSkeleton.Interface

/-- The compiler puts a field of this name into a struct without fields. It is left out. -/
def paddingField : Text := "dummy_field"

def genericParams (count : Int) : String :=
  if count ≤ 0 then ""
  else
    let names := (List.range count.toNat).map fun i => s!"T{i}"
    "<" ++ String.intercalate ", " names ++ ">"

def Field.source (f : Field) : Text :=
  "    " ++ f.name ++ ": " ++ f.type ++ ","

def Struct.abilitiesSource (s : Struct) : Text :=
  if s.abilities.isEmpty then "" else " has " ++ Text.intercalate ", " s.abilities

def Struct.shownFields (s : Struct) : List Field :=
  s.fields.filter (·.name ≠ paddingField)

def Struct.source (s : Struct) : Text :=
  "struct " ++ s.name ++ genericParams s.typeParams.length ++ s.abilitiesSource ++ " \x7b\n" ++
    Text.intercalate "\n" (s.shownFields.map Field.source) ++ "\n\x7d"

def Function.paramsSource (f : Function) : Text :=
  Text.intercalate ", " (f.params.mapIdx fun i t => s!"arg{i}: " ++ t)

def Function.returnsSource (f : Function) : Text :=
  if f.returns.isEmpty then "" else ": (" ++ Text.intercalate ", " f.returns ++ ")"

def Function.source (f : Function) : Text :=
  "native " ++ (if f.isEntry then "entry " else "") ++ (if f.isPublic then "public " else "") ++
    "fun " ++ f.name ++ genericParams f.typeParams.length ++ "(" ++ f.paramsSource ++ ")" ++
    f.returnsSource ++ " ;"

def source (m : Interface) : Text :=
  "module " ++ m.address ++ "::" ++ m.name ++ " \x7b\n" ++
    Text.intercalate "\n" (m.structs.map (·.source ++ "\n")) ++ "\n" ++
    Text.intercalate "\n" (m.functions.map (·.source ++ "\n")) ++ "\n\x7d"

end MoveSkeleton.Interface
