import MoveSkeleton.Entries
import MoveSkeleton.Number.Double
import MoveSkeleton.Text.Basic

/-! JSON values. -/
namespace MoveSkeleton

/-- Whole numbers are exact and of any size. A number written with a fraction or an exponent is a
double. The fields of an object keep their order. -/
inductive Json where
  | null
  | bool (value : Bool)
  | int (value : Int)
  | float (value : Double)
  | text (value : Text)
  | list (items : List Json)
  | object (fields : List (Text × Json))
  deriving Inhabited

namespace Json

inductive Kind where
  | null
  | bool
  | int
  | float
  | text
  | list
  | object
  deriving DecidableEq

def Kind.name : Kind → String
  | .null => "NoneType"
  | .bool => "bool"
  | .int => "int"
  | .float => "float"
  | .text => "str"
  | .list => "list"
  | .object => "dict"

def kind : Json → Kind
  | .null => .null
  | .bool _ => .bool
  | .int _ => .int
  | .float _ => .float
  | .text _ => .text
  | .list _ => .list
  | .object _ => .object

def truthy : Json → Bool
  | .null => false
  | .bool b => b
  | .int n => n != 0
  | .float x => !x.isZero
  | .text s => !s.isEmpty
  | .list items => !items.isEmpty
  | .object fields => !fields.isEmpty

end Json

end MoveSkeleton
