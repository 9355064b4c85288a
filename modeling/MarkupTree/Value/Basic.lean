import MarkupTree.Decimal.Binary64
import MarkupTree.Entries

namespace MarkupTree

/-- A field of a tree that another program made: any plain value may stand there. -/
inductive Value where
  | null
  | bool (b : Bool)
  | int (n : Int)
  | float (x : Decimal.Binary64)
  | string (s : String)
  | list (items : List Value)
  | record (entries : List (String × Value))
  deriving Inhabited

namespace Value

def ofOption : Option Value → Value
  | some v => v
  | none => null

def ofInt? : Option Int → Value
  | some n => int n
  | none => null

def ofString? : Option String → Value
  | some s => string s
  | none => null

def truthy : Value → Bool
  | null => false
  | bool b => b
  | int n => n != 0
  | float x => !x.isZero
  | string s => s != ""
  | list items => !items.isEmpty
  | record entries => !entries.isEmpty

/-- Only values without parts that can change serve as keys. -/
def isKey : Value → Bool
  | list _ => false
  | record _ => false
  | _ => true

def typeName : Value → String
  | null => "NoneType"
  | bool _ => "bool"
  | int _ => "int"
  | float _ => "float"
  | string _ => "str"
  | list _ => "list"
  | record _ => "dict"

/-- A number as significand and exponent of two; truth values count as 0 and 1. -/
def asNumber? : Value → Option (Int × Int)
  | bool b => some (if b then 1 else 0, 0)
  | int n => some (n, 0)
  | float (.finite negative m e) => some (if negative then -m else m, e)
  | _ => none

def sameNumber : Int × Int → Int × Int → Bool
  | (m, e), (n, f) => m * Int.pow 2 (e - min e f).toNat == n * Int.pow 2 (f - min e f).toNat

mutual

/-- Equality by value: numbers of different types can be equal, and the order of the entries of a
record does not matter. -/
def same : Value → Value → Bool
  | null, null => true
  | string s, string t => s == t
  | list xs, list ys => sameItems xs ys
  | record es, record fs => es.length == fs.length && sameEntries es fs
  | float (.infinite b), float (.infinite c) => b == c
  | v, w => match v.asNumber?, w.asNumber? with
    | some a, some b => sameNumber a b
    | _, _ => false

def sameItems : List Value → List Value → Bool
  | [], [] => true
  | x :: xs, y :: ys => same x y && sameItems xs ys
  | _, _ => false

def sameEntries : List (String × Value) → List (String × Value) → Bool
  | [], _ => true
  | (k, v) :: rest, fs =>
    (match Entries.get? k fs with
      | some w => same v w
      | none => false) && sameEntries rest fs

end

instance : BEq Value := ⟨same⟩

end Value

end MarkupTree
