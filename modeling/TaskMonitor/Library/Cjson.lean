import TaskMonitor.Library.CText
import Mathlib.Data.Rat.Defs
import Mathlib.Algebra.Order.Ring.Rat

/-! Trees of a JSON library in the manner of cJSON: items with a type, an integer and a
floating reading of numbers, and members found up to letter case. A finite double is the
rational it denotes. -/

namespace Cjson

open CText

inductive Json where
  | null
  | bool (b : Bool)
  | number (valuedouble : ℚ)
  | string (valuestring : Text)
  | array (items : List Json)
  | object (members : List (Text × Json))
  | raw (text : Text)

def toLower (c : UInt8) : UInt8 := if 65 ≤ c ∧ c ≤ 90 then c + 32 else c

def sameKey (a b : Text) : Bool := a.map toLower == b.map toLower

/-- Conversion to `int`: the fraction is cut and the ends saturate. -/
def truncate (d : ℚ) : Int := max (-2 ^ 31) (min (2 ^ 31 - 1) (d.num.tdiv d.den))

theorem truncate_intCast {n : Int} (low : -2 ^ 31 ≤ n) (high : n < 2 ^ 31) :
    truncate (n : ℚ) = n := by
  rw [truncate, Rat.num_intCast, Rat.den_intCast, Nat.cast_one, Int.tdiv_one]
  omega

namespace Json

def isObject : Json → Bool
  | .object _ => true
  | _ => false

/-- `valueint` of an item: numbers are truncated, `true` is 1, other items leave it 0. -/
def valueint : Json → Int
  | .number d => truncate d
  | .bool true => 1
  | _ => 0

def children : Json → List Json
  | .array items => items
  | .object members => members.map Prod.snd
  | _ => []

end Json

def getObjectItem : Json → Text → Option Json
  | .object members, key => (members.find? fun m => sameKey m.1 key).map Prod.snd
  | _, _ => none

def createObject (ok : Bool) : Option Json := if ok then some (.object []) else none

/-- Adding to an object appends the member. A NULL item is not added. -/
def addItemToObject : Json → Text → Option Json → Json
  | .object members, key, some item => .object (members ++ [(key, item)])
  | parent, _, _ => parent

def addItemToArray : Json → Json → Json
  | .array items, item => .array (items ++ [item])
  | parent, _ => parent

def addNumberToObject (ok : Bool) (parent : Json) (key : Text) (d : ℚ) : Json :=
  addItemToObject parent key (if ok then some (.number d) else none)

def addStringToObject (ok : Bool) (parent : Json) (key : Text) (s : Text) : Json :=
  addItemToObject parent key (if ok then some (.string (content s)) else none)

def numberItem (item : Json) (key : Text) : Option ℚ :=
  match getObjectItem item key with
  | some (.number d) => some d
  | _ => none

def stringItem (item : Json) (key : Text) : Option Text :=
  match getObjectItem item key with
  | some (.string s) => some s
  | _ => none

theorem isObject_of_getObjectItem {item value : Json} {key : Text}
    (found : getObjectItem item key = some value) : item.isObject = true := by
  cases item with
  | object members => rfl
  | _ => cases found

theorem numberItem_eq_some_iff {item : Json} {key : Text} {d : ℚ} :
    numberItem item key = some d ↔ getObjectItem item key = some (.number d) := by
  rw [numberItem]
  cases getObjectItem item key with
  | none => simp
  | some value => cases value <;> simp

theorem stringItem_eq_some_iff {item : Json} {key s : Text} :
    stringItem item key = some s ↔ getObjectItem item key = some (.string s) := by
  rw [stringItem]
  cases getObjectItem item key with
  | none => simp
  | some value => cases value <;> simp

/-- The two functions of the library that this model does not define: parsing reads the
memory at a pointer, printing yields a C string. -/
structure Codec where
  parse : Text → Option Json
  print : Json → CString

def Codec.RoundTrips (codec : Codec) (tree : Json) : Prop :=
  codec.parse (codec.print tree).bytes = some tree

theorem sameKey_self (key : Text) : sameKey key key = true := by simp [sameKey]

@[simp] theorem getObjectItem_nil (key : Text) : getObjectItem (.object []) key = none := rfl

@[simp] theorem isObject_addItemToObject (parent : Json) (key : Text) (item : Option Json) :
    (addItemToObject parent key item).isObject = parent.isObject := by
  cases parent <;> cases item <;> rfl

@[simp] theorem isObject_addNumberToObject (ok : Bool) (parent : Json) (key : Text) (d : ℚ) :
    (addNumberToObject ok parent key d).isObject = parent.isObject :=
  isObject_addItemToObject parent key _

theorem getObjectItem_addItemToObject {parent : Json} (object : parent.isObject = true)
    (key other : Text) (item : Option Json) :
    getObjectItem (addItemToObject parent key item) other =
      (getObjectItem parent other <|> if sameKey key other then item else none) := by
  cases parent with
  | object members =>
      cases item with
      | none => simp [addItemToObject]
      | some item =>
          simp only [addItemToObject, getObjectItem, List.find?_append, Option.map_or]
          cases same : sameKey key other <;> simp [same, Option.orElse_eq_orElse]
  | _ => cases object

theorem getObjectItem_addItemToObject_ne {parent : Json} (object : parent.isObject = true)
    {key other : Text} (differs : sameKey key other = false) (item : Option Json) :
    getObjectItem (addItemToObject parent key item) other = getObjectItem parent other := by
  rw [getObjectItem_addItemToObject object, differs]
  simp

theorem getObjectItem_addNumberToObject_ne {parent : Json} (object : parent.isObject = true)
    {key other : Text} (differs : sameKey key other = false) (ok : Bool) (d : ℚ) :
    getObjectItem (addNumberToObject ok parent key d) other = getObjectItem parent other :=
  getObjectItem_addItemToObject_ne object differs _

end Cjson
