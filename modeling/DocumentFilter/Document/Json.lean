import DocumentFilter.Calendar.Written
import DocumentFilter.Document.Value
import DocumentFilter.Number.Integer

/-! Values and JSON.

JSON has six of the kinds. The others are written as text, and a float that is not
finite as null. Read back, a whole number is an integer as long as 64 bits hold it,
and a float beyond. -/
namespace DocumentFilter

/-- A JSON tree. The entries of an object are in order. -/
inductive Json where
  | null
  | boolean (b : Bool)
  | integer (n : Int)
  | float (x : Binary64) (finite : x.isFinite = true)
  | string (s : String)
  | array (items : List Json)
  | object (entries : List (String × Json))

mutual

def Value.ofJson : Json → Value
  | .null => .null
  | .boolean b => .boolean b
  | .integer n => (int64? n).elim (.float (.ofInt n)) .integer
  | .float x _ => .float x
  | .string s => .string s
  | .array items => .array (Value.ofJsonItems items)
  | .object entries => .object (Value.ofJsonEntries entries)

def Value.ofJsonItems : List Json → List Value
  | [] => []
  | j :: rest => Value.ofJson j :: Value.ofJsonItems rest

def Value.ofJsonEntries : List (String × Json) → Entries
  | [] => []
  | (k, j) :: rest => (k, Value.ofJson j) :: Value.ofJsonEntries rest

end

mutual

def Value.toJson : Value → Json
  | .null => .null
  | .boolean b => .boolean b
  | .integer n => .integer n.toInt
  | .float x => if h : x.isFinite = true then .float x h else .null
  | .decimal d => .string (String.ofList d.text)
  | .string s => .string s
  | .date d => .string (String.ofList d.text)
  | .datetime t => .string (String.ofList t.text)
  | .uuid u => .string (String.ofList u.text)
  | .regex p => .string p.text
  | .array items => .array (Value.toJsonItems items)
  | .object entries => .object (Value.toJsonEntries entries)

def Value.toJsonItems : List Value → List Json
  | [] => []
  | v :: rest => Value.toJson v :: Value.toJsonItems rest

def Value.toJsonEntries : Entries → List (String × Json)
  | [] => []
  | (k, v) :: rest => (k, Value.toJson v) :: Value.toJsonEntries rest

end

end DocumentFilter
