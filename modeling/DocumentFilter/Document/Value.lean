import DocumentFilter.Calendar.Timestamp
import DocumentFilter.Number.Conversion
import DocumentFilter.Pattern.Basic
import DocumentFilter.Uuid

/-! Values: what documents and queries are made of.

A value is a scalar of one of ten kinds, an array, or an object. The entries of an
object keep the order in which they were put in, and each key occurs once: `insert`
replaces the value of a key in its place. -/
namespace DocumentFilter

inductive Value where
  | null
  | boolean (b : Bool)
  | integer (n : Int64)
  | float (x : Binary64)
  | decimal (d : Decimal)
  | string (s : String)
  | date (d : Date)
  | datetime (t : Timestamp)
  | uuid (u : Uuid)
  | regex (p : Pattern)
  | array (items : List Value)
  | object (entries : List (String × Value))

/-- The kinds of values. -/
inductive Kind where
  | null | boolean | integer | float | decimal | string | date | datetime | uuid | regex
  | array | object
deriving DecidableEq

/-- A kind as messages call it. -/
def Kind.name : Kind → String
  | null => "null"
  | boolean => "boolean"
  | integer => "integer"
  | float => "float"
  | decimal => "decimal"
  | string => "string"
  | date => "date"
  | datetime => "datetime"
  | uuid => "uuid"
  | regex => "regex"
  | array => "array"
  | object => "object"

/-- The entries of an object, in their order. -/
abbrev Entries := List (String × Value)

namespace Entries

/-- Puts a value under a key: in place of the one there, or else at the end. -/
def insert (key : String) (value : Value) : Entries → Entries
  | [] => [(key, value)]
  | (k, v) :: rest =>
    if k = key then (k, value) :: rest else (k, v) :: insert key value rest

/-- Puts pairs in one after the other. -/
def ofPairs (pairs : List (String × Value)) : Entries :=
  pairs.foldl (fun entries pair => insert pair.1 pair.2 entries) []

/-- The value under a key. -/
def get? (entries : Entries) (key : String) : Option Value := entries.lookup key

def keys (entries : Entries) : List String := entries.map (·.1)

theorem keys_insert (entries : Entries) (key : String) (value : Value) :
    keys (insert key value entries) =
      if key ∈ keys entries then keys entries else keys entries ++ [key] := by
  induction entries with
  | nil => simp [insert, keys]
  | cons e rest ih =>
    obtain ⟨k, v⟩ := e
    simp only [keys] at ih ⊢
    by_cases h : k = key
    · simp [insert, h]
    · have hne : key ≠ k := fun e => h e.symm
      by_cases hk : key ∈ List.map (·.1) rest
      · simp [insert, h, hne, ih, hk]
      · simp [insert, h, hne, ih, hk]

/-- Putting a value in keeps the keys distinct. -/
theorem nodup_keys_insert {entries : Entries} (key : String) (value : Value)
    (h : (keys entries).Nodup) : (keys (insert key value entries)).Nodup := by
  rw [keys_insert]
  split
  · exact h
  · next hk =>
    refine List.nodup_append.mpr ⟨h, by simp, ?_⟩
    intro a ha b hb hab
    rw [List.mem_singleton.mp hb] at hab
    exact hk (hab ▸ ha)

end Entries

/-- A number of any of the three kinds. -/
inductive Number where
  | integer (n : Int64)
  | float (x : Binary64)
  | decimal (d : Decimal)

namespace Value

def kind : Value → Kind
  | null => .null
  | boolean _ => .boolean
  | integer _ => .integer
  | float _ => .float
  | decimal _ => .decimal
  | string _ => .string
  | date _ => .date
  | datetime _ => .datetime
  | uuid _ => .uuid
  | regex _ => .regex
  | array _ => .array
  | object _ => .object

def isNull : Value → Bool
  | null => true
  | _ => false

/-- The number that a value is. Booleans are not numbers. -/
def number? : Value → Option Number
  | integer n => some (.integer n)
  | float x => some (.float x)
  | decimal d => some (.decimal d)
  | _ => none

def isNumber (v : Value) : Bool := v.number?.isSome

/-- Null, `false` and the zeros are false; all else is true. -/
def isTruthy : Value → Bool
  | null => false
  | boolean b => b
  | integer n => n != 0
  | float x => x.magnitude != 0
  | decimal d => !d.isZero
  | _ => true

/-- The nearest binary64 number of a number. -/
def binary64? : Value → Option Binary64
  | integer n => some (.ofInt n.toInt)
  | float x => some x
  | decimal d => some d.toBinary64
  | _ => none

def string? : Value → Option String
  | string s => some s
  | _ => none

def items? : Value → Option (List Value)
  | array items => some items
  | _ => none

def entries? : Value → Option Entries
  | object entries => some entries
  | _ => none

end Value

end DocumentFilter
