import DocumentFilter.Pattern.CharSet
import DocumentFilter.Pattern.Unicode.Script

/-! Sets of characters by name: Unicode properties, and the ASCII classes that may stand
inside brackets. -/
namespace DocumentFilter.CharSet

open Unicode

/-! ### Unicode properties -/

/-- A name without case, separators and the initial `is`. The name `isc` is kept whole,
so that it does not become `c`. -/
def loose (name : List Char) : String :=
  let plain (cs : List Char) : List Char :=
    (cs.filter fun c => c != ' ' && c != '_' && c != '-' && decide (c.toNat < 128)).map Char.toLower
  match name with
  | i :: s :: rest =>
    if i.toLower = 'i' ∧ s.toLower = 's' then
      if plain rest = ['c'] then "isc" else String.ofList (plain rest)
    else String.ofList (plain name)
  | _ => String.ofList (plain name)

/-- The set of a general category, by its loose name. -/
def ofCategoryName? (name : String) : Option CharSet :=
  let named (name : String) : CharSet := ofCategories ((Category.named? name).getD [])
  let assigned := union (ofCategories Category.all) (ranges [(0xD800, 0xDFFF)])
  match name with
  | "any" => some (complement empty)
  | "assigned" => some assigned
  | "ascii" => some (ranges [(0, 0x7F)])
  | "cn" | "unassigned" => some (complement assigned)
  | "c" | "other" =>
    let rest := ["l", "m", "n", "p", "s", "z"]
    some (complement (rest.foldl (fun set n => union set (named n)) empty))
  | _ => (Category.named? name).map ofCategories

/-- The set of a property named alone: a binary property, a general category or a
script. -/
def ofPropertyName? (name : List Char) : Option CharSet :=
  let name := loose name
  ((BinaryProperty.named? name).map fun p => ranges p.ranges) <|>
    ofCategoryName? name <|>
    (Script.named? name).map fun s => ranges s.ranges

/-- The set of a property and its value: a general category, a script or the scripts that use a
character. Versions of Unicode (`Age`) and the breaks between graphemes, words and sentences
(`Grapheme_Cluster_Break`, `Word_Break`, `Sentence_Break`) are left out, with their short names. A
pattern that asks for one of them is taken for malformed. -/
def ofPropertyValue? (name value : List Char) : Option CharSet :=
  let value := loose value
  match loose name with
  | "gc" | "generalcategory" | "category" => ofCategoryName? value
  | "sc" | "script" => (Script.named? value).map fun s => ranges s.ranges
  | "scx" | "scriptextensions" => (Script.named? value).map fun s => ranges s.usedRanges
  | _ => none

/-! ### ASCII classes -/

/-- The ASCII classes by name. -/
def ofAsciiName? : (name : String) → Option CharSet
  | "alnum" => some (ranges [(0x30, 0x39), (0x41, 0x5A), (0x61, 0x7A)])
  | "alpha" => some (ranges [(0x41, 0x5A), (0x61, 0x7A)])
  | "ascii" => some (ranges [(0, 0x7F)])
  | "blank" => some (ranges [(9, 9), (0x20, 0x20)])
  | "cntrl" => some (ranges [(0, 0x1F), (0x7F, 0x7F)])
  | "digit" => some asciiDigit
  | "graph" => some (ranges [(0x21, 0x7E)])
  | "lower" => some (ranges [(0x61, 0x7A)])
  | "print" => some (ranges [(0x20, 0x7E)])
  | "punct" => some (ranges [(0x21, 0x2F), (0x3A, 0x40), (0x5B, 0x60), (0x7B, 0x7E)])
  | "space" => some asciiBlank
  | "upper" => some (ranges [(0x41, 0x5A)])
  | "word" => some asciiWord
  | "xdigit" => some (ranges [(0x30, 0x39), (0x41, 0x46), (0x61, 0x66)])
  | _ => none

end DocumentFilter.CharSet
