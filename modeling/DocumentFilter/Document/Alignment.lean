import DocumentFilter.Calendar.Layout
import DocumentFilter.Document.Value

/-! Alignment: bringing two scalars to one kind before they are compared.

A decimal turns a number or a numeric text beside it into a decimal; a date, a timestamp
or an identifier turns a text beside it into one of its own kind. A timestamp with a
zone lends it to a text that names none. At most one side changes, and a text that
cannot be read stays what it is. -/
namespace DocumentFilter.Value

/-- A number or text as a decimal. Blanks around a text do not count. -/
def decimalOf? : Value → Option Decimal
  | integer n => some (.ofInt64 n)
  | float x => Decimal.ofShortest? x
  | string s => Decimal.read? (Text.trim s.toList)
  | _ => none

/-- A text as a timestamp to stand beside the one given. -/
def timestampBeside? (other : Timestamp) (s : String) : Option Timestamp :=
  (Timestamp.read? s.toList).map fun t =>
    match t.offset, other.offset with
    | none, some offset => t.withOffset offset
    | _, _ => t

/-- A number or numeric text as a decimal; all else as it was. -/
def toDecimal (v : Value) : Value := (decimalOf? v).elim v decimal

/-- A text as a date, or as it was. -/
def toDate (s : String) : Value := (Date.read? s.toList).elim (string s) date

/-- A text as a timestamp to stand beside the one given, or as it was. -/
def toTimestamp (other : Timestamp) (s : String) : Value :=
  (timestampBeside? other s).elim (string s) datetime

/-- A text as an identifier, or as it was. -/
def toUuid (s : String) : Value := (Uuid.read? s.toList).elim (string s) uuid

/-- Both values, one of them brought to the kind of the other by the first rule that says
so. -/
def align (a b : Value) : Value × Value :=
  match a, b with
  | decimal d, decimal e => (decimal d, decimal e)
  | decimal d, v => (decimal d, v.toDecimal)
  | v, decimal d => (v.toDecimal, decimal d)
  | date d, string s => (date d, toDate s)
  | string s, date d => (toDate s, date d)
  | datetime t, string s => (datetime t, toTimestamp t s)
  | string s, datetime t => (toTimestamp t s, datetime t)
  | uuid u, string s => (uuid u, toUuid s)
  | string s, uuid u => (toUuid s, uuid u)
  | a, b => (a, b)

end DocumentFilter.Value
