import StructuralEdit.CharSet.Basic
/-!
The written form of a set of characters: entries between blanks, each one code point, an
inclusive range `41-5A`, or every second code point of a range `100-12E/2`, in hexadecimal.
-/
namespace StructuralEdit.CharSet

def hexValue (c : Char) : Nat :=
  if c.isDigit then c.toNat - '0'.toNat else c.toNat - 'A'.toNat + 10

/-- What has been read of an entry: its first code point if a range follows, the number being
read, and whether every second code point is meant. -/
structure Entry where
  first : Option Nat := none
  number : Option Nat := none
  alternate : Bool := false

def Entry.ranges (e : Entry) : List (Nat × Nat) :=
  match e.first, e.number with
  | some lo, some hi =>
    if e.alternate then (List.range ((hi - lo) / 2 + 1)).map fun i => (lo + 2 * i, lo + 2 * i)
    else [(lo, hi)]
  | none, some n => [(n, n)]
  | _, none => []

def readEntries (e : Entry) : List Char → List (Nat × Nat)
  | [] => e.ranges
  | c :: cs =>
    if c = ' ' ∨ c = '\n' then e.ranges ++ readEntries {} cs
    else if c = '-' then readEntries { first := e.number } cs
    else if c = '/' then readEntries { e with alternate := true } cs
    else if e.alternate then readEntries e cs
    else readEntries { e with number := some (16 * e.number.getD 0 + hexValue c) } cs

def ofTable (table : String) : CharSet := .ofRanges (readEntries {} table.toList)

end StructuralEdit.CharSet
