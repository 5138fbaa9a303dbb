import StructuralEdit.Text.Utf8
/-!
Text for programs that know only bytes: every character stands for the byte with its number, and
what kind of character it is follows from ASCII alone.
-/
namespace StructuralEdit

def Text.ofOctets (bs : List UInt8) : Text := bs.map fun b => Char.ofNat b.toNat

def Text.octets (t : Text) : List UInt8 := t.map fun c => c.toNat.toUInt8

instance : Hashable Text where
  hash t := t.foldl (fun h c => mixHash h c.val.toUInt64) 7

namespace Shell

def encode (t : Text) : Text := .ofOctets (Text.toBytes t)

def decode (t : Text) : Text := Text.ofBytes t.octets

def isSpace (c : Char) : Bool := c = ' ' || ('\t' ≤ c && c ≤ '\r')

def isTabOrSpace (c : Char) : Bool := c = ' ' || c = '\t'

def isGraphic (c : Char) : Bool := '!' ≤ c && c ≤ '~'

def isPrintable (c : Char) : Bool := ' ' ≤ c && c ≤ '~'

def isControl (c : Char) : Bool := c < ' ' || c.toNat = 127

def isPunctuation (c : Char) : Bool := isGraphic c && !c.isAlphanum

def isHexDigit (c : Char) : Bool :=
  c.isDigit || ('a' ≤ c && c ≤ 'f') || ('A' ≤ c && c ≤ 'F')

def isOctalDigit (c : Char) : Bool := '0' ≤ c && c ≤ '7'

def kindOf? : String → Option (Char → Bool)
  | "alpha" => some Char.isAlpha
  | "digit" => some Char.isDigit
  | "alnum" => some Char.isAlphanum
  | "upper" => some Char.isUpper
  | "lower" => some Char.isLower
  | "space" => some isSpace
  | "blank" => some isTabOrSpace
  | "punct" => some isPunctuation
  | "print" => some isPrintable
  | "graph" => some isGraphic
  | "cntrl" => some isControl
  | "xdigit" => some isHexDigit
  | _ => none

def allOctets : Text := (List.range 256).map Char.ofNat

def isNameStart (c : Char) : Bool := c.isAlpha || c = '_'

def isNameChar (c : Char) : Bool := c.isAlphanum || c = '_'

/-- Whether text is a name: letters, digits and underscores that do not begin with a digit. -/
def isName : Text → Bool
  | [] => false
  | c :: t => isNameStart c && t.all isNameChar

def digitValue (c : Char) : Nat :=
  if c.isDigit then c.toNat - 48
  else if 'a' ≤ c ∧ c ≤ 'z' then c.toNat - 87
  else c.toNat - 55

def ofDigits (base : Nat) (digits : Text) : Nat :=
  digits.foldl (fun n c => base * n + digitValue c) 0

def digitsIn (base n : Nat) : Text := Nat.toDigits base n

def padLeft (width : Nat) (t : Text) (fill : Char) : Text :=
  List.replicate (width - t.length) fill ++ t

def padRight (width : Nat) (t : Text) (fill : Char) : Text :=
  t ++ List.replicate (width - t.length) fill

/-- How a character is written by its number: as it is if it is one byte, or as an escape. -/
def codePoint (n : Nat) : Text :=
  let digits (width : Nat) : Text := padLeft width ((digitsIn 16 n).map Char.toUpper) '0'
  if n < 128 then [Char.ofNat n]
  else if n < 65536 then '\\' :: 'u' :: digits 4
  else '\\' :: 'U' :: digits 8

def shown (n : Nat) : Text := (toString n).toList

def shownInt (n : Int) : Text := (toString n).toList

/-! ### Lines -/

/-- Lines without the characters that end them. The end of the text ends the last line. -/
def linesBy (mark : Char) (t : Text) : List Text :=
  match (t.splitOn mark).reverse with
  | [] :: rest => rest.reverse
  | lines => lines.reverse

def linesOf (t : Text) : List Text := linesBy '\n' t

def rowsBy (mark : Char) (t : Text) : List Text :=
  match (t.splitOn mark).reverse with
  | [] => []
  | last :: others =>
    (others.reverse.map fun l => l ++ [mark]) ++ if last.isEmpty then [] else [last]

def rowsOf (t : Text) : List Text := rowsBy '\n' t

def unlinesBy (mark : Char) (lines : List Text) : Text := lines.flatMap fun l => l ++ [mark]

def unlines (lines : List Text) : Text := unlinesBy '\n' lines

def withoutLineFeeds (t : Text) : Text := (t.reverse.dropWhile (· = '\n')).reverse

def wordsOf (t : Text) : List Text := (t.splitOnP isSpace).filter (· ≠ [])

def joinWith (separator : Text) : List Text → Text
  | [] => []
  | [t] => t
  | t :: ts => t ++ separator ++ joinWith separator ts

end Shell

end StructuralEdit
