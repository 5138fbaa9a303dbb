import StructuralEdit.Shell.Octets
/-!
Text written so that a shell reads it back.
-/
namespace StructuralEdit.Shell.Quoted

def single (t : Text) : Text :=
  let rec go : Nat → Text → Text
    | 0, _ => []
    | n + 1, t =>
      let plain := t.takeWhile (· ≠ '\'')
      let rest := t.drop plain.length
      let quotes := rest.takeWhile (· = '\'')
      let shownPlain := if plain.isEmpty ∧ !rest.isEmpty then [] else '\'' :: plain ++ ['\'']
      if quotes.isEmpty then shownPlain
      else
        let behind := rest.drop quotes.length
        shownPlain ++ ['"'] ++ quotes ++ ['"'] ++ if behind.isEmpty then [] else go n behind
  go (t.length + 1) t

def escapedSingle (t : Text) : Text :=
  '\'' :: t.flatMap (fun c => if c = '\'' then "'\\''".toList else [c]) ++ ['\'']

def double (t : Text) : Text :=
  '"' :: t.flatMap (fun c => if "$\"\\\x60".toList.contains c then ['\\', c] else [c]) ++ ['"']

def dollarChar (c : Char) : Text :=
  match c with
  | '\n' => "\\n".toList
  | '\t' => "\\t".toList
  | '\r' => "\\r".toList
  | '\x07' => "\\a".toList
  | '\x08' => "\\b".toList
  | '\x0c' => "\\f".toList
  | '\x0b' => "\\v".toList
  | '\x1b' => "\\E".toList
  | '\'' => "\\'".toList
  | '\\' => "\\\\".toList
  | c =>
    if isPrintable c then [c] else '\\' :: padLeft 3 (digitsIn 8 c.toNat) '0'

def dollar (t : Text) : Text := "$'".toList ++ t.flatMap dollarChar ++ ['\'']

def needsDollar (t : Text) : Bool := t.any fun c => !isPrintable c

def isMeaningful (c : Char) : Bool := " \t\n\"'\\$|&;()<>*?[]#~=%!^,\x7b\x7d\x60".toList.contains c

def backslashed (t : Text) : Text :=
  if t.isEmpty then "''".toList
  else if needsDollar t then dollar t
  else
    let unsafeInside : String := " \t\n\"'\\$|&;()<>*?[]!^,\x7b\x7d\x60"
    t.zipIdx.flatMap fun (c, i) =>
      if unsafeInside.toList.contains c ∨ (i = 0 ∧ (c = '#' ∨ c = '~')) then ['\\', c] else [c]

def shell (t : Text) : Text := if needsDollar t then dollar t else escapedSingle t

def ifNeeded (t : Text) : Text :=
  if t.isEmpty ∨ t.any isMeaningful ∨ needsDollar t then shell t else t

def diagnostic (t : Text) : Text :=
  '\'' :: t.flatMap (fun c =>
    match c with
    | '\n' => "\\n".toList
    | '\t' => "\\t".toList
    | '\r' => "\\r".toList
    | '\'' => "\\'".toList
    | '\\' => "\\\\".toList
    | c => if isPrintable c then [c] else '\\' :: padLeft 3 (digitsIn 8 c.toNat) '0') ++ ['\'']

end StructuralEdit.Shell.Quoted
