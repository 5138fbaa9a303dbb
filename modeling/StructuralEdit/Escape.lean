import StructuralEdit.Text.Basic
/-!
Text between delimiters. A backslash hides the delimiter, and stands with a letter for a line
feed or a tab; before any other character it stands for itself.
-/
namespace StructuralEdit

def escapeChar (delimiter c : Char) : Text :=
  if c = '\n' then ['\\', 'n']
  else if c = '\t' then ['\\', 't']
  else if c = '\\' then ['\\', '\\']
  else if c = delimiter then ['\\', c]
  else [c]

def escape (delimiter : Char) (t : Text) : Text := t.flatMap (escapeChar delimiter)

def unescapeChar (delimiter c : Char) : Text :=
  -- These keep their meaning where one of them is the delimiter.
  if c = 'n' then ['\n']
  else if c = 't' then ['\t']
  else if c = '\\' then ['\\']
  else if c = delimiter then [c]
  else ['\\', c]

/-- Splits text at the first delimiter that no backslash hides, into what is written before it
and the rest. -/
def unescape (delimiter : Char) : Text → Option (Text × Text)
  | [] => none
  | c :: t =>
    if c = delimiter then some ([], t)
    else if c = '\\' then
      match t with
      | [] => none
      | e :: t => (unescape delimiter t).map fun (a, rest) => (unescapeChar delimiter e ++ a, rest)
    else (unescape delimiter t).map fun (a, rest) => (c :: a, rest)

end StructuralEdit
