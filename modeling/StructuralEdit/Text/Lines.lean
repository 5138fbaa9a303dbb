import StructuralEdit.Text.Basic
/-!
The lines of a text: as parts that make up the text, and as rows to show.
-/
namespace StructuralEdit.Text

/-- The lines, each with its line feed. What follows the last line feed is a line too. -/
def lines : Text → List Text
  | [] => [[]]
  | c :: t =>
    if c = '\n' then [c] :: lines t
    else match lines t with
      | [] => [[c]]
      | l :: ls => (c :: l) :: ls

/-- A line as a row: without its line feed and a carriage return before that. What follows the
last line feed is a row only if there is something. -/
def row? (line : Text) : Option Text :=
  match line.reverse with
  | [] => none
  | '\n' :: '\r' :: rest => some rest.reverse
  | '\n' :: rest => some rest.reverse
  | _ => some line

def rows (t : Text) : List Text := t.lines.filterMap row?

end StructuralEdit.Text
