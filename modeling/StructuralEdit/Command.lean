import StructuralEdit.Address
/-!
Commands of the editing language as trees, and their written form.
-/
namespace StructuralEdit

/-- What the addresses and texts of a command work on is called its region. -/
inductive Command where
  | print
  | delete
  | change (text : Text)
  | append (text : Text)
  | insert (text : Text)
  | filter (command : Text)
  /-- Works on every match in the region, or between the matches if inverse. -/
  | extract (inverse : Bool) (p : Pattern) (sub : Command)
  /-- Works on the region if there is a match in it, or if there is none if inverse. -/
  | guard (inverse : Bool) (p : Pattern) (sub : Command)
  | group (members : List Command)
  | addressed (a : Address) (sub : Command)
  deriving Repr

namespace Command

def slashed (t : Text) : Text := '/' :: escape '/' t ++ ['/']

mutual

/-- The written form. A filter ends with its line, so that more commands can follow it. -/
def render : Command → Text
  | .print => ['p']
  | .delete => ['d']
  | .change t => 'c' :: slashed t
  | .append t => 'a' :: slashed t
  | .insert t => 'i' :: slashed t
  | .filter t => '|' :: t ++ ['\n']
  | .extract inverse p sub => (if inverse then 'y' else 'x') :: slashed p.source ++ render sub
  | .guard inverse p sub => (if inverse then 'v' else 'g') :: slashed p.source ++ render sub
  | .group members => '{' :: renderMembers members ++ ['}']
  | .addressed a sub => a.render ++ render sub

def renderMembers : List Command → Text
  | [] => []
  | [c] => render c
  | c :: cs => render c ++ ' ' :: renderMembers cs

end

end Command

end StructuralEdit
