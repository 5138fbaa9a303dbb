import StructuralEdit.Unicode.Age
import StructuralEdit.Unicode.Segmentation
/-!
Names of character classes. Names are compared loosely: case, blanks, hyphens, underscores
and a leading "is" do not count. A bare name is a property, else a general category, else a
script.
-/
namespace StructuralEdit

/-- A way to name a class: by one name, or by a property and a value of it. -/
inductive ClassName where
  | bare (name : List Char)
  | valued (property value : List Char)
  deriving DecidableEq, Repr

inductive ClassNameError where
  | unknownProperty
  | unknownValue
  deriving DecidableEq, Repr

namespace ClassName

def asciiLower (c : Char) : Char :=
  if 'A' ≤ c ∧ c ≤ 'Z' then Char.ofNat (c.toNat + 32) else c

def letters (name : List Char) : List Char :=
  (name.filter fun c => c.toNat < 128 ∧ c ≠ ' ' ∧ c ≠ '_' ∧ c ≠ '-').map asciiLower

/-- The form in which names are compared. The name "isc" keeps its first two letters, as
without them it would name the category of controls and unassigned characters. -/
def key (name : List Char) : String :=
  match name with
  | i :: s :: rest =>
    if asciiLower i = 'i' ∧ asciiLower s = 's' then
      if letters rest = ['c'] then "isc" else .ofList (letters rest)
    else .ofList (letters name)
  | _ => .ofList (letters name)

def categories? : String → Option (List Category)
  | "l" | "letter" => some [.lu, .ll, .lt, .lm, .lo]
  | "lc" | "casedletter" => some [.lu, .ll, .lt]
  | "lu" | "uppercaseletter" => some [.lu]
  | "ll" | "lowercaseletter" => some [.ll]
  | "lt" | "titlecaseletter" => some [.lt]
  | "lm" | "modifierletter" => some [.lm]
  | "lo" | "otherletter" => some [.lo]
  | "m" | "mark" | "combiningmark" => some [.mn, .mc, .me]
  | "mn" | "nonspacingmark" => some [.mn]
  | "mc" | "spacingmark" => some [.mc]
  | "me" | "enclosingmark" => some [.me]
  | "n" | "number" => some [.nd, .nl, .no]
  | "nd" | "decimalnumber" | "digit" => some [.nd]
  | "nl" | "letternumber" => some [.nl]
  | "no" | "othernumber" => some [.no]
  | "p" | "punctuation" | "punct" => some [.pc, .pd, .ps, .pe, .pi, .pf, .po]
  | "pc" | "connectorpunctuation" => some [.pc]
  | "pd" | "dashpunctuation" => some [.pd]
  | "ps" | "openpunctuation" => some [.ps]
  | "pe" | "closepunctuation" => some [.pe]
  | "pi" | "initialpunctuation" => some [.pi]
  | "pf" | "finalpunctuation" => some [.pf]
  | "po" | "otherpunctuation" => some [.po]
  | "s" | "symbol" => some [.sm, .sc, .sk, .so]
  | "sm" | "mathsymbol" => some [.sm]
  | "sc" | "currencysymbol" => some [.sc]
  | "sk" | "modifiersymbol" => some [.sk]
  | "so" | "othersymbol" => some [.so]
  | "z" | "separator" => some [.zs, .zl, .zp]
  | "zs" | "spaceseparator" => some [.zs]
  | "zl" | "lineseparator" => some [.zl]
  | "zp" | "paragraphseparator" => some [.zp]
  | "cc" | "control" | "cntrl" => some [.cc]
  | "cf" | "format" => some [.cf]
  | "co" | "privateuse" => some [.co]
  | _ => none

/-- Names that stand for a category or script of which no character is a member. -/
def memberless : List String :=
  ["cs", "surrogate", "zzzz", "unknown", "hrkt", "katakanaorhiragana"]

def category? (key : String) : Option CharSet :=
  match key with
  | "any" => some .all
  | "ascii" => some (.ofRanges [(0, 0x7F)])
  | "assigned" => some (.ofCategories Category.all)
  | "cn" | "unassigned" => some .unassigned
  | "c" | "other" => some .other
  | _ => (categories? key).map .ofCategories

def bareMembers (key : String) : Except ClassNameError CharSet :=
  let asProperty := key ≠ "cf" ∧ key ≠ "sc" ∧ key ≠ "lc"
  match (if asProperty then Property.named? key else none) with
  | some s => .ok s
  | none =>
    if asProperty ∧ key ∈ Property.unlisted then .error .unknownProperty
    else match category? key with
      | some s => .ok s
      | none => match Script.named? key with
        | some s => .ok s.members
        | none =>
          if key ∈ memberless then .error .unknownValue else .error .unknownProperty

def valuedMembers (property value : String) : Except ClassNameError CharSet :=
  let found (s : Option CharSet) := s.elim (.error .unknownValue) .ok
  if property ∈ ["gc", "generalcategory"] then found (category? value)
  else if property ∈ ["sc", "script"] then found ((Script.named? value).map (·.members))
  else if property ∈ ["scx", "scriptextensions"] then
    found ((Script.named? value).map (·.extended))
  else if property = "age" then found (Age.named? value)
  else if property ∈ ["gcb", "graphemeclusterbreak"] then found (Segmentation.Grapheme.named? value)
  else if property ∈ ["wb", "wordbreak"] then found (Segmentation.Word.named? value)
  else if property ∈ ["sb", "sentencebreak"] then found (Segmentation.Sentence.named? value)
  else if (Property.named? property).isSome ∨ property ∈ Property.unlisted then
    .error .unknownValue
  else .error .unknownProperty

def members : ClassName → Except ClassNameError CharSet
  | .bare name => bareMembers (key name)
  | .valued property value => valuedMembers (key property) (key value)

end ClassName

end StructuralEdit
