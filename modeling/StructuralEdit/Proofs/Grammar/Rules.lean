import StructuralEdit.Command
import StructuralEdit.Text.Blank
import StructuralEdit.Text.Number
/-!
The grammar of commands. A command is an optional address and a simple command:

- a command of one letter, `p` or `d`;
- `c`, `a` or `i` and a text between delimiters;
- `x`, `y`, `g` or `v`, a pattern between delimiters, and an optional command;
- `|` and the rest of the line;
- commands between braces.

A relation between a text and what it spells stands for each part. What a command spells depends
on the text behind it: a part can be left out only at the end of the text or of a group, and a
filter goes to the end of its line. Commands stand at depths up to 100, and an address has up to
100 links; what is left out has no depth.
-/
namespace StructuralEdit

def Blanks (u : Text) : Prop := ∀ c ∈ u, c.isBlank = true

instance (u : Text) : Decidable (Blanks u) :=
  decidable_of_iff (u.all Char.isBlank = true) List.all_eq_true

/-- Without some blanks in front, the text `s` is the text `t`. -/
def Skips (s t : Text) : Prop := ∃ b, Blanks b ∧ s = b ++ t

def Closes (s : Text) : Prop := ∃ t, Skips s t ∧ ∀ c ∈ t.head?, c = '}'

/-- A text, as it is written with the delimiter that closes it. -/
inductive Delimited (d : Char) : Text → Text → Prop
  | close : Delimited d [d] []
  | feed : Delimited d u t → Delimited d ('\\' :: 'n' :: u) ('\n' :: t)
  | tab : Delimited d u t → Delimited d ('\\' :: 't' :: u) ('\t' :: t)
  | backslash : Delimited d u t → Delimited d ('\\' :: '\\' :: u) ('\\' :: t)
  | delimiter : d ≠ 'n' → d ≠ 't' → Delimited d u t → Delimited d ('\\' :: d :: u) (d :: t)
  | pair : e ∉ ['n', 't', '\\', d] → Delimited d u t →
      Delimited d ('\\' :: e :: u) ('\\' :: e :: t)
  | plain : c ∉ [d, '\\'] → Delimited d u t → Delimited d (c :: u) (c :: t)

inductive Argument : Text → Text → Prop
  | mk : d.isBlank = false → d ≠ '\\' → Delimited d u t → Argument (d :: u) t

/-- A number below the limit, in decimal digits with any zeros in front. -/
structure Digits (u : Text) (n : Nat) : Prop where
  small : n < numberLimit
  spelled : ∃ zeros, u = List.replicate zeros '0' ++ Nat.toDigits 10 n

namespace Address

inductive Simple : Text → Address → Prop
  | dot : Simple ['.'] .dot
  | finish : Simple ['$'] .finish
  | char : Digits u n → Simple ('#' :: u) (.char n)
  | line : Digits u n → Simple u (.line n)
  | search (d : Direction) : Delimited d.delimiter u source →
      Pattern.ofSource source = .ok p → Simple (d.delimiter :: u) (.search d p)

/-- An address, as it is written with so many commas that something follows. -/
inductive Spelled : Text → Address → Nat → Prop
  | simple : Simple u a → Spelled u a 0
  | whole : Spelled [','] (.range (.line 0) .finish) 0
  | upTo : Blanks b → Spelled v e n → Spelled (',' :: (b ++ v)) (.range (.line 0) e) (n + 1)
  | link : Simple u a → Blanks b → Blanks b' → Spelled v e n →
      Spelled (u ++ (b ++ ',' :: (b' ++ v))) (.range a e) (n + 1)

end Address

namespace Command

inductive Letter : Char → Command → Prop
  | print : Letter 'p' .print
  | delete : Letter 'd' .delete

inductive TextLetter : Char → (Text → Command) → Prop
  | change : TextLetter 'c' .change
  | append : TextLetter 'a' .append
  | insert : TextLetter 'i' .insert

inductive PatternLetter : Char → (Pattern → Command → Command) → Prop
  | matching : PatternLetter 'x' (.extract false)
  | between : PatternLetter 'y' (.extract true)
  | present : PatternLetter 'g' (.guard false)
  | absent : PatternLetter 'v' (.guard true)

end Command

/-- The parts of a command that can contain each other, each at a depth and with what it spells:
commands, simple commands, commands that can be left out, and commands up to a closing brace. -/
inductive Phrase where
  | command (depth : Nat) (c : Command)
  | simple (depth : Nat) (c : Command)
  | optional (depth : Nat) (c : Command)
  | members (depth : Nat) (cs : List Command)

open Command (Letter TextLetter PatternLetter)

/-- The text `u` in front of the text `rest` is a phrase. -/
inductive Spelled : Phrase → Text → Text → Prop
  | simple : depth ≤ 100 → Spelled (.simple depth c) u rest → Spelled (.command depth c) u rest
  | addressed : depth ≤ 100 → Address.Spelled u a n → n ≤ 100 → Blanks b →
      Spelled (.simple depth c) v rest →
      Spelled (.command depth (.addressed a c)) (u ++ (b ++ v)) rest
  | located : depth ≤ 100 → Address.Spelled u a n → n ≤ 100 → Closes rest →
      Spelled (.command depth (.addressed a .print)) u rest
  | letter : Letter l c → Spelled (.simple depth c) [l] rest
  | text : TextLetter l put → Argument u t → Spelled (.simple depth (put t)) (l :: u) rest
  | pattern : PatternLetter l wrap → Argument u source → Pattern.ofSource source = .ok p →
      Spelled (.optional (depth + 1) c) v rest →
      Spelled (.simple depth (wrap p c)) (l :: (u ++ v)) rest
  | filter : '\n' ∉ line → Text.trim line ≠ [] → (∀ c ∈ rest.head?, c = '\n') →
      Spelled (.simple depth (.filter (Text.trim line))) ('|' :: line) rest
  | group : Spelled (.members (depth + 1) cs) u rest →
      Spelled (.simple depth (.group cs)) ('{' :: u) rest
  | omitted : Closes rest → Spelled (.optional depth .print) [] rest
  | given : Blanks b → Spelled (.command depth c) u rest → Spelled (.optional depth c) (b ++ u) rest
  | close : Blanks b → Spelled (.members depth []) (b ++ ['}']) rest
  | member : Blanks b → Spelled (.command depth c) u (v ++ rest) →
      Spelled (.members depth cs) v rest →
      Spelled (.members depth (c :: cs)) (b ++ (u ++ v)) rest

/-- The whole of a text, but for blanks around it, is a command. -/
def Command.Derives (s : Text) (c : Command) : Prop :=
  ∃ b u rest, Blanks b ∧ Blanks rest ∧ s = b ++ (u ++ rest) ∧ Spelled (.command 0 c) u rest

end StructuralEdit
