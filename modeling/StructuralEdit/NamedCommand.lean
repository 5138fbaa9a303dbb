import StructuralEdit.Session
/-!
Commands that users call by name. Most of them ask for one line and run a command made from it.
-/
namespace StructuralEdit

inductive PatternCommand where
  | matching
  | between
  | present
  | absent
  deriving DecidableEq, Repr

def PatternCommand.letter : PatternCommand → Char
  | .matching => 'x'
  | .between => 'y'
  | .present => 'g'
  | .absent => 'v'

inductive NamedCommand where
  | edit
  | help
  | pipe
  | pattern (c : PatternCommand)
  deriving DecidableEq, Repr

namespace NamedCommand

def name : NamedCommand → String
  | .edit => "edit"
  | .help => "help"
  | .pipe => "pipe"
  | .pattern c => c.letter.toString

def summary : NamedCommand → String
  | .edit => "run any sam command"
  | .help => "show the command reference"
  | .pipe => "filter the whole buffer through a shell command"
  | .pattern .matching => "print every match of a pattern"
  | .pattern .between => "print the text between matches of a pattern"
  | .pattern .present => "print the buffer if a pattern matches"
  | .pattern .absent => "print the buffer if a pattern does not match"

def all : List NamedCommand :=
  [.edit, .pattern .present, .help, .pipe, .pattern .absent, .pattern .matching,
    .pattern .between]

def named? (name : String) : Option NamedCommand := all.find? fun c => c.name = name

def reference : String :=
  "Sam Structural Regular Expressions

Commands:
  x/pattern/cmd   Run cmd on each match of pattern
  y/pattern/cmd   Run cmd on each stretch of text between matches
  g/pattern/cmd   Run cmd on the region if pattern matches in it
  v/pattern/cmd   Run cmd on the region if pattern does not match

Simple Commands:
  p               Print the region
  d               Delete the region
  c/text/         Replace the region with text
  a/text/         Insert text after the region
  i/text/         Insert text before the region
  |cmd            Replace the region with its output through a shell command

Addresses:
  .               The current region
  ,               The whole buffer (0,$)
  $               End of the buffer
  n               Line n
  #n              Character offset n
  /pattern/       Next match of pattern
  ?pattern?       Previous match of pattern
  a,b             From the start of a to the end of b

Examples:
  x/TODO/p                   Print every TODO
  ,x/old/c/new/              Replace every 'old' with 'new'
  x/^#.*\\n/d                 Delete comment lines
  x/^import.*/a/ (checked)/  Append a note to each import
  ,|sort                     Sort the buffer
  x/err/\x7bg/nil/d\x7d            Delete each 'err' region that also matches nil

Braces group commands; they all see the same region:
  x/fn .*/\x7bi/[/ a/]/\x7d        Bracket every line starting with 'fn '
"

/-- The question that a command asks, and the command it makes from the answer. Without one the
command shows the reference. -/
def question? : NamedCommand → Option (String × (Text → Text))
  | .edit => some ("Sam command: ", id)
  | .help => none
  | .pipe => some ("Pipe through: ", fun answer => ',' :: '|' :: answer)
  | .pattern c =>
    some (c.letter.toString ++ "/pattern/: ",
      fun answer => c.letter :: Command.slashed answer ++ ['p'])

end NamedCommand

namespace Session

variable {η σ : Type} [Host η]

/-- Runs the command with a name. The answer says whether it went through; why it did not is said
in a message. -/
def runNamed (s : Session σ) (name : String) (w : World η σ) : Bool × World η σ :=
  let say (message : String) (w : World η σ) : World η σ :=
    { w with host := Host.say message w.host }
  match NamedCommand.named? name with
  | none => (false, say ("Error: unknown command '" ++ name ++ "'") w)
  | some c =>
    match c.question? with
    | none =>
      let buffer := s.config.helpBuffer
      let host := Host.present buffer NamedCommand.reference.toList w.host
      (true, say ("Sam help displayed in " ++ buffer ++ " buffer") { w with host })
    | some (label, build) =>
      match Host.prompt label w.host with
      | (none, host) => (false, say "Cancelled" { w with host })
      | (some answer, host) =>
        match s.execute (build answer) { w with host } with
        | (.ok _, w) => (true, w)
        | (.error f, w) => (false, say (failureMessage f) w)

end Session

end StructuralEdit
