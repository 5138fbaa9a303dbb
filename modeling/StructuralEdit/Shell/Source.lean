import StructuralEdit.Shell.Machine
import StructuralEdit.Shell.Reader.Command
/-!
Running text as a script: it is read and run line by line, so that what comes before a mistake has
its effect.
-/
namespace StructuralEdit.Shell

inductive Origin where
  | command
  | eval
  | substitution
  | file (name : Text)
  deriving DecidableEq

namespace SyntaxError

def written : Token → Text
  | .operator o | .redirect _ o => o.toList
  | .word _ t => t
  | .newline | .finish => "newline".toList

def lastWord (t : Text) : Text :=
  let back := t.reverse.dropWhile isSpace
  let separates (c : Char) : Bool := isTabOrSpace c || c = ';' || c = '|' || c = '&'
  match back with
  | c :: _ => if separates c then [c] else (back.takeWhile fun c => !separates c).reverse
  | [] => []

/-- The lines of the complaint about a mistake in a script of which the faulty line is given, and
how much of the line has been read. -/
def report (e : SyntaxError) (name : Text) (o : Origin) (faulty : Text) (place : Nat) :
    List Text :=
  let heading (line : Nat) : Text :=
    (match o with
      | .command => name ++ ": -c".toList
      | .eval => name ++ ": eval".toList
      | .substitution => name ++ ": command substitution".toList
      | .file f => f) ++ ": line ".toList ++ shown line ++ ": ".toList
  let quoted (t : Text) : Text := '\x60' :: t ++ ['\'']
  let near (t : Token) : List Text :=
    [heading e.line ++ "syntax error near unexpected token ".toList ++ quoted (written t),
      heading e.line ++ quoted faulty]
  let there : List Text :=
    [heading e.line ++ "syntax error near ".toList ++ quoted (lastWord (faulty.take place)),
      heading e.line ++ quoted faulty]
  let end_ : Text := heading (e.line + 1) ++ "syntax error: unexpected end of file".toList
  let condition (message : Text) : List Text := (heading e.line ++ message) :: there
  let open_ (c : Char) : List Text :=
    [heading e.start ++ "unexpected EOF while looking for matching ".toList ++ quoted [c]]
  match e.cause with
  | .openItems => open_ ')'
  | .badItem t => near t
  | .openSubstitution .finish =>
    [heading (e.line + 1) ++ "unexpected EOF while looking for matching ".toList ++ quoted [')']]
  | .openSubstitution t => near t
  | .unexpected .finish _ => [end_]
  | .unexpected t _ => near t
  | .openQuote c => open_ c
  | .openBrace => open_ '\x7d'
  | .openArithmetic | .noArithmetic => open_ ')'
  | .openBackquote => open_ '\x60'
  | .badLoopVariable => near .newline
  | .badFunctionName name => [heading e.line ++ quoted name ++ ": not a valid identifier".toList]
  | .badDescriptor => near .newline
  | .badCondition t =>
    if t.isPlain "]]" then there
    else if t.isFinish then
      [heading (e.line + 1) ++ "unexpected token \x60EOF' in conditional command".toList, end_]
    else condition ("unexpected token ".toList ++ quoted (written t) ++
      " in conditional command".toList)
  | .noOperator t =>
    let message := "conditional binary operator expected".toList
    condition (if t.isWord then message
      else "unexpected token ".toList ++ quoted (written t) ++ ", ".toList ++ message)
  | .noOperand isBinary t =>
    condition ("unexpected argument ".toList ++ quoted (written t) ++ " to conditional ".toList ++
      (if isBinary then "binary" else "unary").toList ++ " operator".toList)
  | .openCondition t =>
    condition ("unexpected token ".toList ++ quoted (written t) ++ ", expected \x60)'".toList)
  | .longCondition t =>
    if t.isFinish then [heading e.start ++ "unexpected EOF while looking for \x60]]'".toList, end_]
    else
      let message := "syntax error in conditional expression".toList
      condition (if t.isWord then message
        else message ++ ": unexpected token ".toList ++ quoted (written t))

end SyntaxError

namespace Machine

def complainOfSyntax (e : SyntaxError) (o : Origin) (text : Text) (first : Nat) (m : Machine) :
    Machine :=
  match m.dialect with
  | .dash =>
    let command := match o with
      | .eval => "eval: "
      | .file _ => ".: "
      | _ => ""
    fail ((command ++ "Syntax error: ").toList ++ e.cause.message.toList) 2
      { m with line := e.line }
  | .bash =>
    let index := e.line - first
    let lines := linesOf text
    let before := ((lines.take index).map fun (line : Text) => line.length + 1).foldl (· + ·) 0
    let place := text.length - e.left - before
    let m := (e.report m.name o (lines[index]?.getD []) place).foldl
      (fun m line => m.write 2 (line ++ ['\n'])) m
    match o, e.cause with
    | .eval, _ => { m with status := 1 }
    | _, .openItems | _, .badItem _ => m.finish 1
    | _, _ => m.finish 2

def runReader (run : Runner) (o : Origin) (text : Text) (first : Nat) :
    Nat → Reader → Machine → Machine
  | 0, _, m => m
  | n + 1, r, m =>
    if !m.isRunning then m
    else
      let aliases :=
        if m.dialect = .dash ∨ m.hasFeature "expand_aliases" then m.aliases else []
      let groups : Bool := m.dialect = .bash && m.hasFeature "extglob"
      match ({ r with aliases, groups } : Reader).next? with
      | .error e => m.complainOfSyntax e o text first
      | .ok (none, _) => m
      | .ok (some s, r) => runReader run o text first n r (run s m)

def runText (run : Runner) (o : Origin) (line : Nat) (text : Text) (m : Machine) : Machine :=
  runReader run o text line (text.length + 1) { dialect := m.dialect, rest := text, line } m

end Machine

end StructuralEdit.Shell
