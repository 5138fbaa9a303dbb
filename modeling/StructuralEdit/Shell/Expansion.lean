import StructuralEdit.Shell.Arithmetic
import StructuralEdit.Shell.Brace
import StructuralEdit.Shell.Declaration
import StructuralEdit.Shell.Fields
import StructuralEdit.Shell.Quoted
import StructuralEdit.Shell.Source
/-!
Expansion: what the words of a script stand for.
-/
namespace StructuralEdit.Shell

/-- What a parameter stands for: a text if it has a value, or a list of texts. A list may be one
text where it is quoted. -/
inductive Found where
  | one (t : Option Text)
  | list (items : List Text) (joins : Bool)

abbrev Expander := Word → Machine → List Piece × Machine

namespace Machine

def textBy (expand : Expander) (w : Word) (m : Machine) : Text × Machine :=
  let (ps, m) := expand w m
  (Piece.text ps, m)

def globStyle (m : Machine) : Glob.Style :=
  match m.dialect with
  | .dash => { marks := ['!'], hasDots := true }
  | .bash => { groups := m.hasFeature "extglob" }

def textStyle (m : Machine) : Glob.Style :=
  { m.globStyle with ignoresCase := m.dialect = .bash && m.hasFeature "nocasematch" }

def globBy (expand : Expander) (s : Glob.Style) (w : Word) (m : Machine) : Glob × Machine :=
  let (ps, m) := expand w m
  (Glob.ofQuotable s (Piece.quotable ps), m)

/-- The value of an arithmetic expression. A mistake ends the shell. -/
def number (t : Text) (m : Machine) : Int × Machine :=
  match m.evaluate t with
  | .ok r => r
  | .error message =>
    let unboundEnd := ": unbound variable".toList
    let status := match m.dialect with
      | .dash => 2
      | .bash => if unboundEnd.isSuffixOf message then 127 else 1
    (0, m.fail message status)

def numberBy (expand : Expander) (w : Word) (m : Machine) : Int × Machine :=
  let (t, m) := textBy expand w m
  m.number t

/-! ### Values -/

def itemsOf (m : Machine) (name : Text) : List (Text × Text) :=
  match (m.binding? (m.target 10 name)).bind (·.value) with
  | some (.indexed items) => items.map fun (i, t) => (shownInt i, t)
  | some (.associative items) => listed items
  | _ => match m.parameter? name with
    | some t => [(['0'], t)]
    | none => []

def itemAt (name sub : Text) (m : Machine) : Option Text × Machine :=
  match (m.binding? (m.target 10 name)).bind (·.value) with
  | some (.associative items) => (items.lookup sub, m)
  | some (.indexed items) =>
    let (i, m) := m.number sub
    (items.lookup (Arithmetic.placeOf items i), m)
  | _ =>
    let (i, m) := m.number sub
    (if i = 0 ∨ i = -1 then m.parameter? name else none, m)

def lookUp (expand : Expander) (name : Text) (sub : Word) (m : Machine) : Found × Machine :=
  match name, sub with
  | ['@'], _ => (.list m.arguments false, m)
  | ['*'], _ => (.list m.arguments true, m)
  | _, [] => (.one (m.parameter? name), m)
  | _, [.char '@' _] => (.list ((m.itemsOf name).map (·.2)) false, m)
  | _, [.char '*' _] => (.list ((m.itemsOf name).map (·.2)) true, m)
  | _, sub =>
    let (t, m) := textBy expand sub m
    let (v, m) := m.itemAt name t
    (.one v, m)

def joined (m : Machine) (items : List Text) : Text :=
  joinWith (m.separators.take 1) items

/-- The pieces that a value stands for. Whether words are split decides what a list stands
for. -/
def piecesOf (m : Machine) (splits quoted : Bool) : Found → List Piece
  | .one t => Piece.ofText quoted (t.getD [])
  | .list items joins =>
    let separated := (items.map fun t =>
      if quoted then .quotes :: Piece.ofText true t else Piece.ofText false t)
    if !splits then
      let joinsAll := joins || m.dialect = .dash
      Piece.ofText quoted (if joinsAll then m.joined items else joinWith [' '] items)
    else if quoted ∧ joins then Piece.ofText true (m.joined items)
    else (separated.intersperse [.border]).flatten

def isMissing (orEmpty : Bool) : Found → Bool
  | .one none => true
  | .one (some t) => orEmpty && t.isEmpty
  | .list items _ => items.isEmpty || (orEmpty && items.all (·.isEmpty))

/-- The pieces of a word that stands for a value: unquoted characters can be split. -/
def asValue (ps : List Piece) : List Piece :=
  ps.map fun p => match p with
    | .char c false => .split c
    | p => p

/-! ### Operations -/

def Found.map (f : Text → Text) : Found → Found
  | .one t => .one (t.map f)
  | .list items joins => .list (items.map f) joins

def trimmed (g : Glob) (suffix longest : Bool) (t : Text) : Text :=
  if suffix then (g.matchingSuffix? longest t).elim t fun n => t.take n
  else (g.matchingPrefix? longest t).elim t fun n => t.drop n

def replaced (g : Glob) (by_ : Text → Text) (everywhere : Bool) : Nat → Text → Text
  | 0, t => t
  | n + 1, t =>
    match g.matchingPrefix? true t, t with
    | some (k + 1), t =>
      let rest := t.drop (k + 1)
      by_ (t.take (k + 1)) ++ if everywhere then replaced g by_ everywhere n rest else rest
    | _, [] => []
    | _, c :: rest => c :: replaced g by_ everywhere n rest

def replacedAt (g : Glob) (by_ : Text → Text) (everywhere : Bool) (anchor : Option Char)
    (t : Text) : Text :=
  match anchor with
  | some '#' => match g.matchingPrefix? true t with
    | some n => by_ (t.take n) ++ t.drop n
    | none => t
  | some _ => match g.matchingSuffix? true t with
    | some n => t.take n ++ by_ (t.drop n)
    | none => t
  | none => replaced g by_ everywhere (t.length + 1) t

def recased (g : Glob) (letters : LetterCase) (everywhere : Bool) (t : Text) : Text :=
  let change (c : Char) : Char := if g.accepts [c] then letters.changeChar c else c
  if everywhere then t.map change
  else match t with
    | c :: rest => change c :: rest
    | [] => []

def transformed (kind : Char) (t : Text) : Text :=
  match kind with
  | 'U' => t.map Char.toUpper
  | 'L' => t.map Char.toLower
  | 'u' => match t with
    | c :: rest => c.toUpper :: rest
    | [] => []
  | 'Q' | 'K' | 'k' => Quoted.shell t
  | 'E' => match readEscapes (t.length + 2) (t ++ ['\'']) with
    | some (cs, _) => cs
    | none => t
  | 'a' => []
  | _ => t

/-- A part of a list of things: from a place on, which may be counted from the end, up to a number
of them or up to a place that is counted from the end. -/
def sliced (items : List α) (first : Int) (count : Option Int) : Option (List α) :=
  let size : Int := items.length
  let first := if first < 0 then size + first else first
  if first < 0 ∨ size < first then some []
  else match count with
    | none => some (items.drop first.toNat)
    | some n =>
      if 0 ≤ n then some ((items.drop first.toNat).take n.toNat)
      else if size + n < first then none
      else some ((items.drop first.toNat).take (size + n - first).toNat)

def replacement (ps : List Piece) (found : Text) : Text :=
  (Piece.quotable ps).flatMap fun (c, quoted) => if c = '&' ∧ !quoted then found else [c]

def missing (name : Text) (message : Option Text) (orEmpty : Bool) (m : Machine) : Machine :=
  let usual := match m.dialect with
    | .dash => if orEmpty then "parameter not set or null" else "parameter not set"
    | .bash => if orEmpty then "parameter null or not set" else "parameter not set"
  let status := match m.dialect with
    | .dash => 2
    | .bash => 127
  m.fail (name ++ ": ".toList ++ message.getD usual.toList) status

def unbound (name : Text) (m : Machine) : Machine :=
  match m.dialect with
  | .dash => m.fail (name ++ ": parameter not set".toList) 2
  | .bash => m.fail (name ++ ": unbound variable".toList) 127

def isUnbound (m : Machine) : Found → Bool
  | .one none => m.has "nounset"
  | _ => false

def lengthOf (m : Machine) : Found → Nat
  | .one t => (t.getD []).length
  | .list items _ =>
    match m.dialect with
    | .dash => (m.joined items).length
    | .bash => items.length

def slice (found : Found) (name : Text) (first : Int) (count : Option Int) (m : Machine) :
    Found × Machine :=
  let tooSmall : Machine :=
    m.fail (shownInt (count.getD 0) ++ ": substring expression < 0".toList) 1
  match found with
  | .one t => match sliced (t.getD []) first count with
    | some t => (.one (some t), m)
    | none => (.one none, tooSmall)
  | .list items joins =>
    let items := if name = ['@'] ∨ name = ['*'] then
        (if first = 0 then m.name :: items else items)
      else items
    let first := if (name = ['@'] ∨ name = ['*']) ∧ 0 < first then first - 1 else first
    match sliced items first count with
    | some items => (.list items joins, m)
    | none => (.one none, tooSmall)

def parameterPieces (expand : Expander) (splits : Bool) (name : Text) (sub : Word)
    (o : Operation) (operands : List Word) (quoted : Bool) (m : Machine) :
    List Piece × Machine :=
  let (found, m) := m.lookUp expand name sub
  let operand := operands.headD []
  let give (f : Found) (m : Machine) : List Piece × Machine := (m.piecesOf splits quoted f, m)
  let changed (f : Text → Text) (m : Machine) : List Piece × Machine :=
    if m.isUnbound found then ([], m.unbound name) else give (Found.map f found) m
  let word (m : Machine) : List Piece × Machine :=
    let (ps, m) := expand operand m
    (if quoted then ps else asValue ps, m)
  if !m.isRunning then ([], m)
  else match o with
  | .value => changed id m
  | .length =>
    if m.isUnbound found then ([], m.unbound name)
    else give (.one (some (shown (m.lengthOf found)))) m
  | .default orEmpty => if isMissing orEmpty found then word m else give found m
  | .alternative orEmpty => if isMissing orEmpty found then ([], m) else word m
  | .require orEmpty =>
    if isMissing orEmpty found then
      let (t, m) := textBy expand operand m
      ([], m.missing name (if t.isEmpty then none else some t) orEmpty)
    else give found m
  | .assign orEmpty =>
    if isMissing orEmpty found then
      let (t, m) := textBy expand operand m
      if !m.isRunning then ([], m)
      else if !isName name then
        let message := match m.dialect with
          | .dash => name ++ ": bad variable name".toList
          | .bash => '$' :: name ++ ": cannot assign in this way".toList
        ([], m.fail message (if m.dialect = .dash then 2 else 1))
      else
        let m := m.assignOrFail name t
        if m.isRunning then give (.one (some t)) m else ([], m)
    else give found m
  | .trim suffix longest =>
    let (g, m) := globBy expand m.globStyle operand m
    changed (trimmed g suffix longest) m
  | .slice =>
    let (first, m) := numberBy expand operand m
    let (count, m) : Option Int × Machine := match operands with
      | [_, w] =>
        let (n, m) := numberBy expand w m
        (some n, m)
      | _ => (none, m)
    let (f, m) := m.slice found name first count
    if m.isRunning then give f m else ([], m)
  | .replace everywhere anchor =>
    let (g, m) := globBy expand m.textStyle operand m
    let (ps, m) := match operands with
      | [_, w] => expand w m
      | _ => ([], m)
    changed (replacedAt g (replacement ps) everywhere anchor) m
  | .recase letters everywhere =>
    let (g, m) := if operand.isEmpty then ([.one fun _ => true], m)
      else globBy expand m.globStyle operand m
    changed (recased g letters everywhere) m
  | .transform kind =>
    match kind, m.binding? (m.target 10 name) with
    | 'a', some b => give (.one (some b.letterText)) m
    | 'A', some b => give (.one (some (assignmentText name b))) m
    | 'K', some { value := some (.indexed items), .. } =>
      give (.one (some (joinWith [' '] (items.map fun (i, t) =>
        shownInt i ++ ' ' :: Quoted.double t)))) m
    | 'K', some { value := some (.associative items), .. } =>
      give (.one (some ((listed items).flatMap fun (k, t) =>
        k ++ ' ' :: Quoted.double t ++ [' ']))) m
    | _, _ => changed (transformed kind) m
  | .indirect =>
    match found with
    | .one (some t) =>
      let name := t.takeWhile (· ≠ '[')
      match t.drop name.length with
      | _ :: inner =>
        let (f, m) := m.lookUp expand name (Word.ofText true (inner.takeWhile (· ≠ ']')))
        give f m
      | [] =>
        let (f, m) := m.lookUp expand name []
        give f m
    | _ => give (.one none) m
  | .keys =>
    let joins : Bool := match sub with
      | [.char '*' _] => true
      | _ => false
    give (.list ((m.itemsOf name).map (·.1)) joins) m
  | .names =>
    let joins : Bool := match sub with
      | [.char '*' _] => true
      | _ => false
    let all := (m.bindings.map (·.1)).filter fun n => name.isPrefixOf n
    give (.list (all.mergeSort Text.precedes) joins) m
  | .bad =>
    match m.dialect with
    | .dash => ([], m.fail "Bad substitution".toList 2)
    | .bash => ([], m.fail (name ++ ": bad substitution".toList) 1)

/-- The script of a substitution. Some shells read a file if there is only a redirection. -/
def substitutionText (d : Dialect) (script : Text) : Text :=
  match d, script.dropWhile isSpace with
  | .bash, '<' :: c :: rest =>
    if c = '<' ∨ c = '(' then script else "cat <".toList ++ c :: rest
  | _, _ => script

def partPieces (run : Runner) (expand : Expander) (splits : Bool) (p : Part) (m : Machine) :
    List Piece × Machine :=
  match p with
  | .char c quoted => ([.char c quoted], m)
  | .quotes => ([.quotes], m)
  | .parameter name sub o operands quoted =>
    m.parameterPieces expand splits name sub o operands quoted
  | .output script line quoted =>
    let inner := runText run .substitution line (substitutionText m.dialect script)
    let (t, m) := m.capture fun m => inner { m with status := 0 }
    let m := { m with substituted := some m.status }
    let t := withoutLineFeeds (t.filter (· ≠ '\x00'))
    (Piece.ofText quoted t, m)
  | .arithmetic e quoted =>
    let (n, m) := numberBy expand e m
    (Piece.ofText quoted (shownInt n), m)
  | .stream false script line =>
    let path := "/dev/fd/".toList ++ shown (60 + m.next % 4)
    let files := m.files.place path (.file [])
    (Piece.ofText true path, { m with files, sinks := (path, script, line) :: m.sinks })
  | .stream true script line =>
    let (t, m) := m.capture (runText run .substitution line script)
    let path := "/dev/fd/".toList ++ shown (60 + m.next % 4)
    let files := m.files.place path (.file t.octets)
    (Piece.ofText true path, { m with files })

def pieces (run : Runner) (splits : Bool) : Nat → Expander
  | 0, _, m => ([], m)
  | n + 1, w, m =>
    let (ps, m) := w.foldl (fun (ps, m) p =>
      if m.isRunning then
        let (more, m) := m.partPieces run (pieces run splits n) splits p
        (more.reverse ++ ps, m)
      else (ps, m)) (([] : List Piece), m)
    (ps.reverse, m)

/-! ### Words -/

def home? (m : Machine) (user : Text) : Option Text :=
  if user.isEmpty then m.parameter? "HOME".toList
  else if user = "root".toList then some "/root".toList
  else if m.dialect = .bash ∧ user = ['+'] then m.parameter? "PWD".toList
  else if m.dialect = .bash ∧ user = ['-'] then m.parameter? "OLDPWD".toList
  else none

def expandTilde (ends : Char → Bool) (m : Machine) (w : Word) : Word :=
  match w with
  | .char '~' false :: rest =>
    let (user, behind) := Word.splitPlain (fun c => c ≠ '/' && !ends c) rest
    let whole : Bool := match behind with
      | [] => true
      | .char c false :: _ => c = '/' || ends c
      | _ => false
    match whole, m.home? user with
    | true, some home => Word.ofText true home ++ behind
    | _, _ => w
  | w => w

def expandTildes (m : Machine) (w : Word) : Word :=
  let isColon (c : Char) : Bool := c = ':'
  let cut : List Word := w.splitOnP fun p => match p with
    | .char ':' false => true
    | _ => false
  ((cut.map (m.expandTilde isColon)).intersperse [.char ':' false]).flatten

def depth : Nat := 200

def expandText (run : Runner) (w : Word) (m : Machine) : Text × Machine :=
  textBy (pieces run false depth) (m.expandTilde (fun _ => false) w) m

def expandValue (run : Runner) (w : Word) (m : Machine) : Text × Machine :=
  textBy (pieces run false depth) (m.expandTildes w) m

def expandGlob (run : Runner) (s : Glob.Style) (w : Word) (m : Machine) : Glob × Machine :=
  globBy (pieces run false depth) s w m

/-- The names of files that a field stands for, or its own text if there are none. -/
def fieldNames (q : Quotable) (m : Machine) : List Text × Machine :=
  let isOn (feature : String) : Bool := m.dialect = .bash && m.hasFeature feature
  let s := { m.globStyle with
    ignoresCase := isOn "nocaseglob", showsHidden := isOn "dotglob" }
  match Glob.fieldNames? s m.files q with
  | some [] =>
    if isOn "failglob" then ([], m.fail ("no match: ".toList ++ Quotable.text q) 1)
    else (if isOn "nullglob" then [] else [Quotable.text q], m)
  | some names => (names, m)
  | none => ([Quotable.text q], m)

def expandWord (run : Runner) (w : Word) (m : Machine) : List Text × Machine :=
  let (ps, m) := pieces run true depth (m.expandTilde (fun _ => false) w) m
  let fields := Fields.ofPieces m.separators ps
  if m.has "noglob" then (fields.map Quotable.text, m)
  else fields.foldl (fun (found, m) q =>
    let (more, m) := m.fieldNames q
    (found ++ more, m)) (([] : List Text), m)

def expandFields (run : Runner) (ws : List Word) (m : Machine) : List Text × Machine :=
  let ws := if m.dialect = .bash then ws.flatMap Brace.words else ws
  let (fields, m) := ws.foldl (fun (fields, m) w =>
    if m.isRunning then
      let (more, m) := m.expandWord run w
      (more.reverse ++ fields, m)
    else (fields, m)) (([] : List Text), m)
  (fields.reverse, m)

end Machine

end StructuralEdit.Shell
