import StructuralEdit.Shell.Utility.Order
/-!
Listing directories.
-/
namespace StructuralEdit.Shell

namespace Listing

/-- How the names of a directory are laid out. -/
inductive Layout where
  | lines
  | columns
  | rows
  | commas
  | long
  deriving DecidableEq

structure Style where
  layout : Layout := .lines
  hidden : Bool := false
  dots : Bool := false
  slashes : Bool := false
  quotes : Bool := false
  escapes : Bool := false
  sizes : Bool := false
  width : Nat := 80
  mark : Char := '\n'

/-- Something to be listed: how it is called, and what it is. -/
structure Entry where
  name : Text
  node : FileNode

def Entry.isDirectory (e : Entry) : Bool :=
  match e.node with
  | .directory _ => true
  | .file _ => false

def Entry.size (e : Entry) : Nat :=
  match e.node with
  | .directory _ => 4096
  | .file content => content.length

def Entry.room (e : Entry) : Nat := (e.size + 4095) / 4096 * 4

def shown (s : Style) (e : Entry) : Text :=
  let name :=
    if s.quotes then
      '"' :: (e.name.flatMap fun c => if c = '"' ∨ c = '\\' then ['\\', c] else [c]) ++ ['"']
    else if s.escapes then e.name.flatMap fun c =>
      if c = ' ' ∨ c = '\\' then ['\\', c] else if c = '\n' then ['\\', 'n'] else [c]
    else e.name
  if s.slashes ∧ e.isDirectory then name ++ ['/'] else name

def indent (stop : Nat) : Nat → Nat → Text
  | 0, _ => []
  | n + 1, place =>
    if stop ≤ place then []
    else if (place + 1) / 8 < stop / 8 then '\t' :: indent stop n (place + 8 - place % 8)
    else ' ' :: indent stop n (place + 1)

def columnOf (byRows : Bool) (rows columns i : Nat) : Nat :=
  if byRows then i % columns else i / rows

/-- The widths of columns if there are so many of them, with the blanks between them. -/
def widths (byRows : Bool) (sizes : List Nat) (columns : Nat) : List Nat :=
  let rows := (sizes.length + columns - 1) / columns
  (List.range columns).map fun (k : Nat) =>
    let own := sizes.zipIdx.filterMap fun (n, i) =>
      if columnOf byRows rows columns i = k then some n else none
    let gap := if k + 1 = columns then 0 else 2
    max 3 ((own.foldl max 0) + gap)

def inColumns (byRows : Bool) (width : Nat) (texts : List Text) : Text :=
  let sizes := texts.map List.length
  let fits (columns : Nat) : Bool :=
    let ws := widths byRows sizes columns
    columns ≤ 1 || ws.foldl (· + ·) 0 < width
  let most := max 1 (min texts.length (width / 3))
  let columns := (((List.range most).map (· + 1)).reverse.find? fits).getD 1
  let rows := (texts.length + columns - 1) / columns
  let ws := widths byRows sizes columns
  let starts := (List.range columns).map fun (k : Nat) => (ws.take k).foldl (· + ·) 0
  (List.range rows).flatMap fun (r : Nat) =>
    let line := (List.range columns).filterMap fun (k : Nat) =>
      let i := if byRows then r * columns + k else k * rows + r
      (texts[i]?).map fun t => ((starts[k]?).getD 0, t)
    let (out, _) := line.foldl (fun (out, place) (start, t) =>
      (out ++ indent start start place ++ t, start + t.length)) (([] : Text), 0)
    out ++ ['\n']

def withCommas (width : Nat) (texts : List Text) : Text :=
  let (out, _, _) := texts.foldl (fun (out, place, isFirst) t =>
    if isFirst then (t, t.length, false)
    else if place + t.length + 2 < width then (out ++ [',', ' '] ++ t, place + t.length + 2, false)
    else (out ++ [',', '\n'] ++ t, t.length, false)) (([] : Text), 0, true)
  if texts.isEmpty then [] else out ++ ['\n']

def longLine (s : Style) (sizeWidth : Nat) (e : Entry) : Text :=
  let (mode, links) := if e.isDirectory then ("drwxr-xr-x", "2") else ("-rw-r--r--", "1")
  mode.toList ++ ' ' :: links.toList ++ " root root ".toList ++
    padLeft sizeWidth (Shell.shown e.size) ' ' ++ " Jan  1 00:00 ".toList ++ shown s e ++ ['\n']

def render (s : Style) (es : List Entry) : Text :=
  let room (e : Entry) : Text :=
    if s.sizes then
      padLeft ((es.map fun e => (Shell.shown e.room).length).foldl max 0) (Shell.shown e.room) ' '
        ++ [' ']
    else []
  let texts := es.map fun e => room e ++ shown s e
  match s.layout with
  | .lines => texts.flatMap fun t => t ++ [s.mark]
  | .columns => if texts.isEmpty then [] else inColumns false s.width texts
  | .rows => if texts.isEmpty then [] else inColumns true s.width texts
  | .commas => withCommas s.width texts
  | .long =>
    let width := (es.map fun e => (Shell.shown e.size).length).foldl max 0
    es.flatMap fun e => room e ++ longLine s width e

def order (f : Options) : Entry → Entry → Bool :=
  let byName (a b : Entry) : Bool := Text.precedes a.name b.name
  let extension (e : Entry) : Text :=
    let (last, rest) := e.name.reverse.span (· ≠ '.')
    if rest.isEmpty then [] else last.reverse
  let first : Entry → Entry → Bool := match f.last? ["S", "X", "v", "U", "f", "t"] with
    | some "S" => fun a b => b.size < a.size || (a.size = b.size && byName a b)
    | some "X" => fun a b =>
      let x := extension a
      let y := extension b
      if x = y then byName a b else Text.precedes x y
    | some "v" => fun a b => Sorting.compareVersions a.name b.name != .gt
    | _ => byName
  if f.has "r" then fun a b => first b a else first

def sorted (f : Options) (es : List Entry) : List Entry := es.mergeSort (order f)

def entriesOf (s : Style) (f : Options) (entries : List (Text × FileNode)) : List Entry :=
  let isShown (name : Text) : Bool := s.hidden || s.dots || name.head? ≠ some '.'
  let own := (entries.map fun (name, node) => Entry.mk (encode name) node).filter fun e =>
    isShown e.name
  let dots := if s.dots then
      [Entry.mk ['.'] (.directory []), Entry.mk ['.', '.'] (.directory [])] else []
  sorted f (dots ++ own)

def total (s : Style) (es : List Entry) : Text :=
  if s.layout = .long ∨ s.sizes then
    "total ".toList ++ Shell.shown ((es.map Entry.room).foldl (· + ·) 0) ++ ['\n']
  else []

/-- A directory with what is in it, and the directories in it if that is asked for. The first
argument bounds how deep they are nested. -/
def directory (s : Style) (f : Options) : Nat → Text → List (Text × FileNode) → List Text
  | 0, _, _ => []
  | n + 1, path, entries =>
    let es := entriesOf s f entries
    let header := if f.has "R" then path ++ [':', '\n'] else []
    let own := header ++ total s es ++ render s es
    let within (e : Entry) : List Text :=
      match e.node with
      | .directory inner =>
        if e.name = ['.'] ∨ e.name = ['.', '.'] then []
        else
          let slash := if path.getLast? = some '/' then [] else ['/']
          directory s f n (path ++ slash ++ e.name) inner
      | .file _ => []
    if f.has "R" then own :: es.flatMap within else [own]

def styleOf (f : Options) : Style :=
  let layout : Layout := match f.last? ["1", "C", "x", "m", "l", "g", "o", "n"] with
    | some "C" => .columns
    | some "x" => .rows
    | some "m" => .commas
    | some "1" => if f.has "l" then .long else .lines
    | some _ => .long
    | none => .lines
  { layout
    hidden := f.has "A" || f.has "f", dots := f.has "a" || f.has "f"
    slashes := f.has "F" || f.has "p", quotes := f.has "Q", escapes := f.has "b"
    sizes := f.has "s"
    width := ((f.value? "w").bind natural?).getD 80
    mark := if f.has "zero" then '\x00' else '\n' }

end Listing

open Listing in
def listDirectories : Utility :=
  withOptions ["a all", "A almost-all", "1", "C", "x", "m", "l", "g", "o", "n numeric-uid-gid",
    "d directory", "r reverse", "R recursive", "F classify=?", "p file-type", "S", "X", "v", "U",
    "f", "t", "c", "u", "h human-readable", "k kibibytes", "i inode", "s size",
    "q hide-control-chars", "N literal", "Q quote-name", "b escape", "w= width", "T= tabsize",
    "I= ignore", "L dereference",
    "H dereference-command-line", "G no-group", "B ignore-backups", "Z context", "color=?", "zero",
    "group-directories-first", "si", "author", "full-time", "sort=", "time=", "format=",
    "indicator-style=", "quoting-style=", "show-control-chars", "hide="] 2 fun c f =>
    let s := styleOf f
    let operands := if f.operands.isEmpty then [['.']] else f.operands
    let found := operands.map fun path => (path, c.files.find (decode path))
    let complaints := found.flatMap fun (path, r) =>
      match r with
      | .error e =>
        c.complaintLine ("cannot access ".toList ++ quotedName path ++ (": " ++ e.reason).toList)
      | .ok _ => []
    let entries := sorted f (found.filterMap fun (path, r) =>
      match r with
      | .ok node => some ⟨path, node⟩
      | .error _ => none)
    let apart (e : Entry) : Bool := e.isDirectory && !f.has "d"
    let files := entries.filter fun e => !apart e
    let directories := entries.filter apart
    let header : Bool := 1 < operands.length && !f.has "R"
    let parts := directories.flatMap fun e =>
      match e.node with
      | .directory inner =>
        let texts := directory s f 300 e.name inner
        match texts with
        | t :: rest => ((if header then e.name ++ [':', '\n'] else []) ++ t) :: rest
        | [] => []
      | .file _ => []
    let all := if files.isEmpty then parts else render s files :: parts
    let status := if complaints.isEmpty then 0 else 2
    { c.finish [] status with
      written := [(2, complaints), (1, joinWith ['\n'] all)] }

end StructuralEdit.Shell
