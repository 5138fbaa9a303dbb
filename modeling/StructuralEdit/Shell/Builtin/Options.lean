import StructuralEdit.Shell.Machine
/-!
The options that commands of the extended language know, and what is said of other ones.
-/
namespace StructuralEdit.Shell

structure CommandOptions where
  letters : String
  usage : String

namespace CommandOptions

def find? : String → Option CommandOptions
  | "alias" => some ⟨"p", "alias [-p] [name[=value] ... ]"⟩
  | "cd" => some ⟨"LPe@", "cd [-L|[-P [-e]] [-@]] [dir]"⟩
  | "command" => some ⟨"pvV", "command [-pVv] command [arg ...]"⟩
  | "disown" => some ⟨"ahr", "disown [-h] [-ar] [jobspec ... | pid ...]"⟩
  | "enable" => some ⟨"adnpsf:", "enable [-a] [-dnps] [-f filename] [name ...]"⟩
  | "eval" => some ⟨"", "eval [arg ...]"⟩
  | "exec" => some ⟨"cla:", "exec [-cl] [-a name] [command [argument ...]] [redirection ...]"⟩
  | "export" => some ⟨"fnp", "export [-fn] [name[=value] ...] or export -p"⟩
  | "hash" => some ⟨"dlp:rt", "hash [-lr] [-p pathname] [-dt] [name ...]"⟩
  | "help" => some ⟨"dms", "help [-dms] [pattern ...]"⟩
  | "history" => some ⟨"acnrpswd:", "history [-c] [-d offset] [n] or history -anrw [filename] " ++
      "or history -ps arg [arg...]"⟩
  | "jobs" => some ⟨"lnprsx", "jobs [-lnprs] [jobspec ...] or jobs -x command [args]"⟩
  | "mapfile" => some ⟨"d:u:n:s:O:C:c:t", "mapfile [-d delim] [-n count] [-O origin] " ++
      "[-s count] [-t] [-u fd] [-C callback] [-c quantum] [array]"⟩
  | "pwd" => some ⟨"LP", "pwd [-LP]"⟩
  | "read" => some ⟨"ersa:d:i:n:N:p:t:u:", "read [-ers] [-a array] [-d delim] [-i text] " ++
      "[-n nchars] [-N nchars] [-p prompt] [-t timeout] [-u fd] [name ...]"⟩
  | "readarray" => some ⟨"d:u:n:s:O:C:c:t", "readarray [-d delim] [-n count] [-O origin] " ++
      "[-s count] [-t] [-u fd] [-C callback] [-c quantum] [array]"⟩
  | "readonly" => some ⟨"aAfp", "readonly [-aAf] [name[=value] ...] or readonly -p"⟩
  | "shopt" => some ⟨"psuqo", "shopt [-pqsu] [-o] [optname ...]"⟩
  | "source" => some ⟨"", "source filename [arguments]"⟩
  | "." => some ⟨"", ". filename [arguments]"⟩
  | "suspend" => some ⟨"f", "suspend [-f]"⟩
  | "times" => some ⟨"", "times"⟩
  | "trap" => some ⟨"lp", "trap [-lp] [[arg] signal_spec ...]"⟩
  | "type" => some ⟨"afptP", "type [-afptP] name [name ...]"⟩
  | "umask" => some ⟨"pS", "umask [-p] [-S] [mode]"⟩
  | "unalias" => some ⟨"a", "unalias [-a] name [name ...]"⟩
  | "unset" => some ⟨"fnv", "unset [-f] [-v] [-n] [name ...]"⟩
  | "wait" => some ⟨"fnp:", "wait [-fn] [-p var] [id ...]"⟩
  | _ => none

def takesValue? (letters : Text) (c : Char) : Option Bool :=
  match letters.dropWhile (· ≠ c) with
  | [] => none
  | _ :: rest => if c = ':' then none else some (rest.head? = some ':')

/-- The first mistake in the options at the beginning of words: a letter, and whether it is known
and only lacks its value. -/
def mistake? (letters : Text) : List Text → Option (Char × Bool)
  | [] => none
  | a :: args =>
    let rec inLetters : Text → Option (Char × Bool) × Nat
      | [] => (none, 0)
      | c :: rest =>
        match takesValue? letters c with
        | none => (some (c, false), 0)
        | some false => inLetters rest
        | some true =>
          if rest.isEmpty then if args.isEmpty then (some (c, true), 0) else (none, 1)
          else (none, 0)
    match a with
    | '-' :: c :: rest =>
      if c = '-' ∧ rest.isEmpty then none
      else match inLetters (c :: rest) with
        | (some m, _) => some m
        | (none, 0) => mistake? letters args
        | (none, _ + 1) => mistake? letters args.tail
    | _ => none
termination_by args => args.length
decreasing_by all_goals simp_wf; try omega

end CommandOptions

namespace Machine

def sayUsage (command usage : String) (m : Machine) : Machine :=
  { m.write 2 (command ++ ": usage: " ++ usage ++ "\n").toList with status := 2 }

def refuseOptions? (command : String) (args : List Text) (m : Machine) : Option Machine := do
  let known ← CommandOptions.find? command
  let (c, isKnown) ← CommandOptions.mistake? known.letters.toList args
  let why := if isKnown then ": option requires an argument" else ": invalid option"
  some ((m.complain ((command ++ ": -").toList ++ c :: why.toList) 2).sayUsage command known.usage)

end Machine

end StructuralEdit.Shell
