import StructuralEdit.Shell.Launching
import StructuralEdit.Shell.Records.Program
import StructuralEdit.Shell.Utility.Arguments
import StructuralEdit.Shell.Utility.Blocks
import StructuralEdit.Shell.Utility.Columns
import StructuralEdit.Shell.Utility.Date
import StructuralEdit.Shell.Utility.Difference
import StructuralEdit.Shell.Utility.Directory
import StructuralEdit.Shell.Utility.Edit
import StructuralEdit.Shell.Utility.Encode
import StructuralEdit.Shell.Utility.Exchange
import StructuralEdit.Shell.Utility.Manage
import StructuralEdit.Shell.Utility.Order
import StructuralEdit.Shell.Utility.Paragraph
import StructuralEdit.Shell.Utility.Plain
import StructuralEdit.Shell.Utility.Precedence
import StructuralEdit.Shell.Utility.Printf
import StructuralEdit.Shell.Utility.Scaled
import StructuralEdit.Shell.Utility.Search
import StructuralEdit.Shell.Utility.Show
import StructuralEdit.Shell.Utility.Tree
/-!
The programs of the system, by name.
-/
namespace StructuralEdit.Shell

def shellDialect? : String → Option Dialect
  | "sh" | "dash" => some .dash
  | "bash" | "rbash" => some .bash
  | _ => none

def utilities : List (String × Utility) :=
  [("[", testCondition true), ("arch", say "x86_64"), ("base32", convert Alphabet.base32),
    ("base64", convert Alphabet.base64), ("basename", showLastNames), ("cat", concatenate),
    ("chmod", changeModes), ("cksum", checksum), ("cmp", compareBytes), ("comm", compareSorted),
    ("cp", copyFiles), ("cut", cutLines), ("date", writeMoment), ("dd", copyBlocks),
    ("diff", compareLines), ("dirname", showParents), ("echo", echoArguments),
    ("egrep", searchLines (some .lenient)), ("expand", expandTabs), ("expr", calculate),
    ("factor", factorNumbers), ("false", fail), ("fgrep", searchLines none),
    ("fmt", fillParagraphs), ("fold", foldLines), ("grep", searchLines (some .basic)),
    ("groups", say "root"), ("head", takeFirst), ("id", showUser), ("join", joinLines),
    ("ln", linkFiles), ("ls", listDirectories), ("md5sum", digestWith "MD5" Digest.md5),
    ("mkdir", makeDirectories), ("mv", moveFiles), ("nl", numberLines), ("numfmt", scaleNumbers),
    ("od", dump), ("paste", pasteLines), ("printenv", showEnvironment), ("printf", printFormatted),
    ("pwd", showDirectory), ("rev", mirrorLines), ("rm", removeFiles),
    ("rmdir", removeDirectories), ("seq", countUp), ("sha1sum", digestWith "SHA1" Digest.sha1),
    ("sha224sum", digestWith "SHA224" Digest.sha224),
    ("sha256sum", digestWith "SHA256" Digest.sha256),
    ("sha384sum", digestWith "SHA384" Digest.sha384),
    ("sha512sum", digestWith "SHA512" Digest.sha512), ("sleep", wait), ("sort", sortLines),
    ("sum", oldChecksum), ("tac", reverseLines), ("tail", takeLast), ("tee", copyInput),
    ("test", testCondition false), ("touch", touchFiles), ("tr", exchangeCharacters),
    ("true", succeed), ("tsort", orderItems), ("tty", showTerminal), ("uname", showSystem),
    ("unexpand", packTabs), ("uniq", mergeRepeated), ("wc", countAll),
    ("whoami", say "root"), ("yes", repeatLine)]

def launchers : List (String × Launcher) :=
  [("awk", processRecords), ("env", changeEnvironment), ("find", searchTrees),
    ("mawk", processRecords), ("nice", lowerPriority), ("nohup", ignoreHangup),
    ("sed", .ofUtility editLines), ("setsid", startSession), ("stdbuf", changeBuffering),
    ("timeout", limitTime), ("which", showPrograms), ("xargs", feedArguments)]

def programNames : List String :=
  ["sh", "dash", "bash"] ++ utilities.map (·.1) ++ launchers.map (·.1)

end StructuralEdit.Shell
