import Rpn.Shell.Start
import Rpn.Tool.Arguments
import Rpn.Tool.Attribute
import Rpn.Tool.Awk
import Rpn.Tool.Blocks
import Rpn.Tool.Checksum
import Rpn.Tool.Condition
import Rpn.Tool.Copy
import Rpn.Tool.Diff
import Rpn.Tool.Dump
import Rpn.Tool.Encoding
import Rpn.Tool.Expression
import Rpn.Tool.Find
import Rpn.Tool.Grep
import Rpn.Tool.Listing
import Rpn.Tool.Number
import Rpn.Tool.Order
import Rpn.Tool.Page
import Rpn.Tool.Paragraph
import Rpn.Tool.Pathname
import Rpn.Tool.Sed
import Rpn.Tool.Sorting
import Rpn.Tool.Special
import Rpn.Tool.Split
import Rpn.Tool.Translate

/-! The programs of the system by name.  Only serves the test environment. -/

namespace Rpn.Tool

open Host

def mains : List (String × Main) :=
  [ ("true", succeed), ("false", refuse), ("cat", cat), ("chmod", chmod), ("touch", touch),
    ("truncate", truncate), ("mkdir", mkdir), ("rmdir", rmdir), ("rm", rm), ("unlink", unlinkTool),
    ("link", linkTool), ("ln", ln), ("readlink", readlink), ("realpath", realpath),
    ("mkfifo", mkfifo), ("mktemp", mktemp), ("basename", basename), ("dirname", dirname),
    ("pwd", pwd), ("cp", cp), ("mv", mv), ("install", install), ("ls", ls), ("stat", stat),
    ("head", head), ("tail", tail), ("tac", tac), ("rev", rev), ("wc", wc), ("nl", nl),
    ("tee", tee), ("cut", cut), ("paste", paste), ("fold", fold), ("expand", expand),
    ("unexpand", unexpand), ("tr", tr), ("sort", sort), ("uniq", uniq), ("comm", comm),
    ("join", join), ("od", od), ("cmp", cmp), ("echo", echo), ("printf", printf), ("yes", yes),
    ("seq", seq), ("test", test), ("[", bracket), ("expr", expr), ("env", env),
    ("printenv", printenv), ("sleep", sleep), ("date", date), ("timeout", timeout),
    ("nice", nice), ("nohup", nohup), ("setsid", setsid), ("stdbuf", stdbuf), ("kill", kill),
    ("whoami", whoami), ("id", id), ("groups", groups), ("logname", logname), ("uname", uname), ("arch", arch),
    ("hostname", hostname), ("nproc", nproc), ("tty", tty), ("which", which),
    ("xargs", xargs), ("sed", sed), ("grep", grep), ("egrep", egrep),
    ("fgrep", fgrep), ("find", find), ("awk", awk), ("mawk", awk), ("nawk", awk),
    ("md5sum", md5sum), ("sha1sum", sha1sum), ("sha224sum", sha224sum), ("sha256sum", sha256sum),
    ("sha384sum", sha384sum), ("sha512sum", sha512sum), ("b2sum", b2sum), ("sum", sum),
    ("cksum", cksum), ("diff", diff), ("split", split), ("csplit", csplit),
    ("factor", factor), ("numfmt", numfmt), ("tsort", tsort), ("shuf", shuf), ("pathchk", pathchk),
    ("fmt", fmt), ("pr", paginate), ("base64", base64), ("base32", base32),
    ("dd", dd), ("mknod", mknod), ("rgrep", rgrep),
    ("dir", dir), ("vdir", vdir), ("more", more) ]

def shells : List (String × Bool) :=
  [("sh", false), ("dash", false), ("bash", true)]

def names : List Bytes :=
  (mains.map (·.1) ++ shells.map (·.1)).map ascii

def program? (system : System) (name : Bytes) : Option (List Bytes → Host.Program) :=
  match shells.find? fun entry => ascii entry.1 == name with
  | some (_, extended) => some (Shell.Start.program system extended)
  | none =>
      (mains.find? fun entry => ascii entry.1 == name).map fun (_, main) =>
        toProgram main system

def maximalDepth : Nat := 1000000

def system : System :=
  System.ofTools program? maximalDepth

end Rpn.Tool
