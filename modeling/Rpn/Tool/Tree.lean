import Rpn.Host.Account
import Rpn.Host.FileTest
import Rpn.Host.Mode
import Rpn.Tool.Options
import Rpn.Tool.Quoting

/-! Ways to look at the file tree and to change it that several tools share.  Only serves the test
environment. -/

namespace Rpn.Tool

open Host

def inFolder (folder name : Bytes) : Bytes :=
  if folder.getLast? = some Ascii.slash then folder ++ name else folder ++ Ascii.slash :: name

def withoutTrailingSlashes (path : Bytes) : Bytes :=
  match (path.reverse.dropWhile (· == Ascii.slash)).reverse with
  | [] => if path = [] then [] else [Ascii.slash]
  | trimmed => trimmed

def node? (path : Bytes) (follow : Bool := true) : Run (Option (Option NodeId × Node)) := do
  match ← Act.examine path follow with
  | .ok found => return some found
  | .error _ => return none

def isFolderNode (node : Node) : Bool :=
  FileTest.isKind 100 node

def isLinkNode (node : Node) : Bool :=
  FileTest.isKind 104 node

def isFolderPath (path : Bytes) (follow : Bool := true) : Run Bool := do
  match ← node? path follow with
  | some (_, node) => return isFolderNode node
  | none => return false

def entryNames (path : Bytes) : Run (Except Fault (List Bytes)) := do
  match ← Act.examine path with
  | .ok (some id, _) =>
      let files ← Act.files
      return (files.require id User.reading).map fun _ => files.names id
  | .ok (none, _) => return .ok []
  | .error fault => return .error fault

def modifyNode (path : Bytes) (follow : Bool) (change : Node → Node) : Run Unit :=
  Act.change fun self world =>
    match world.examine self path follow with
    | .ok (some id, _) => { world with files := world.files.modify id change }
    | _ => world

def currentTime : Run Nat :=
  Act.look fun _ world => world.now

def agrees : Run Bool := do
  let answer ← readAnswer 1000 []
  return answer.head?.any fun byte => byte == 121 || byte == 89
where
  readAnswer : Nat → Bytes → Run Bytes
    | 0, text => return text.reverse
    | bound + 1, text => do
        match ← Act.read 0 1 with
        | .ok [byte] =>
            if byte = Ascii.newline then return text.reverse else readAnswer bound (byte :: text)
        | _ => return text.reverse

def confirm (question : Bytes) : Run Bool := do
  Run.note ((← get).name ++ ascii ": " ++ question ++ ascii "? ")
  agrees

def kindName (node : Node) : Bytes :=
  match node.content with
  | .folder _ _ | .processes => ascii "directory"
  | .file data => ascii (if data.size = 0 then "regular empty file" else "regular file")
  | .link _ => ascii "symbolic link"
  | .device _ => ascii "character special file"
  | .fifo _ => ascii "fifo"
  | .tool _ => ascii "regular file"

end Rpn.Tool
