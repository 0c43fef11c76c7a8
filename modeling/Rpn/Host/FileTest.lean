import Rpn.Host.Request

/-! Questions about files.  Only serves the test environment. -/

namespace Rpn.Host.FileTest

def isKind (letter : UInt8) (node : Node) : Bool :=
  match Char.ofNat letter.toNat, node.content with
  | 'f', .file _ | 'f', .tool _ => true
  | 'd', .folder _ _ | 'd', .processes => true
  | 'c', .device _ => true
  | 'p', .fifo _ => true
  | 'h', .link _ | 'L', .link _ => true
  | _, _ => false

def size (node : Node) : Nat :=
  match node.content with
  | .file data => data.size
  | .tool _ => 1
  | .link target => target.length
  | .folder _ _ => 4096
  | _ => 0

def holds (user : User) (letter : UInt8) (node : Node) : Bool :=
  match Char.ofNat letter.toNat with
  | 'e' | 'a' => true
  | 'r' => user.mayUse node User.reading
  | 'w' => user.mayUse node User.writing
  | 'x' => user.mayUse node User.passing
  | 's' => 0 < size node
  | 'u' => node.mode &&& 2048 != 0
  | 'g' => node.mode &&& 1024 != 0
  | 'k' => node.mode &&& 512 != 0
  | 'O' => node.owner == user.number
  | 'G' => node.group == user.group
  | 'N' => node.accessed < node.modified
  | _ => isKind letter node

def ask (letter : UInt8) (path : Bytes) : Act Bool := do
  let follow := letter != 104 && letter != 76
  match ← Act.examine path follow with
  | .ok (_, node) => return holds (← Act.user) letter node
  | .error _ => return false

/-- Ask about two files: whether they are the same, or one was changed after the other.  `missing`
says that a file counts as changed after one that is not there. -/
def compare (operator : Bytes) (missing : Bool) (left right : Bytes) : Act Bool := do
  match ← Act.examine left, ← Act.examine right with
  | .ok (first, before), .ok (second, after) =>
      if operator = ascii "-ef" then return first.isSome && first == second
      else if operator = ascii "-nt" then return after.modified < before.modified
      else return before.modified < after.modified
  | .ok _, .error _ => return missing && operator == ascii "-nt"
  | .error _, .ok _ => return missing && operator == ascii "-ot"
  | .error _, .error _ => return false

end Rpn.Host.FileTest
