import Rpn.Host.Fault
import Rpn.Host.Path

/-! A file tree.  Folders give names to nodes, and one node may have several names.  Part of the
test environment. -/

namespace Rpn.Host

inductive Device where
  | null
  | zero
  | full
  | random
  | terminal
  deriving DecidableEq, Repr

abbrev NodeId := Nat

/-- What a node holds.  A `tool` is a program that the system brings, `processes` the folder in
which the system shows its processes. -/
inductive Content where
  | folder (parent : NodeId) (entries : List (Bytes × NodeId))
  | file (data : ByteArray)
  | link (target : Bytes)
  | device (device : Device)
  | fifo (pipe : Nat)
  | tool (name : Bytes)
  | processes

structure Node where
  content : Content
  mode : Nat
  links : Nat := 1
  modified : Nat := 0
  accessed : Nat := 0
  owner : Nat := 0
  group : Nat := 0

instance : Inhabited Node where
  default := { content := .file .empty, mode := 0 }

namespace Node

def runsAsOwner : Nat := 2048

/-- The bit of a mode by which a program runs as its group, and by which a folder hands its group on
to what is made in it. -/
def sharesGroup : Nat := 1024

def isSticky : Nat := 512

/-- The mode of a file after a user wrote to it.  It runs as its owner or its group no more. -/
def modeAfterWriting (mode : Nat) : Nat :=
  let mode := mode - (mode &&& runsAsOwner)
  if mode &&& 8 = 0 then mode else mode - (mode &&& sharesGroup)

end Node

/-- Somebody who works with files.  The user with the number zero may do everything. -/
structure User where
  number : Nat := 0
  group : Nat := 0
  deriving DecidableEq, Repr

namespace User

def reading : Nat := 4

def writing : Nat := 2

def passing : Nat := 1

/-- Whether a user may do what is wanted with a node.  The owner, the group and all others have bits
of their own. -/
def mayUse (user : User) (node : Node) (wanted : Nat) : Bool :=
  if user.number = 0 then
    match node.content with
    | .folder _ _ => true
    | _ => wanted &&& passing == 0 || node.mode &&& 73 != 0
  else
    let shift := if node.owner = user.number then 6 else if node.group = user.group then 3 else 0
    (node.mode >>> shift) &&& wanted == wanted

def owns (user : User) (node : Node) : Bool :=
  user.number == 0 || node.owner == user.number

end User

structure Files where
  nodes : Array Node
  now : Nat := 0
  user : User := {}

/-- Where a path leads: to a node, to a name that is free in a folder, or to something that the
system shows of its processes. -/
inductive Place where
  | node (id : NodeId)
  | vacant (folder : NodeId) (name : Bytes)
  | process (names : List Bytes)

namespace Files

def root : NodeId := 0

def node (files : Files) (id : NodeId) : Node :=
  files.nodes.getD id default

def content (files : Files) (id : NodeId) : Content :=
  (files.node id).content

def modify (files : Files) (id : NodeId) (change : Node → Node) : Files :=
  { files with nodes := files.nodes.modify id change }

def timeGrain : Nat := 4000000

def moment (files : Files) : Nat :=
  files.now / timeGrain * timeGrain

def setContent (files : Files) (id : NodeId) (content : Content) : Files :=
  let moment := files.moment
  files.modify id fun node => { node with content, modified := moment }

def add (files : Files) (content : Content) (mode : Nat) : NodeId × Files :=
  let moment := files.moment
  let { number, group } := files.user
  let node :=
    { content, mode, links := 0, modified := moment, accessed := moment, owner := number, group }
  (files.nodes.size, { files with nodes := files.nodes.push node })

def permits (files : Files) (id : NodeId) (wanted : Nat) : Bool :=
  files.user.mayUse (files.node id) wanted

def require (files : Files) (id : NodeId) (wanted : Nat) : Except Fault Unit :=
  if files.permits id wanted then .ok () else .error .denied

def requireChange (files : Files) (folder : NodeId) : Except Fault Unit :=
  files.require folder (User.writing + User.passing)

/-- Nothing, if the user may take a name out of a folder.  In a folder with the sticky bit this is up
to the owner of the folder or of what has the name. -/
def requireRemoval (files : Files) (folder id : NodeId) : Except Fault Unit := do
  files.requireChange folder
  let node := files.node folder
  if node.mode &&& Node.isSticky ≠ 0 ∧ !files.user.owns node ∧ !files.user.owns (files.node id) then
    .error .notPermitted
  else return ()

def isFolder (files : Files) (id : NodeId) : Bool :=
  match files.content id with
  | .folder _ _ => true
  | _ => false

def entries (files : Files) (id : NodeId) : List (Bytes × NodeId) :=
  match files.content id with
  | .folder _ entries => entries
  | _ => []

def names (files : Files) (id : NodeId) : List Bytes :=
  (files.entries id).map (·.1)

def child? (files : Files) (folder : NodeId) (name : Bytes) : Option NodeId :=
  (files.entries folder).lookup name

def parent (files : Files) (id : NodeId) : NodeId :=
  match files.content id with
  | .folder parent _ => parent
  | _ => root

def attach (files : Files) (folder : NodeId) (name : Bytes) (id : NodeId) : Files :=
  match files.content folder with
  | .folder parent entries =>
      let files := files.setContent folder (.folder parent (entries ++ [(name, id)]))
      files.modify id fun node => { node with
        links := node.links + 1
        content := match node.content with
          | .folder _ entries => .folder folder entries
          | content => content }
  | _ => files

def detach (files : Files) (folder : NodeId) (name : Bytes) : Files :=
  match files.content folder, files.child? folder name with
  | .folder parent entries, some id =>
      let files := files.setContent folder (.folder parent (entries.filter (·.1 ≠ name)))
      files.modify id fun node => { node with links := node.links - 1 }
  | _, _ => files

/-- A new node under a name.  A folder may hand on its group, and that it does so. -/
def create (files : Files) (folder : NodeId) (name : Bytes) (content : Content) (mode : Nat) :
    NodeId × Files :=
  let (id, files) := files.add content mode
  let above := files.node folder
  let files := if above.mode &&& Node.sharesGroup = 0 then files
    else files.modify id fun node => { node with
      group := above.group
      mode := match content with
        | .folder _ _ => node.mode ||| Node.sharesGroup
        | _ => node.mode }
  (id, files.attach folder name id)

/-! Paths. -/

def maximalName : Nat := 255

def maximalPath : Nat := 4095

def maximalLinks : Nat := 40

/-- Walk from a node along names.  All but the last name must be there.  Links are followed, the
last one only if `follow` holds.  The first number bounds the steps and the second the links. -/
def walk (files : Files) (follow : Bool) :
    Nat → Nat → NodeId → List Bytes → Except Fault Place
  | _, _, place, [] => .ok (.node place)
  | 0, _, _, _ => .error .manyLinks
  | bound + 1, links, place, name :: rest =>
      match files.content place with
      | .folder parent entries =>
          if name = [] then files.walk follow bound links place rest
          else if !files.permits place User.passing then .error .denied
          else if name = ascii "." then files.walk follow bound links place rest
          else if name = ascii ".." then files.walk follow bound links parent rest
          else if maximalName < name.length then .error .longName
          else
            match entries.lookup name with
            | none => if rest = [] then .ok (.vacant place name) else .error .missing
            | some id =>
                match files.content id with
                | .link target =>
                    if rest = [] ∧ ¬ follow then .ok (.node id)
                    else if links = 0 then .error .manyLinks
                    else if target = [] then .error .missing
                    else
                      files.walk follow bound (links - 1)
                        (if Path.isAbsolute target then root else place)
                        (Path.parts target ++ rest)
                | _ => files.walk follow bound links id rest
      | .processes =>
          match (name :: rest).filter (· ≠ []) with
          | [] => .ok (.node place)
          | names => .ok (.process names)
      | _ => .error .notFolder

def locate (files : Files) (folder : NodeId) (text : Bytes) (follow : Bool := true) :
    Except Fault Place :=
  if text = [] then .error .missing
  else if maximalPath < text.length then .error .longName
  else
    files.walk follow (maximalPath * (maximalLinks + 1)) maximalLinks
      (if Path.isAbsolute text then root else folder) (Path.parts text)

def find (files : Files) (folder : NodeId) (text : Bytes) (follow : Bool := true) :
    Except Fault NodeId := do
  match ← files.locate folder text follow with
  | .node id => return id
  | _ => .error .missing

def vacancy (files : Files) (folder : NodeId) (text : Bytes) : Except Fault (NodeId × Bytes) := do
  let trimmed := (text.reverse.dropWhile (· == Ascii.slash)).reverse
  if text ≠ [] ∧ trimmed = [] then .error .present
  else
    match ← files.locate folder trimmed false with
    | .vacant folder name => return (folder, name)
    | .node _ => .error .present
    | .process _ => .error .notPermitted

def entry (files : Files) (folder : NodeId) (text : Bytes) :
    Except Fault (NodeId × Bytes × NodeId) := do
  let trimmed := (text.reverse.dropWhile (· == Ascii.slash)).reverse
  let id ← files.find folder text false
  let place ← files.find folder (Path.folderName trimmed)
  let name := Path.baseName trimmed
  if files.child? place name = some id then return (place, name, id)
  else .error .invalid

def climb (files : Files) : Nat → NodeId → Path → Path
  | 0, _, path => path
  | bound + 1, id, path =>
      if id = root then path
      else
        let parent := files.parent id
        match (files.entries parent).find? (·.2 = id) with
        | some (name, _) => files.climb bound parent (name :: path)
        | none => path

def pathOf (files : Files) (id : NodeId) : Path :=
  files.climb maximalPath id []

/-! Changes. -/

def unlink (files : Files) (folder : NodeId) (text : Bytes) : Except Fault Files := do
  let (place, name, id) ← files.entry folder text
  files.requireRemoval place id
  if files.isFolder id then .error .isFolder else return files.detach place name

def removeFolder (files : Files) (folder : NodeId) (text : Bytes) : Except Fault Files := do
  let (place, name, id) ← files.entry folder text
  files.requireRemoval place id
  if !files.isFolder id then .error .notFolder
  else if (files.entries id).isEmpty then return files.detach place name
  else .error .notEmpty

def remove (files : Files) (folder : NodeId) (text : Bytes) : Except Fault Files := do
  let id ← files.find folder text false
  if files.isFolder id then files.removeFolder folder text else files.unlink folder text

def makeFolder (files : Files) (folder : NodeId) (text : Bytes) (mode : Nat) :
    Except Fault Files := do
  let (place, name) ← files.vacancy folder text
  files.requireChange place
  return (files.create place name (.folder place []) mode).2

def makeLink (files : Files) (folder : NodeId) (target text : Bytes) : Except Fault Files := do
  match ← files.locate folder text false with
  | .vacant place name =>
      files.requireChange place
      return (files.create place name (.link target) 511).2
  | .node _ => .error .present
  | .process _ => .error .notPermitted

def makeName (files : Files) (folder : NodeId) (id : NodeId) (text : Bytes) :
    Except Fault Files := do
  match ← files.locate folder text false with
  | .vacant place name =>
      files.requireChange place
      let node := files.node id
      if files.user.owns node ∨ files.permits id (User.reading + User.writing) then
        return files.attach place name id
      else .error .notPermitted
  | .node _ => .error .present
  | .process _ => .error .notPermitted

def isBelow (files : Files) (above : NodeId) : Nat → NodeId → Bool
  | 0, _ => false
  | bound + 1, id =>
      id = above || (id ≠ root && files.isBelow above bound (files.parent id))

def rename (files : Files) (folder : NodeId) (source target : Bytes) : Except Fault Files := do
  let (place, name, id) ← files.entry folder source
  let trimmed := (target.reverse.dropWhile (· == Ascii.slash)).reverse
  match ← files.locate folder trimmed false with
  | .process _ => .error .notPermitted
  | .vacant goal newName =>
      files.requireRemoval place id
      files.requireChange goal
      if trimmed ≠ target ∧ !files.isFolder id then .error .notFolder
      else if files.isFolder id ∧ files.isBelow id maximalPath goal then .error .invalid
      else return (files.detach place name).attach goal newName id
  | .node old =>
      let (goal, newName, _) ← files.entry folder trimmed
      files.requireRemoval place id
      files.requireRemoval goal old
      if old = id then return files
      else if files.isFolder old then
        if !files.isFolder id then .error .isFolder
        else if !(files.entries old).isEmpty then .error .notEmpty
        else if files.isBelow id maximalPath goal then .error .invalid
        else return ((files.detach goal newName).detach place name).attach goal newName id
      else if files.isFolder id then .error .notFolder
      else return ((files.detach goal newName).detach place name).attach goal newName id

/-! File contents. -/

/-- Data with a text written into it from an offset on.  What lies between is filled up. -/
def overwrite (data : ByteArray) (offset : Nat) (text : Bytes) : ByteArray :=
  if offset = data.size then text.foldl .push data
  else
    let before := data.extract 0 offset
    let gap := List.replicate (offset - data.size) 0
    let after := data.extract (offset + text.length) data.size
    (text.foldl .push (gap.foldl .push before)) ++ after

def write (files : Files) (id : NodeId) (offset : Nat) (text : Bytes) : Files :=
  let moment := files.moment
  let privileged := files.user.number == 0
  files.modify id fun node =>
    match node with
    | { content := .file data, mode, links, modified := _, accessed, owner, group } =>
        { content := .file (overwrite data offset text), links, modified := moment, accessed, owner,
          group, mode := if privileged then mode else Node.modeAfterWriting mode }
    | node => node

def resize (files : Files) (id : NodeId) (size : Nat) : Files :=
  match files.content id with
  | .file data =>
      let kept := data.extract 0 size
      let gap := List.replicate (size - kept.size) 0
      let files := files.setContent id (.file (gap.foldl .push kept))
      if files.user.number = 0 then files
      else files.modify id fun node => { node with mode := Node.modeAfterWriting node.mode }
  | _ => files

/-- The regular files below a folder by their path from it, as far as the user may read them. -/
def filesBelow (files : Files) : Nat → NodeId → Path → List (Path × Bytes)
  | 0, _, _ => []
  | bound + 1, id, path =>
      (files.entries id).flatMap fun (name, child) =>
        match files.content child with
        | .file data =>
            [(path ++ [name], if files.permits child User.reading then data.toList else [])]
        | .folder _ _ =>
            if files.permits child (User.reading + User.passing) then
              files.filesBelow bound child (path ++ [name])
            else []
        | _ => []

def below (files : Files) (folder : NodeId) : List (Bytes × Bytes) :=
  let found := (files.filesBelow maximalPath folder []).map fun (path, content) =>
    (Path.join path, content)
  found.mergeSort fun left right => left.1 ≤ right.1

end Files

end Rpn.Host
