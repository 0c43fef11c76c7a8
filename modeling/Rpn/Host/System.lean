import Rpn.Host.Task

/-! Starting programs.  Only serves the test environment. -/

namespace Rpn.Host

/-- Starts programs: a path, the arguments with the name of the program first, and the
environment.  There is an answer only if the program cannot be started. -/
structure System where
  exec : Bytes → List Bytes → List Bytes → Act Fault

namespace System

def interpreter? (data : ByteArray) : Option (Bytes × List Bytes) :=
  let line := ((data.extract 0 256).toList).takeWhile (· != Ascii.newline)
  match line with
  | Ascii.hash :: Ascii.exclamation :: rest =>
      let isGap := fun byte => byte == Ascii.space || byte == Ascii.tab
      let rest := rest.dropWhile isGap
      let path := rest.takeWhile (!isGap ·)
      let argument := ((rest.drop path.length).dropWhile isGap).reverse.dropWhile isGap |>.reverse
      if path = [] then none
      else some (path, if argument = [] then [] else [argument])
  | _ => none

/-- Load the program under a path in the place of the process.  A script is handed to its
interpreter; the number bounds how many of those are scripts in turn. -/
def load (programs : Bytes → Option (List Bytes → Program)) (shown : Bytes) :
    Nat → Bytes → List Bytes → List Bytes → Act Fault
  | 0, _, _, _ => return .manyLinks
  | bound + 1, path, arguments, environment => do
      let user ← Act.user
      match ← Act.examine path with
      | .error fault => return fault
      | .ok (_, node) =>
          match node.content with
          | .tool name =>
              match programs name with
              | some program => Act.execute shown arguments environment (program arguments)
              | none => return .missing
          | .file data =>
              if !user.mayUse node User.passing then return .denied
              else
                match interpreter? data with
                | some (interpreter, argument) =>
                    load programs shown bound interpreter
                      (interpreter :: argument ++ path :: arguments.tail) environment
                | none =>
                    return if user.mayUse node User.reading then .notExecutable else .denied
          | _ => return .denied

/-- The system in which every tool can start programs again.  The number bounds how often. -/
def ofTools (tools : System → Bytes → Option (List Bytes → Program)) : Nat → System
  | 0 => { exec := fun _ _ _ => return .manyLinks }
  | depth + 1 =>
      { exec := fun path => load (fun name => tools (ofTools tools depth) name)
          (Path.baseName path) 6 path }

def candidates (searched name : Bytes) : List Bytes :=
  (searched.splitOn Ascii.colon).map fun folder =>
    if folder = [] then name else folder ++ Ascii.slash :: name

def defaultShell : Bytes := ascii "/bin/sh"

def execOrScript (system : System) (path : Bytes) (arguments environment : List Bytes) :
    Act Fault := do
  match ← system.exec path arguments environment with
  | .notExecutable =>
      system.exec defaultShell (defaultShell :: path :: arguments.tail) environment
  | fault => return fault

def tryCandidates (system : System) (arguments environment : List Bytes) (found : Fault) :
    List Bytes → Act Fault
  | [] => return found
  | path :: rest => do
      match ← system.execOrScript path arguments environment with
      | .missing | .notFolder => tryCandidates system arguments environment found rest
      | .denied => tryCandidates system arguments environment .denied rest
      | fault => return fault

def valueIn? (environment : List Bytes) (name : Bytes) : Option Bytes :=
  environment.findSome? fun entry =>
    if (name ++ [Ascii.equals]).isPrefixOf entry then some (entry.drop (name.length + 1))
    else none

def execByName (system : System) (arguments environment : List Bytes) : Act Fault := do
  let name := arguments.headD []
  if name = [] then return .missing
  else if name.contains Ascii.slash then system.execOrScript name arguments environment
  else
    let searched := (valueIn? environment (ascii "PATH")).getD (ascii "/bin:/usr/bin")
    tryCandidates system arguments environment .missing (candidates searched name)

end System

end Rpn.Host
