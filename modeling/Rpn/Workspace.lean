import Rpn.Host.Account
import Rpn.Host.Machine
import Rpn.Job.Compile
import Rpn.Tool.Catalog

/-! A workspace in which jobs can be carried out without the outside: an empty folder, a shell
with its tools, and a shell script in the place of the assembler.  It is the environment in which
the program is tested.  What it is made of (`Host`, `Text`, `Tool`, and in `Shell` all but the
quoting) is no part of the program, and only the results on quoted words speak of it.  In the shell
and in the tools a number that is called `bound` bounds the steps of a recursion. -/

namespace Rpn.Workspace

open Host

/-! The files at the beginning. -/

/-- A file tree with nothing in it. -/
def bare : Files :=
  { nodes := #[{ content := .folder Files.root [], mode := 493 }]
    now := 1700000000000000000 }

/-- Put a node under a path whose folders are there. -/
def put (path : String) (content : Content) (mode : Nat) (files : Files) : Files :=
  match files.locate Files.root (ascii path) false with
  | .ok (.vacant folder name) => (files.create folder name content mode).2
  | _ => files

def putFolder (path : String) (files : Files) : Files :=
  match files.locate Files.root (ascii path) false with
  | .ok (.vacant folder name) => (files.create folder name (.folder folder []) 493).2
  | _ => files

/-- Change the node under a path. -/
def change (path : String) (update : Node → Node) (files : Files) : Files :=
  match files.find Files.root (ascii path) with
  | .ok id => files.modify id update
  | .error _ => files

/-- The user on whose behalf jobs run, who owns the workspace and nothing else. -/
def user : User :=
  { number := 65534, group := 65534 }

def folders : List String :=
  ["/bin", "/dev", "/etc", "/home", "/lib", "/opt", "/root", "/sbin", "/srv", "/tmp", "/usr",
    "/usr/bin", "/usr/lib", "/usr/local", "/usr/local/bin", "/usr/sbin", "/usr/share", "/var",
    "/var/tmp", "/tmp/job", "/tmp/job/bin", "/tmp/job/work"]

def devices : List (String × Device) :=
  [("/dev/null", .null), ("/dev/zero", .zero), ("/dev/full", .full), ("/dev/random", .random),
    ("/dev/urandom", .random), ("/dev/tty", .terminal)]

def links : List (String × String) :=
  [("/dev/fd", "/proc/self/fd"), ("/dev/stdin", "/proc/self/fd/0"),
    ("/dev/stdout", "/proc/self/fd/1"), ("/dev/stderr", "/proc/self/fd/2")]

def assemblerPath : String := "/tmp/job/bin/gcc"

/-- The tree of a workspace with the commands that stand for the assembler. -/
def tree (assembler : Bytes) : Files :=
  let files := folders.foldl (fun files path => putFolder path files) bare
  let files := put "/proc" .processes 365 files
  let files := devices.foldl (fun files (path, device) => put path (.device device) 438 files) files
  let files := links.foldl (fun files (path, target) =>
    put path (.link (ascii target)) 511 files) files
  let files := Tool.names.foldl (fun files name =>
    ["/bin", "/usr/bin"].foldl (fun files folder =>
      match files.find Files.root (ascii folder) with
      | .ok id => (files.create id name (.tool name) 493).2
      | .error _ => files) files) files
  let files := put "/etc/passwd" (.file Account.userLines.toByteArray) 420 files
  let files := put "/etc/group" (.file Account.groupLines.toByteArray) 420 files
  let files := put "/etc/shadow" (.file .empty) 416 files
  let files :=
    put assemblerPath (.file ((ascii "#!/bin/sh").line ++ assembler.line).toByteArray) 493 files
  let files := [("/root", 448), ("/tmp", 1023), ("/var/tmp", 1023)].foldl (fun files (path, mode) =>
    change path (fun node => { node with mode }) files) files
  let files := ["/tmp/job", "/tmp/job/bin", "/tmp/job/work", assemblerPath].foldl (fun files path =>
    change path (fun node => { node with owner := user.number, group := user.group }) files) files
  { files with user }

/-! Processes. -/

/-- The job itself is a process, the parent of the shells that it starts. -/
def jobProcess : Nat := 100

def searchPath : Bytes := ascii "/tmp/job/bin:/usr/bin:/bin"

/-- The folder in which jobs run. -/
def folder (files : Files) : NodeId :=
  (files.find Files.root (ascii "/tmp/job/work")).toOption.getD Files.root

/-- A fresh workspace. -/
def make (assembler : Bytes) : Machine :=
  let files := tree assembler
  let null := (files.find Files.root (ascii "/dev/null")).toOption.getD Files.root
  let descriptions : Array Description :=
    #[{ target := .node null, readable := true },
      { target := .stream .output, writable := true, readable := true, appending := true },
      { target := .stream .errors, writable := true, readable := true, appending := true }]
  let process : Process :=
    { name := ascii "job", arguments := [ascii "job"]
      environment := [ascii "PATH=" ++ searchPath], folder := folder files
      descriptors := [0, 1, 2].map fun number => (number, { description := number }) }
  { world := { files, descriptions, processes := [(jobProcess, process)], fresh := jobProcess + 1 } }

/-- Run a program as a child of the job. -/
def start (machine : Machine) (program : Host.Program) : Ending × Machine :=
  machine.run jobProcess program

/-- Do something that succeeds or not. -/
def attempt (machine : Machine) (act : Act Bool) : Bool × Machine :=
  let program := (do return if ← act then 0 else 1 : Act Nat).toProgram
  match start machine program with
  | (.exited 0, machine) => (true, machine)
  | (_, machine) => (false, machine)

def runShell (text : Bytes) (machine : Machine) : CommandOutcome × Machine :=
  let arguments := [ascii "sh", ascii "-c", text]
  let program := (do
    let environment := (← Act.process).environment
    let _ ← Tool.system.exec System.defaultShell arguments environment
    return 127 : Act Nat).toProgram
  match start machine program with
  | (.exited status, machine) => (.exited status, machine)
  | (.killed _, machine) => (.killed, machine)

/-- Run commands of preparation.  What they print is not part of a job. -/
def prepare (text : Bytes) (machine : Machine) : Machine :=
  let machine := (runShell text machine).2
  { machine with world := { machine.world with output := .empty, errors := .empty } }

def openForWriting (name : Bytes) (truncate : Bool) : Act (Except Fault Nat) :=
  Act.openPath name { write := true, create := truncate, truncate }

/-- A workspace as the environment of jobs.  The system reads names and command lines up to their
first NUL byte. -/
def environment : Environment Machine where
  print stream text machine := { machine with world := machine.world.print stream text }
  flush machine := machine
  openFile name machine := attempt machine do
    return (← openForWriting name.untilNul true).toOption.isSome
  writeFile name content machine := attempt machine do
    match ← openForWriting name.untilNul false with
    | .ok number => return (← Act.write number content).toOption.isSome
    | .error _ => return false
  removeFile name machine := attempt machine do
    return (← Act.tryFiles fun files folder => files.remove folder name.untilNul).toOption.isSome
  command text machine := runShell text.untilNul machine

/-! What a job leaves. -/

def output (machine : Machine) : Bytes :=
  machine.world.output.toList

def errors (machine : Machine) : Bytes :=
  machine.world.errors.toList

/-- The regular files of a workspace, by name. -/
def files (machine : Machine) : List (Bytes × Bytes) :=
  let files := machine.world.files
  files.below (folder files)

end Rpn.Workspace
