import Rpn.Tool.Tree

/-! A tool that says whether names can be names of files.  Only serves the test environment. -/

namespace Rpn.Tool

open Host Text

namespace Pathname

def isPortable (byte : UInt8) : Bool :=
  isDigit byte || isLetter byte || (ascii "/._-").contains byte

def portableNameLimit : Nat := 14

def portablePathLimit : Nat := 255

def portableFault? (name : Bytes) : Option Bytes :=
  match name.find? (!isPortable ·) with
  | some byte =>
      some (ascii "nonportable character " ++ Quoting.plain [byte] ++ ascii " in file name " ++
        Quoting.always name)
  | none =>
      let exceeded := fun (limit length : Nat) (what shown : Bytes) =>
        some (ascii "limit " ++ .ofNat limit ++ ascii " exceeded by length " ++ .ofNat length ++
          ascii " of file name " ++ what ++ Quoting.always shown)
      if portablePathLimit < name.length then
        exceeded portablePathLimit name.length [] name
      else
        match (name.splitOn Ascii.slash).find? fun part => portableNameLimit < part.length with
        | some part => exceeded portableNameLimit part.length (ascii "component ") part
        | none => none

def check (basic extra : Bool) (name : Bytes) : Run Unit := do
  let parts := name.splitOn Ascii.slash
  if extra ∧ parts.any fun part => part.head? = some Ascii.minus then
    Run.worry (ascii "leading '-' in a component of file name " ++ Quoting.always name)
  else if (basic ∨ extra) ∧ name = [] then Run.worry (ascii "empty file name")
  else if basic then
    if let some message := portableFault? name then Run.worry message
  else
    match ← Act.examine name false with
    | .ok _ => return ()
    | .error fault =>
        if fault ≠ .missing ∨ name = [] then
          Run.worry (Quoting.whenNeeded name ++ ascii ": " ++ fault.message)

end Pathname

def pathchk : Main := fun arguments => do
  let parsed ← Run.options [flag ["p"], flag ["P"], flag ["portability"]] arguments true
  let all := parsed.has "portability"
  if parsed.operands = [] then Run.failWithHint (ascii "missing operand")
  for name in parsed.operands do
    Pathname.check (parsed.has "p" || all) (parsed.has "P" || all) name
  Run.status

end Rpn.Tool
