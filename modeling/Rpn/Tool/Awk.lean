import Rpn.Tool.Awk.Evaluation

/-! The tool that runs programs on records and fields.  Only serves the test environment. -/

namespace Rpn.Tool

open Host Text Awk

namespace Awk

structure Order where
  separator : Option Bytes := none
  assignments : List Bytes := []
  files : List Bytes := []
  operands : List Bytes := []
  showUsage : Bool := false
  showVersion : Bool := false

def usage : Bytes :=
  ascii "Usage: mawk [Options] [Program] [file ...]

Program:
    The -f option value is the name of a file containing program text.
    If no -f option is given, a \"--\" ends option processing; the following
    parameters are the program text.

Options:
    -f program-file  Program  text is read from file instead of from the
                     command-line.  Multiple -f options are accepted.
    -F value         sets the field separator, FS, to value.
    -v var=value     assigns value to program variable var.
    --               unambiguous end of options.

    Implementation-specific options are prefixed with \"-W\".  They can be
    abbreviated:

    -W version       show version information and exit.
    -W compat        pre-POSIX 2001.
    -W dump          show assembler-like listing of program and exit.
    -W help          show this message and exit.
    -W interactive   set unbuffered output, line-buffered input.
    -W exec file     use file as program as well as last option.
    -W posix         stricter POSIX checking.
    -W random=number set initial random seed.
    -W sprintf=number adjust size of sprintf buffer.
    -W usage         show this message and exit.
"

def readOrder : Nat → Order → List Bytes → Except Bytes Order
  | 0, order, arguments => .ok { order with operands := arguments }
  | _, order, [] => .ok order
  | bound + 1, order, argument :: rest =>
      match argument with
      | [Ascii.minus, Ascii.minus] => .ok { order with operands := rest }
      | Ascii.minus :: letter :: value =>
          let valued := fun (use : Bytes → Order) =>
            match value, rest with
            | [], given :: rest => readOrder bound (use given) rest
            | [], [] => .error (ascii "option -" ++ letter :: ascii " lacks argument")
            | value, rest => readOrder bound (use value) rest
          match Char.ofNat letter.toNat with
          | 'F' => valued fun value => { order with separator := some value }
          | 'v' =>
              valued fun value => { order with assignments := order.assignments ++ [value] }
          | 'f' => valued fun value => { order with files := order.files ++ [value] }
          | 'W' => valued fun value =>
              let means := fun (word : String) => value ≠ [] ∧ value.isPrefixOf (ascii word)
              { order with
                showVersion := order.showVersion || decide (means "version")
                showUsage := order.showUsage || decide (means "help" ∨ means "usage") }
          | _ =>
              if argument = ascii "--help" ∨ argument = ascii "--usage" then
                .ok { order with showUsage := true }
              else if argument = ascii "--version" then .ok { order with showVersion := true }
              else .error (ascii "not an option: " ++ argument)
      | _ => .ok { order with operands := argument :: rest }

/-! Rules. -/

namespace Exec

def runRules : List Rule → Exec Unit
  | [] => return ()
  | rule :: rest => do
      pause
      match rule.body with
      | some body =>
          let _ ← perform Act.unbounded body
          runRules rest
      | none => runRules rest

def applies (place : Nat) : Condition → Exec Bool
  | .always => return true
  | .test expression => return (← evaluate Act.unbounded expression).isTrue
  | .range first last => do
      let begun ←
        if (← get).ranges.contains place then pure true
        else pure (← evaluate Act.unbounded first).isTrue
      if !begun then return false
      else
        let ended := (← evaluate Act.unbounded last).isTrue
        modify fun machine => { machine with
          ranges :=
            if ended then machine.ranges.filter (· ≠ place)
            else place :: machine.ranges.filter (· ≠ place) }
        return true
  | _ => return false

def applyRules : List (Rule × Nat) → Exec Unit
  | [] => return ()
  | (rule, place) :: rest => do
      pause
      if ← applies place rule.condition then
        match rule.body with
        | some body =>
            let _ ← perform Act.unbounded body
            pure ()
        | none =>
            let _ ← perform Act.unbounded (.print [] none)
            pure ()
      applyRules rest

def processRecords (rules : List (Rule × Nat)) : Nat → Exec Unit
  | 0 => return ()
  | bound + 1 => do
      match ← nextMainRecord Act.unbounded with
      | none => return ()
      | some text =>
          setRecord (.ofInput text)
          match ← (applyRules rules).outcome with
          | .ok () | .error .nextRecord => processRecords rules bound
          | .error .nextFile =>
              skipFile
              processRecords rules bound
          | .error reason => throw reason

/-- Run a part of the program.  The answer is whether it has not been told to stop. -/
def stage (inner : Exec Unit) : Exec Bool := do
  match ← inner.outcome with
  | .ok () | .error .nextRecord | .error .nextFile => return true
  | .error .exit => return false
  | .error (.failure message) => throw (.failure message)

def isBegin (rule : Rule) : Bool :=
  match rule.condition with
  | .begin => true
  | _ => false

def isFinish (rule : Rule) : Bool :=
  match rule.condition with
  | .finish => true
  | _ => false

def runProgram (program : Program) : Exec Unit := do
  let first := program.rules.filter isBegin
  let last := program.rules.filter isFinish
  let middle := program.rules.filter fun rule => !isBegin rule && !isFinish rule
  let goesOn ← stage (runRules first)
  if !middle.isEmpty ∨ !last.isEmpty then
    if goesOn then
      let _ ← stage (processRecords middle.zipIdx Act.unbounded)
    let _ ← stage (runRules last)

def prepare (order : Order) (arguments : List Bytes) : Exec Unit := do
  let texts : List (String × Bytes) :=
    [ ("FS", [Ascii.space]), ("OFS", [Ascii.space]), ("ORS", [Ascii.newline]),
      ("RS", [Ascii.newline]), ("SUBSEP", [28]), ("CONVFMT", ascii "%.6g"),
      ("OFMT", ascii "%.6g"), ("FILENAME", []) ]
  for (name, text) in texts do setGlobal (ascii name) (.text text)
  for (name, value) in [("NR", 0), ("FNR", 0), ("NF", 0), ("RSTART", 0), ("RLENGTH", -1)] do
    setGlobal (ascii name) (.float value)
  let inherited := (← Act.process).environment.filterMap fun entry =>
    let name := entry.takeWhile (· != Ascii.equals)
    if name.length < entry.length then some (name, entry.drop (name.length + 1)) else none
  let environment := inherited.foldl
    (fun (table : Table Value) (name, value) => table.insert (.text name) (.ofInput value)) {}
  setTable "ENVIRON" environment
  let given := (arguments.zipIdx).foldl
    (fun (table : Table Value) (argument, place) =>
      table.insert (.number place) (.ofInput argument)) {}
  setTable "ARGV" given
  setGlobal (ascii "ARGC") (.ofNat arguments.length)
  match order.separator with
  | some separator => assign (ascii "FS") separator
  | none => pure ()
  for assignment in order.assignments do
    match assignment? assignment with
    | some (name, value) => assign name value
    | none => throw (.failure (ascii "improper assignment: -v " ++ assignment))

end Exec

def programText : List Bytes → Run Bytes
  | [] => return []
  | name :: rest => do
      match ← readInput name with
      | .ok text => return text ++ (← programText rest)
      | .error fault =>
          Run.fail (ascii "cannot open \"" ++ name ++ ascii "\" (" ++ fault.message ++ ascii ")") 2

def start (exec : Exec Unit) (functions : List Function) : Run Nat := fun tool next stop =>
  let machine : Machine := { tool, functions := .ofList (functions.map fun f => (f.name, f)) }
  let whole : Exec (Except Leave Unit) := do
    let result ← exec.outcome
    Exec.closeAll
    return result
  whole machine
    (fun result machine =>
      match result with
      | .error (.failure message) => (Run.fail message 2 : Run Nat) machine.tool next stop
      | _ => next machine.status machine.tool)
    (fun _ machine => next 2 machine.tool)

end Awk

def awk : Main := fun arguments => do
  match readOrder (arguments.length + 1) {} arguments with
  | .error message => Run.fail message 2
  | .ok order =>
      if order.showVersion then
        Run.sayLine (ascii "mawk 1.3.4 20200120")
        return 0
      if order.showUsage ∨ (order.files = [] ∧ order.operands = []) then
        if order.showUsage then Run.say usage else Run.note usage
        return 0
      else
        let text ←
          if order.files = [] then pure (order.operands.headD []) else programText order.files
        let operands := if order.files = [] then order.operands.drop 1 else order.operands
        match Program.read text with
        | .error flaw =>
            match flaw.line with
            | some line =>
                Run.fail (ascii "line " ++ .ofNat line ++ ascii ": " ++ flaw.message) 2
            | none => Run.fail flaw.message 2
        | .ok program =>
            let name := (← get).name
            start
              (do
                Exec.prepare order (name :: operands)
                Exec.runProgram program)
              program.functions

end Rpn.Tool
