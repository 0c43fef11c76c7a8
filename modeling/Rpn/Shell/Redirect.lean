import Rpn.Shell.Expansion

/-! Redirections of commands.  Only serves the test environment. -/

namespace Rpn.Shell.Redirect

open Host

structure Resolved where
  number : Nat
  holder : Option Bytes := none
  kind : Redirect
  target : Bytes

def defaultNumber : Redirect → Nat
  | .input | .both | .duplicateInput | .document _ | .text => 0
  | _ => 1

def resolve (hooks : Hooks) (redirection : Redirection) : Run Resolved := do
  let number := redirection.number.getD (defaultNumber redirection.kind)
  let holder := redirection.holder
  match redirection.kind with
  | .document found =>
      let word := ((← get).documents.lookup found).getD []
      return { number, holder, kind := redirection.kind, target := ← expandDocument hooks word }
  | .text =>
      return { number, holder, kind := .text,
               target := (← expandText hooks redirection.target).line }
  | kind => return { number, holder, kind, target := ← expandText hooks redirection.target }

def privateNumbers : Nat := 10

abbrev Saved := List (Nat × Option Nat)

def save (saved : Saved) (number : Nat) : Run Saved := do
  if saved.any (·.1 == number) then return saved
  else
    let kept ← Act.ask fun self world =>
      match world.descriptor? self number with
      | some descriptor =>
          let free := world.freeDescriptor self privateNumbers
          (some free, world.setDescriptor self free { descriptor with inherited := false })
      | none => (none, world)
    return (number, kept) :: saved

def restore (saved : Saved) : Run Unit := do
  for (number, kept) in saved do
    match kept with
    | some kept => Act.move kept number
    | none => Act.close number

def discard (saved : Saved) : Run Unit := do
  for (_, kept) in saved do
    match kept with
    | some kept => Act.close kept
    | none => pure ()

def cannot (verb : String) (target : Bytes) (fault : Fault) : Bytes :=
  ascii "cannot " ++ ascii verb ++ Ascii.space :: target ++ ascii ": " ++ fault.message

def openTarget (target : Bytes) (access : Access) : Run (Except Bytes Nat) := do
  match ← Act.openFrom privateNumbers target access false with
  | .ok number => return .ok number
  | .error fault =>
      return .error (cannot (if access.create then "create" else "open") target fault)

/-- A pipe that holds a text.  Who writes a long one is a process of its own. -/
def openDocument (text : Bytes) : Run Nat := do
  let (reading, writing) ← Act.pipe
  if text.length ≤ World.pipeCapacity then
    let _ ← Act.write writing text
  else
    let writer : Act Nat := do
      Act.close reading
      let _ ← Act.write writing text
      return 0
    let _ ← Act.fork writer.toProgram
  Act.close writing
  return reading

def isProtected (target : Bytes) : Run Bool := do
  if ← Run.isOn "noclobber" then
    match ← Act.examine target with
    | .ok (_, { content := .file _, .. }) => return true
    | .ok _ => return false
    | .error _ => return (← Act.examine target false).toOption.isSome
  else return false

def place (saved : Saved) (number opened : Nat) : Run Saved := do
  if opened = number then
    let _ ← Act.duplicate number number
    return if saved.any (·.1 == number) then saved else (number, none) :: saved
  else
    let saved ← save saved number
    Act.move opened number
    return saved

def performAt (saved : Saved) (redirection : Resolved) : Run (Except Bytes Saved) := do
  let { number, kind, target, .. } := redirection
  let opening := fun (access : Access) => do
    match ← openTarget target access with
    | .ok opened => return Except.ok (← place saved number opened)
    | .error message => return .error message
  let writing : Access := { write := true, create := true, truncate := true }
  match kind with
  | .input => opening { read := true }
  | .both => opening { read := true, write := true, create := true }
  | .clobber => opening writing
  | .append => opening { write := true, create := true, append := true }
  | .output =>
      if ← isProtected target then return .error (cannot "create" target .present)
      else opening writing
  | .document _ | .text => return .ok (← place saved number (← openDocument target))
  | .outputAndErrors adding =>
      outputAndErrors saved
        { write := true, create := true, truncate := !adding, append := adding } target
  | .duplicateInput | .duplicateOutput =>
      if target = [Ascii.minus] then
        let saved ← save saved number
        Act.close number
        return .ok saved
      else
        let moved := (← get).extended && 1 < target.length && target.getLast? == some Ascii.minus
        match Bytes.toNat? (if moved then target.dropLast else target) with
        | some source =>
            let saved ← save saved number
            if source = number then return .ok saved
            else if ← Act.duplicate source number then
              if moved then
                let saved ← save saved source
                Act.close source
                return .ok saved
              else return .ok saved
            else
              return .error (Bytes.ofNat source ++ ascii ": " ++ Fault.badDescriptor.message)
        | none =>
            if (← get).extended ∧ kind = .duplicateOutput ∧ redirection.number = 1 then
              outputAndErrors saved writing target
            else return .error (ascii "Bad fd number: " ++ target)
where
  outputAndErrors (saved : Saved) (access : Access) (target : Bytes) :
      Run (Except Bytes Saved) := do
    match ← openTarget target access with
    | .ok opened =>
        let saved ← place saved 1 opened
        let saved ← save saved 2
        let _ ← Act.duplicate 1 2
        return .ok saved
    | .error message => return .error message

/-- Carry out one redirection.  One with a variable chooses a free number, which stays open, or
closes the one that the variable holds. -/
def perform (saved : Saved) (redirection : Resolved) : Run (Except Bytes Saved) := do
  match redirection.holder with
  | none => performAt saved redirection
  | some name =>
      if redirection.target = [Ascii.minus] ∧
          (redirection.kind = .duplicateInput ∨ redirection.kind = .duplicateOutput) then
        match ((← Run.value? name).bind Bytes.toNat?) with
        | some number =>
            Act.close number
            return .ok saved
        | none => return .error (name ++ ascii ": " ++ Fault.badDescriptor.message)
      else
        let number ← Act.look fun self world => world.freeDescriptor self privateNumbers
        match ← performAt saved { redirection with number } with
        | .ok saved =>
            Run.setVariable name (.ofNat number)
            return .ok (saved.filter (·.1 ≠ number))
        | .error message => return .error message

/-- Carry out redirections in order.  The answer is what was kept, and whether all succeeded. -/
def performAll : Saved → List Resolved → Run (Saved × Bool)
  | saved, [] => return (saved, true)
  | saved, redirection :: rest => do
      match ← perform saved redirection with
      | .ok saved => performAll saved rest
      | .error message =>
          Run.complain message
          return (saved, false)

end Rpn.Shell.Redirect
