import Rpn.Host.World

/-! Programs: what a process does, as a tree of requests to the world it shares with others.  Part
of the test environment. -/

namespace Rpn.Host

/-- A request is answered for the process with the given number, in the current world.  It has no
answer as long as the process has to wait.  A fork starts a second process. -/
inductive Program where
  | finish (ending : Ending)
  | access (request : Nat → World → Option (World × Program))
  | fork (child : Program) (next : Nat → Program)

def Act (α : Type) : Type :=
  (α → Program) → Program

namespace Act

instance : Monad Act where
  pure value := fun next => next value
  bind act rest := fun next => act fun value => rest value next

def ask {α : Type} (question : Nat → World → α × World) : Act α := fun next =>
  .access fun self world =>
    let (answer, world) := question self world
    some (world, next answer)

def await {α : Type} (question : Nat → World → Option (α × World)) : Act α := fun next =>
  .access fun self world =>
    match question self world with
    | some (answer, world) => some (world, next answer)
    | none => none

def look {α : Type} (view : Nat → World → α) : Act α :=
  ask fun self world => (view self world, world)

def change (update : Nat → World → World) : Act Unit :=
  ask fun self world => ((), update self world)

def finish {α : Type} (ending : Ending) : Act α := fun _ => .finish ending

def become {α : Type} (program : Program) : Act α := fun _ => program

def fork (child : Program) : Act Nat := fun next => .fork child next

def toProgram (act : Act Nat) : Program :=
  act fun status => .finish (.exited (status % 256))

end Act

end Rpn.Host
