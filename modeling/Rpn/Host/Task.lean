import Rpn.Host.Request

/-! Tasks: parts of a program that have a state of their own and may stop early.  Part of the test
environment. -/

namespace Rpn.Host

def Task (σ ε α : Type) : Type :=
  σ → (α → σ → Program) → (ε → σ → Program) → Program

namespace Task

variable {σ ε : Type}

instance : Monad (Task σ ε) where
  pure value := fun state next _ => next value state
  bind task rest := fun state next stop =>
    task state (fun value state => rest value state next stop) stop

instance : MonadStateOf σ (Task σ ε) where
  get := fun state next _ => next state state
  set state := fun _ next _ => next () state
  modifyGet change := fun state next _ =>
    let (value, state) := change state
    next value state

instance : MonadExceptOf ε (Task σ ε) where
  throw reason := fun state _ stop => stop reason state
  tryCatch task handle := fun state next stop =>
    task state next fun reason state => handle reason state next stop

instance : MonadLift Act (Task σ ε) where
  monadLift act := fun state next _ => act fun value => next value state

def followedBy {α : Type} (task : Task σ ε α) (after : Task σ ε Unit) : Task σ ε α := fun state next stop =>
  task state
    (fun value state => after state (fun () state => next value state) stop)
    (fun reason state => after state (fun () state => stop reason state) stop)

def outcome {α : Type} (task : Task σ ε α) : Task σ ε (Except ε α) := fun state next _ =>
  task state (fun value state => next (.ok value) state)
    (fun reason state => next (.error reason) state)

def toProgram (task : Task σ ε Unit) (state : σ) (ending : Except ε Unit → σ → Program) : Program :=
  task state (fun _ state => ending (.ok ()) state) (fun reason state => ending (.error reason) state)

end Task

end Rpn.Host
