import Rpn.Bytes

/-! Jobs: trees of requests to the outside, each with what follows on every answer.  An
environment answers requests from a state of its own. -/

namespace Rpn

inductive Stream where
  | output
  | errors
  deriving DecidableEq, Repr

/-- How a shell command ended. -/
inductive CommandOutcome where
  | exited (status : Nat)
  | killed
  | notStarted
  deriving DecidableEq, Repr

inductive Job (α : Type) where
  | done (result : α)
  | print (stream : Stream) (text : Bytes) (next : Job α)
  | flush (next : Job α)
  | openFile (name : Bytes) (next : Bool → Job α)
  | writeFile (name content : Bytes) (next : Bool → Job α)
  | removeFile (name : Bytes) (next : Bool → Job α)
  | command (text : Bytes) (next : CommandOutcome → Job α)

/-- Answers to the requests of jobs.  Opening a file for writing makes it empty; the answers
to file requests say whether they succeeded. -/
structure Environment (State : Type) where
  print : Stream → Bytes → State → State
  flush : State → State
  openFile : Bytes → State → Bool × State
  writeFile : Bytes → Bytes → State → Bool × State
  removeFile : Bytes → State → Bool × State
  command : Bytes → State → CommandOutcome × State

namespace Job

def bind {α β : Type} (job : Job α) (next : α → Job β) : Job β :=
  match job with
  | done result => next result
  | print stream text rest => .print stream text (rest.bind next)
  | flush rest => .flush (rest.bind next)
  | openFile name rest => .openFile name fun answer => (rest answer).bind next
  | writeFile name content rest => .writeFile name content fun answer => (rest answer).bind next
  | removeFile name rest => .removeFile name fun answer => (rest answer).bind next
  | command text rest => .command text fun answer => (rest answer).bind next

instance : Monad Job where
  pure := done
  bind := bind

/-- Carry out a job, starting in a state of the environment. -/
def run {State α : Type} (environment : Environment State) : Job α → State → α × State
  | done result, state => (result, state)
  | print stream text next, state => next.run environment (environment.print stream text state)
  | flush next, state => next.run environment (environment.flush state)
  | openFile name next, state =>
      let (answer, state) := environment.openFile name state
      (next answer).run environment state
  | writeFile name content next, state =>
      let (answer, state) := environment.writeFile name content state
      (next answer).run environment state
  | removeFile name next, state =>
      let (answer, state) := environment.removeFile name state
      (next answer).run environment state
  | command text next, state =>
      let (answer, state) := environment.command text state
      (next answer).run environment state

@[simp] theorem pure_eq_done {α : Type} (result : α) : (pure result : Job α) = done result :=
  rfl

@[simp] theorem bind_eq {α β : Type} (job : Job α) (next : α → Job β) :
    job >>= next = job.bind next :=
  rfl

/-! Single requests. -/

def say (stream : Stream) (text : Bytes) : Job Unit :=
  .print stream text (.done ())

def sync : Job Unit :=
  .flush (.done ())

def tryOpen (name : Bytes) : Job Bool :=
  .openFile name .done

def tryWrite (name content : Bytes) : Job Bool :=
  .writeFile name content .done

def tryRemove (name : Bytes) : Job Bool :=
  .removeFile name .done

def shell (text : Bytes) : Job CommandOutcome :=
  .command text .done

end Job

end Rpn
