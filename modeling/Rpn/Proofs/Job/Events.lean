import Rpn.Job

/-! The events of a job: its requests in the order in which they are made, with their answers. -/

namespace Rpn

/-- An item stands in the second part of a list if it is not in the first. -/
theorem exists_append_of_notMem {α : Type} {first second before after : List α} {item : α}
    (absent : item ∉ first) (split : first ++ second = before ++ item :: after) :
    ∃ middle, before = first ++ middle ∧ second = middle ++ item :: after := by
  rcases List.append_eq_append_iff.mp split with
    ⟨middle, beforeEq, secondEq⟩ | ⟨middle, firstEq, rest⟩
  · exact ⟨middle, beforeEq, secondEq⟩
  · cases middle with
    | nil => exact ⟨[], by simpa using firstEq.symm, by simpa using rest.symm⟩
    | cons head tail =>
        refine absurd ?_ absent
        rw [firstEq, (List.cons.inj rest).1]
        simp

inductive Event where
  | print (stream : Stream) (text : Bytes)
  | flush
  | openFile (name : Bytes) (opened : Bool)
  | writeFile (name content : Bytes) (written : Bool)
  | removeFile (name : Bytes) (removed : Bool)
  | command (text : Bytes) (outcome : CommandOutcome)
  deriving DecidableEq, Repr

namespace Event

/-- All that events print on a stream. -/
def printed (stream : Stream) (events : List Event) : Bytes :=
  events.flatMap fun
    | .print other text => if other = stream then text else []
    | _ => []

/-- A command is given to the shell. -/
def starts (command : Bytes) : Event → Bool
  | .command text _ => text == command
  | _ => false

theorem countP_starts_eq_zero {events : List Event} {command : Bytes}
    (absent : ∀ outcome, .command command outcome ∉ events) :
    events.countP (starts command) = 0 := by
  refine List.countP_eq_zero.mpr fun event member => ?_
  cases event with
  | command text outcome =>
      simpa [starts] using fun equal : text = command => absent outcome (equal ▸ member)
  | _ => simp [starts]

/-- Nothing happens but that texts are printed on a stream. -/
def OnlyPrints (stream : Stream) (events : List Event) : Prop :=
  ∀ event ∈ events, ∃ text, event = .print stream text

variable {stream : Stream}

theorem OnlyPrints.notMem {events : List Event} (prints : OnlyPrints stream events) {event : Event}
    (other : ∀ text, event ≠ .print stream text) : event ∉ events := by
  intro member
  obtain ⟨text, equal⟩ := prints event member
  exact other text equal

theorem onlyPrints_nil : OnlyPrints stream [] :=
  fun _ member => nomatch member

theorem onlyPrints_singleton (text : Bytes) : OnlyPrints stream [.print stream text] :=
  fun _ member => ⟨text, List.mem_singleton.mp member⟩

theorem OnlyPrints.append {first second : List Event} (prints : OnlyPrints stream first)
    (more : OnlyPrints stream second) : OnlyPrints stream (first ++ second) := by
  intro event member
  rcases List.mem_append.mp member with member | member
  · exact prints event member
  · exact more event member

theorem OnlyPrints.printed_eq_nil {events : List Event} (prints : OnlyPrints stream events)
    {other : Stream} (different : stream ≠ other) : printed other events = [] := by
  refine List.flatMap_eq_nil_iff.mpr fun event member => ?_
  obtain ⟨text, rfl⟩ := prints event member
  exact if_neg different

end Event

/-- An environment that also notes what it is asked and what it answers. -/
def Environment.noting {State : Type} (environment : Environment State) :
    Environment (State × List Event) where
  print stream text := fun (state, events) =>
    (environment.print stream text state, events ++ [.print stream text])
  flush := fun (state, events) => (environment.flush state, events ++ [.flush])
  openFile name := fun (state, events) =>
    let (opened, state) := environment.openFile name state
    (opened, state, events ++ [.openFile name opened])
  writeFile name content := fun (state, events) =>
    let (written, state) := environment.writeFile name content state
    (written, state, events ++ [.writeFile name content written])
  removeFile name := fun (state, events) =>
    let (removed, state) := environment.removeFile name state
    (removed, state, events ++ [.removeFile name removed])
  command text := fun (state, events) =>
    let (outcome, state) := environment.command text state
    (outcome, state, events ++ [.command text outcome])

namespace Job

variable {α β : Type}

/-- A job makes the requests of these events one after the other, and with the answers in them it
ends with the result. -/
def Does : Job α → List Event → α → Prop
  | done value, events, result => events = [] ∧ result = value
  | print stream text next, events, result =>
      ∃ rest, events = .print stream text :: rest ∧ next.Does rest result
  | flush next, events, result => ∃ rest, events = .flush :: rest ∧ next.Does rest result
  | openFile name next, events, result =>
      ∃ opened rest, events = .openFile name opened :: rest ∧ (next opened).Does rest result
  | writeFile name content next, events, result =>
      ∃ written rest, events = .writeFile name content written :: rest ∧
        (next written).Does rest result
  | removeFile name next, events, result =>
      ∃ removed rest, events = .removeFile name removed :: rest ∧ (next removed).Does rest result
  | command text next, events, result =>
      ∃ outcome rest, events = .command text outcome :: rest ∧ (next outcome).Does rest result

/-- The events that are noted in a run are what the job does, and noting them changes nothing. -/
theorem run_noting {State : Type} (environment : Environment State) (job : Job α) (state : State)
    (before : List Event) :
    ∃ events, job.run environment.noting (state, before) =
        ((job.run environment state).1, (job.run environment state).2, before ++ events) ∧
      job.Does events (job.run environment state).1 := by
  induction job generalizing state before with
  | done value => exact ⟨[], by simp [run], rfl, rfl⟩
  | print stream text next induction =>
      obtain ⟨events, noted, does⟩ := induction (environment.print stream text state)
        (before ++ [.print stream text])
      rw [List.append_assoc] at noted
      exact ⟨_, noted, events, rfl, does⟩
  | flush next induction =>
      obtain ⟨events, noted, does⟩ := induction (environment.flush state) (before ++ [.flush])
      rw [List.append_assoc] at noted
      exact ⟨_, noted, events, rfl, does⟩
  | openFile name next induction =>
      let answer := environment.openFile name state
      obtain ⟨events, noted, does⟩ :=
        induction answer.1 answer.2 (before ++ [.openFile name answer.1])
      rw [List.append_assoc] at noted
      exact ⟨_, noted, answer.1, events, rfl, does⟩
  | writeFile name content next induction =>
      let answer := environment.writeFile name content state
      obtain ⟨events, noted, does⟩ :=
        induction answer.1 answer.2 (before ++ [.writeFile name content answer.1])
      rw [List.append_assoc] at noted
      exact ⟨_, noted, answer.1, events, rfl, does⟩
  | removeFile name next induction =>
      let answer := environment.removeFile name state
      obtain ⟨events, noted, does⟩ :=
        induction answer.1 answer.2 (before ++ [.removeFile name answer.1])
      rw [List.append_assoc] at noted
      exact ⟨_, noted, answer.1, events, rfl, does⟩
  | command text next induction =>
      let answer := environment.command text state
      obtain ⟨events, noted, does⟩ :=
        induction answer.1 answer.2 (before ++ [.command text answer.1])
      rw [List.append_assoc] at noted
      exact ⟨_, noted, answer.1, events, rfl, does⟩

/-- What a sequence does is what its parts do one after the other. -/
theorem Does.exists_of_bind {job : Job α} {next : α → Job β} {events : List Event} {result : β}
    (does : (job.bind next).Does events result) :
    ∃ first value rest, events = first ++ rest ∧ job.Does first value ∧
      (next value).Does rest result := by
  induction job generalizing events with
  | done value => exact ⟨[], value, events, rfl, ⟨rfl, rfl⟩, does⟩
  | print stream text job induction =>
      obtain ⟨later, rfl, does⟩ := does
      obtain ⟨first, value, rest, rfl, doesFirst, doesRest⟩ := induction does
      exact ⟨.print stream text :: first, value, rest, rfl, ⟨first, rfl, doesFirst⟩, doesRest⟩
  | flush job induction =>
      obtain ⟨later, rfl, does⟩ := does
      obtain ⟨first, value, rest, rfl, doesFirst, doesRest⟩ := induction does
      exact ⟨.flush :: first, value, rest, rfl, ⟨first, rfl, doesFirst⟩, doesRest⟩
  | openFile _ _ induction | writeFile _ _ _ induction | removeFile _ _ induction
  | command _ _ induction =>
      obtain ⟨answer, later, rfl, does⟩ := does
      obtain ⟨first, value, rest, rfl, doesFirst, doesRest⟩ := induction answer does
      exact ⟨_ :: first, value, rest, rfl, ⟨answer, first, rfl, doesFirst⟩, doesRest⟩

end Job

end Rpn
