import Rpn.Job.Compile
import Rpn.Proofs.Job.Events

/-! The courses that the job of the compiler can take, whatever the answers to its requests are. -/

namespace Rpn

/-- The exit status of a command that ended by itself. -/
def CommandOutcome.status? : CommandOutcome → Option Nat
  | exited status => some status
  | killed | notStarted => none

theorem CommandOutcome.status?_eq_zero {outcome : CommandOutcome} :
    outcome.status? = some 0 ↔ outcome = .exited 0 := by
  cases outcome <;> simp [status?]

namespace Job

open Event

/-! Courses say what happens and leave the texts of errors open. -/

/-- The line that tells that there is an executable. -/
def announcement (options : Options) : Bytes :=
  (ascii "Generated executable " ++ options.outputName).line

/-- An assembly file that is kept is told of first. -/
def keptNote (options : Options) : List Event :=
  if options.keepAssembly then
    [.print .output (ascii "Generated assembly in " ++ assemblyName options).line]
  else []

theorem onlyPrints_keptNote (options : Options) : OnlyPrints .output (keptNote options) := by
  unfold keptNote
  split
  · exact onlyPrints_singleton _
  · exact onlyPrints_nil

/-- What is said about a file that cannot be removed. -/
def removalWarning (name : Bytes) : Bytes :=
  (ascii "Error: Could not remove " ++ name).line

/-- The assembly file after the assembler: it is kept, or removed if that is possible. -/
inductive Clearing (options : Options) : List Event → Prop
  | kept (keep : options.keepAssembly = true) : Clearing options []
  | removed (drop : options.keepAssembly = false) :
      Clearing options [.removeFile (assemblyName options) true]
  | left (drop : options.keepAssembly = false) :
      Clearing options [.removeFile (assemblyName options) false,
        .print .errors (removalWarning (assemblyName options))]

/-- What follows when the assembler has ended and its file is cleared.  After a success the
executable is announced, and run if that is wanted. -/
inductive Ending (options : Options) (assembler : CommandOutcome) : List Event → ExitCode → Prop
  | failed (unsuccessful : assembler ≠ .exited 0) : Ending options assembler [] .assemble
  | built (successful : assembler = .exited 0) (idle : options.run = false) :
      Ending options assembler
        (keptNote options ++ [.print .output (announcement options), .flush]) .ok
  | ran {reported : List Event} {outcome : CommandOutcome}
      (successful : assembler = .exited 0) (wanted : options.run = true)
      (errors : OnlyPrints .errors reported) :
      Ending options assembler
        (keptNote options ++ .print .output (announcement options) :: .flush ::
          .command (Shell.quote (executablePath options)) outcome :: reported)
        (if outcome.status? = none then .run else .ok)

/-- Making an executable of an assembly text.  Its file is opened, written and assembled, each if
the step before succeeded, and cleared whatever the assembler made of it. -/
inductive Building (options : Options) (assembly : Bytes) : List Event → ExitCode → Prop
  | unopened {reported : List Event} (errors : OnlyPrints .errors reported) :
      Building options assembly (.openFile (assemblyName options) false :: reported) .fileOpen
  | unwritten {reported : List Event} (errors : OnlyPrints .errors reported) :
      Building options assembly
        (.openFile (assemblyName options) true ::
          .writeFile (assemblyName options) assembly false :: reported) .fileOpen
  | assembled {reported cleared rest : List Event} {outcome : CommandOutcome} {code : ExitCode}
      (errors : OnlyPrints .errors reported) (clearing : Clearing options cleared)
      (ending : Ending options outcome rest code) :
      Building options assembly
        (.openFile (assemblyName options) true ::
          .writeFile (assemblyName options) assembly true ::
          .command (assembleCommand options) outcome :: (reported ++ (cleared ++ rest))) code

/-- The job of some options. -/
inductive Course (options : Options) : List Event → ExitCode → Prop
  | refused {error : CompileError}
      (fault : compile options.debug options.expression = .error error) :
      Course options [.print .errors (ascii "Error compiling: " ++ error.report).line] .compile
  | printed {compilation : Compilation} {shown : List Event}
      (compiled : compile options.debug options.expression = .ok compilation)
      (plain : options.assemble = false) (errors : OnlyPrints .errors shown) :
      Course options (shown ++ [.print .output compilation.assembly]) .ok
  | built {compilation : Compilation} {shown events : List Event} {code : ExitCode}
      (compiled : compile options.debug options.expression = .ok compilation)
      (wanted : options.assemble = true) (errors : OnlyPrints .errors shown)
      (building : Building options compilation.assembly events code) :
      Course options (shown ++ events) code

variable {options : Options} {events : List Event}

/-! Events that a course does not have after the assembler. -/

theorem Clearing.notMem {event : Event} (clearing : Clearing options events)
    (noPrint : ∀ text, event ≠ .print .errors text)
    (noRemoval : ∀ removed, event ≠ .removeFile (assemblyName options) removed) :
    event ∉ events := by
  cases clearing <;> simp [noPrint, noRemoval]

theorem Ending.notMem {event : Event} {assembler : CommandOutcome} {code : ExitCode}
    (ending : Ending options assembler events code)
    (noPrint : ∀ stream text, event ≠ .print stream text) (noFlush : event ≠ .flush)
    (noRun : ∀ outcome, event ≠ .command (Shell.quote (executablePath options)) outcome) :
    event ∉ events := by
  have unnoted := (onlyPrints_keptNote options).notMem (noPrint _)
  cases ending with
  | failed _ => simp
  | built _ _ => simp [unnoted, noPrint, noFlush]
  | ran _ _ errors => simp [unnoted, noPrint, noFlush, noRun, errors.notMem]

/-! Every job takes one of these courses. -/

theorem does_runCommand {command : Bytes} {status : Option Nat}
    (does : (runCommand command).Does events status) :
    ∃ outcome reported, events = .command command outcome :: reported ∧
      OnlyPrints .errors reported ∧ status = outcome.status? := by
  obtain ⟨outcome, later, rfl, does⟩ := does
  refine ⟨outcome, later, rfl, ?_⟩
  match outcome with
  | .notStarted | .killed | .exited (_ + 1) =>
      obtain ⟨_, rfl, rfl, rfl⟩ := does
      exact ⟨onlyPrints_singleton _, rfl⟩
  | .exited 0 =>
      obtain ⟨rfl, rfl⟩ := does
      exact ⟨onlyPrints_nil, rfl⟩

theorem does_runExecutable {code : ExitCode} (does : (runExecutable options).Does events code) :
    ∃ outcome reported,
      events = .command (Shell.quote (executablePath options)) outcome :: reported ∧
      OnlyPrints .errors reported ∧ code = if outcome.status? = none then .run else .ok := by
  obtain ⟨_, status, _, rfl, ran, does⟩ := Does.exists_of_bind does
  obtain ⟨outcome, reported, rfl, errors, rfl⟩ := does_runCommand ran
  refine ⟨outcome, reported, ?_⟩
  cases found : outcome.status? with
  | none | some _ =>
      rw [found] at does
      obtain ⟨rfl, rfl⟩ := does
      exact ⟨List.append_nil _, errors, rfl⟩

theorem does_announce {value : Unit} (does : (announce options).Does events value) :
    events = keptNote options ++ [.print .output (announcement options), .flush] := by
  unfold announce at does
  split at does
  · next keep =>
      obtain ⟨_, rfl, _, rfl, _, rfl, rfl, _⟩ := does
      simp [keptNote, announcement, keep]
  · next drop =>
      obtain ⟨_, rfl, _, rfl, rfl, _⟩ := does
      simp [keptNote, announcement, drop]

theorem does_clearAssembly {value : Unit} (does : (clearAssembly options).Does events value) :
    Clearing options events := by
  unfold clearAssembly at does
  split at does
  · next drop =>
      have drop : options.keepAssembly = false := by simpa using drop
      obtain ⟨removed, _, rfl, does⟩ := does
      cases removed with
      | true =>
          obtain ⟨rfl, _⟩ := does
          exact .removed drop
      | false =>
          obtain ⟨_, rfl, rfl, _⟩ := does
          exact .left drop
  · next keep =>
      obtain ⟨rfl, _⟩ := does
      exact .kept (by simpa using keep)

theorem does_conclude {assembler : CommandOutcome} {code : ExitCode}
    (does : (conclude options assembler.status?).Does events code) :
    Ending options assembler events code := by
  simp only [conclude, CommandOutcome.status?_eq_zero] at does
  split at does
  · next successful =>
      obtain ⟨_, _, _, rfl, announced, later⟩ := Does.exists_of_bind does
      obtain rfl := does_announce announced
      split at later
      · next wanted =>
          obtain ⟨outcome, reported, rfl, errors, rfl⟩ := does_runExecutable later
          rw [List.append_assoc]
          exact .ran successful wanted errors
      · next idle =>
          obtain ⟨rfl, rfl⟩ := later
          rw [List.append_nil]
          exact .built successful (by simpa using idle)
  · next unsuccessful =>
      obtain ⟨rfl, rfl⟩ := does
      exact .failed unsuccessful

theorem does_assembleFile {assembly : Bytes} {code : ExitCode}
    (does : (assembleFile options).Does events code) :
    Building options assembly
      (.openFile (assemblyName options) true ::
        .writeFile (assemblyName options) assembly true :: events) code := by
  obtain ⟨_, status, _, rfl, ran, later⟩ := Does.exists_of_bind does
  obtain ⟨outcome, reported, rfl, errors, rfl⟩ := does_runCommand ran
  obtain ⟨cleared, _, rest, rfl, clears, concludes⟩ := Does.exists_of_bind later
  exact .assembled errors (does_clearAssembly clears) (does_conclude concludes)

theorem does_buildExecutable {assembly : Bytes} {code : ExitCode}
    (does : (buildExecutable options assembly).Does events code) :
    Building options assembly events code := by
  obtain ⟨opened, _, rfl, does⟩ := does
  cases opened with
  | false =>
      obtain ⟨_, rfl, rfl, rfl⟩ := does
      exact .unopened (onlyPrints_singleton _)
  | true =>
      obtain ⟨written, _, rfl, does⟩ := does
      cases written with
      | false =>
          obtain ⟨_, rfl, rfl, rfl⟩ := does
          exact .unwritten (onlyPrints_singleton _)
      | true => exact does_assembleFile does

theorem does_showIntermediates {compilation : Compilation} {value : Unit}
    (does : (showIntermediates options compilation).Does events value) :
    OnlyPrints .errors events := by
  revert does
  unfold showIntermediates
  cases options.showTokens <;> cases options.showInstructions
  · rintro ⟨rfl, _⟩
    exact onlyPrints_nil
  · rintro ⟨_, rfl, rfl, _⟩
    exact onlyPrints_singleton _
  · rintro ⟨_, rfl, rfl, _⟩
    exact onlyPrints_singleton _
  · rintro ⟨_, rfl, _, rfl, rfl, _⟩
    exact (onlyPrints_singleton _).append (onlyPrints_singleton _)

theorem does_ofOptions {code : ExitCode} (does : (ofOptions options).Does events code) :
    Course options events code := by
  unfold ofOptions at does
  split at does
  · next error fault =>
      obtain ⟨_, rfl, rfl, rfl⟩ := does
      exact .refused fault
  · next compilation compiled =>
      obtain ⟨shown, _, _, rfl, listed, later⟩ := Does.exists_of_bind does
      have errors := does_showIntermediates listed
      split at later
      · next wanted => exact .built compiled wanted errors (does_buildExecutable later)
      · next plain =>
          obtain ⟨_, rfl, rfl, rfl⟩ := later
          exact .printed compiled (by simpa using plain) errors

end Job

end Rpn
