import Rpn.Proofs.Codegen.Faults
import Rpn.Proofs.Expression.Precedence
import Rpn.Proofs.Job.Courses

/-! In which order the job of the compiler makes its requests, and how it ends. -/

namespace Rpn

namespace Job

open Event

/-! A file that cannot be removed. -/

/-- After a failed removal a job prints a warning, and goes on as after a successful one. -/
def WarnsOnRemoval {α : Type} : Job α → Prop
  | done _ => True
  | print _ _ next | flush next => next.WarnsOnRemoval
  | openFile _ next | writeFile _ _ next => ∀ answer, (next answer).WarnsOnRemoval
  | command _ next => ∀ outcome, (next outcome).WarnsOnRemoval
  | removeFile name next =>
      next false = .print .errors (removalWarning name) (next true) ∧
        ∀ removed, (next removed).WarnsOnRemoval

theorem warnsOnRemoval_bind {α β : Type} {job : Job α} {next : α → Job β}
    (first : job.WarnsOnRemoval) (later : ∀ result, (next result).WarnsOnRemoval) :
    (job.bind next).WarnsOnRemoval := by
  induction job with
  | done result => exact later result
  | print _ _ _ induction | flush _ induction => exact induction first
  | openFile _ _ induction | writeFile _ _ _ induction | command _ _ induction =>
      exact fun answer => induction answer (first answer)
  | removeFile name rest induction =>
      refine ⟨?_, fun removed => induction removed (first.2 removed)⟩
      change (rest false).bind next = _
      rw [first.1]
      rfl

theorem warnsOnRemoval_runCommand (command : Bytes) : (runCommand command).WarnsOnRemoval := by
  refine warnsOnRemoval_bind (fun _ => trivial) fun outcome => ?_
  split <;> trivial

theorem warnsOnRemoval_clearAssembly (options : Options) :
    (clearAssembly options).WarnsOnRemoval := by
  unfold clearAssembly
  split
  · refine ⟨rfl, fun removed => ?_⟩
    cases removed <;> trivial
  · trivial

theorem warnsOnRemoval_conclude (options : Options) (status : Option Nat) :
    (conclude options status).WarnsOnRemoval := by
  have announced : (announce options).WarnsOnRemoval := by
    unfold announce
    split <;> trivial
  have executed : (runExecutable options).WarnsOnRemoval := by
    refine warnsOnRemoval_bind (warnsOnRemoval_runCommand _) fun status => ?_
    split <;> trivial
  unfold conclude
  split
  · refine warnsOnRemoval_bind announced fun _ => ?_
    split
    · exact executed
    · trivial
  · trivial

theorem warnsOnRemoval_assembleFile (options : Options) :
    (assembleFile options).WarnsOnRemoval := by
  refine warnsOnRemoval_bind (warnsOnRemoval_runCommand _) fun status => ?_
  exact warnsOnRemoval_bind (warnsOnRemoval_clearAssembly options) fun _ =>
    warnsOnRemoval_conclude options status

theorem warnsOnRemoval_ofOptions (options : Options) : (ofOptions options).WarnsOnRemoval := by
  unfold ofOptions
  split
  · trivial
  · next compilation _ =>
      have shown : (showIntermediates options compilation).WarnsOnRemoval := by
        unfold showIntermediates
        cases options.showTokens <;> cases options.showInstructions <;> trivial
      refine warnsOnRemoval_bind shown fun _ => ?_
      split
      · intro opened
        cases opened with
        | false => trivial
        | true =>
            intro written
            cases written with
            | false => trivial
            | true => exact warnsOnRemoval_assembleFile options
      · trivial

/-! Commands and files in a course. -/

variable {options : Options} {events : List Event} {code : ExitCode}

theorem assembleCommand_ne (options : Options) :
    assembleCommand options ≠ Shell.quote (executablePath options) := by
  intro same
  have first := congrArg (List.take 1) same
  have gcc : ascii "gcc -static -o " = 103 :: ascii "cc -static -o " := by decide
  simp only [assembleCommand, Shell.quote, gcc, List.cons_append, List.take_succ_cons,
    List.take_zero] at first
  exact absurd first (by decide)

namespace Ending

variable {assembler : CommandOutcome}

theorem assemble_notMem (ending : Ending options assembler events code) (outcome : CommandOutcome) :
    .command (assembleCommand options) outcome ∉ events :=
  ending.notMem nofun nofun (by simp [assembleCommand_ne])

theorem announcement_mem_iff (ending : Ending options assembler events code) :
    .print .output (announcement options) ∈ events ↔ assembler = .exited 0 := by
  cases ending with
  | failed unsuccessful => simp [unsuccessful]
  | built successful _ => simp [successful]
  | ran successful _ _ => simp [successful]

theorem execute_mem_iff (ending : Ending options assembler events code) :
    (∃ outcome, .command (Shell.quote (executablePath options)) outcome ∈ events) ↔
      options.run = true ∧ assembler = .exited 0 := by
  have output := onlyPrints_keptNote options
  cases ending with
  | failed unsuccessful => simp [unsuccessful]
  | built _ idle => simp [idle, output.notMem]
  | ran successful wanted errors => simp [successful, wanted, output.notMem, errors.notMem]

theorem ok_iff (ending : Ending options assembler events code) :
    code = .ok ↔ assembler = .exited 0 ∧ (options.run = false ∨
      ∃ exit, .command (Shell.quote (executablePath options)) (.exited exit) ∈ events) := by
  have output := onlyPrints_keptNote options
  cases ending with
  | failed unsuccessful => simp [unsuccessful]
  | built successful idle => simp [successful, idle]
  | @ran _ outcome successful wanted errors =>
      cases outcome <;>
        simp [successful, wanted, output.notMem, errors.notMem, CommandOutcome.status?]

/-- The executable is started directly after its announcement was flushed. -/
theorem flushed (ending : Ending options assembler events code) {before after : List Event}
    {outcome : CommandOutcome}
    (split : events = before ++ .command (Shell.quote (executablePath options)) outcome :: after) :
    ∃ earlier, before = earlier ++ [.print .output (announcement options), .flush] := by
  have output := onlyPrints_keptNote options
  cases ending with
  | failed _ => simp at split
  | built _ _ =>
      have member : .command (Shell.quote (executablePath options)) outcome ∈
          before ++ .command (Shell.quote (executablePath options)) outcome :: after := by simp
      rw [← split] at member
      simp [output.notMem] at member
  | @ran reported ended _ _ errors =>
      have regrouped : keptNote options ++ [.print .output (announcement options), .flush] ++
            .command (Shell.quote (executablePath options)) ended :: reported =
          before ++ .command (Shell.quote (executablePath options)) outcome :: after := by
        simpa using split
      -- The command stands once only, so both ways to cut the events at it are the same.
      obtain ⟨same, _⟩ := (List.append_cons_inj_of_notMem (by simp [output.notMem])
        (by simp [errors.notMem])).mp regrouped
      exact ⟨_, same.symm⟩

end Ending

namespace Building

variable {assembly : Bytes}

theorem written (building : Building options assembly events code) {before after : List Event}
    {outcome : CommandOutcome}
    (split : events = before ++ .command (assembleCommand options) outcome :: after) :
    before = [.openFile (assemblyName options) true,
      .writeFile (assemblyName options) assembly true] := by
  have member : .command (assembleCommand options) outcome ∈ events := by simp [split]
  cases building with
  | unopened errors => simp [errors.notMem] at member
  | unwritten errors => simp [errors.notMem] at member
  | @assembled reported cleared rest ended _ errors clearing ending =>
      have regrouped : [.openFile (assemblyName options) true,
            .writeFile (assemblyName options) assembly true] ++
            .command (assembleCommand options) ended :: (reported ++ (cleared ++ rest)) =
          before ++ .command (assembleCommand options) outcome :: after := split
      exact ((List.append_cons_inj_of_notMem (by simp)
        (by simp [errors.notMem, clearing.notMem, ending.assemble_notMem])).mp regrouped).1.symm

theorem countP_assemble (building : Building options assembly events code) :
    events.countP (starts (assembleCommand options)) ≤ 1 := by
  cases building with
  | unopened errors =>
      simp [starts, countP_starts_eq_zero, errors.notMem]
  | unwritten errors => simp [starts, countP_starts_eq_zero, errors.notMem]
  | assembled errors clearing ending =>
      simp [starts, countP_starts_eq_zero, errors.notMem, clearing.notMem, ending.assemble_notMem]

theorem announcement_mem_iff (building : Building options assembly events code) :
    .print .output (announcement options) ∈ events ↔
      .command (assembleCommand options) (.exited 0) ∈ events := by
  cases building with
  | unopened errors => simp [errors.notMem]
  | unwritten errors => simp [errors.notMem]
  | assembled errors clearing ending =>
      simp [errors.notMem, clearing.notMem, ending.assemble_notMem, ending.announcement_mem_iff,
        @eq_comm _ (CommandOutcome.exited 0)]

theorem execute_mem_iff (building : Building options assembly events code) :
    (∃ outcome, .command (Shell.quote (executablePath options)) outcome ∈ events) ↔
      options.run = true ∧ .command (assembleCommand options) (.exited 0) ∈ events := by
  have different := (assembleCommand_ne options).symm
  cases building with
  | unopened errors => simp [errors.notMem]
  | unwritten errors => simp [errors.notMem]
  | assembled errors clearing ending =>
      simp [errors.notMem, clearing.notMem, ending.assemble_notMem, ending.execute_mem_iff,
        different, @eq_comm _ (CommandOutcome.exited 0)]

theorem ok_iff (building : Building options assembly events code) :
    code = .ok ↔
      .openFile (assemblyName options) true ∈ events ∧
      .writeFile (assemblyName options) assembly true ∈ events ∧
      .command (assembleCommand options) (.exited 0) ∈ events ∧
      (options.run = false ∨
        ∃ exit, .command (Shell.quote (executablePath options)) (.exited exit) ∈ events) := by
  have different := (assembleCommand_ne options).symm
  cases building with
  | unopened errors => simp [errors.notMem]
  | unwritten errors => simp [errors.notMem]
  | assembled errors clearing ending =>
      simp [errors.notMem, clearing.notMem, ending.assemble_notMem, ending.ok_iff, different,
        @eq_comm _ (CommandOutcome.exited 0)]

theorem flushed (building : Building options assembly events code) {before after : List Event}
    {outcome : CommandOutcome}
    (split : events = before ++ .command (Shell.quote (executablePath options)) outcome :: after) :
    ∃ earlier, before = earlier ++ [.print .output (announcement options), .flush] := by
  have different := (assembleCommand_ne options).symm
  have member : .command (Shell.quote (executablePath options)) outcome ∈ events := by simp [split]
  cases building with
  | unopened errors => simp [errors.notMem] at member
  | unwritten errors => simp [errors.notMem] at member
  | @assembled reported cleared rest ended _ errors clearing ending =>
      have regrouped : (.openFile (assemblyName options) true ::
            .writeFile (assemblyName options) assembly true ::
            .command (assembleCommand options) ended :: (reported ++ cleared)) ++ rest =
          before ++ .command (Shell.quote (executablePath options)) outcome :: after := by
        simpa using split
      -- The assembler is another command, so the cut lies in the ending.
      obtain ⟨middle, rfl, later⟩ := exists_append_of_notMem
        (by simp [errors.notMem, clearing.notMem, different]) regrouped
      obtain ⟨earlier, rfl⟩ := ending.flushed later
      exact ⟨_, (List.append_assoc ..).symm⟩

end Building

namespace Course

theorem refused_spec (course : Course options events code) {error : CompileError}
    (fault : compile options.debug options.expression = .error error) :
    code = .compile ∧
      events = [.print .errors (ascii "Error compiling: " ++ error.report).line] ∧
      Ascii.newline ∉ error.report := by
  cases course with
  | refused faultToo =>
      cases fault.symm.trans faultToo
      exact ⟨rfl, rfl, Expression.newline_notMem_report (compile_eq_error_iff.mp fault)⟩
  | printed compiled _ _ | built compiled _ _ _ => cases fault.symm.trans compiled

theorem printed_spec (course : Course options events code) {compilation : Compilation}
    (compiled : compile options.debug options.expression = .ok compilation)
    (plain : options.assemble = false) :
    code = .ok ∧ Event.printed .output events = compilation.assembly ∧
      ∀ event ∈ events, ∃ stream text, event = .print stream text := by
  cases course with
  | refused fault => cases fault.symm.trans compiled
  | built _ wanted _ _ => cases plain.symm.trans wanted
  | @printed compilationToo shown compiledToo _ errors =>
      cases compiled.symm.trans compiledToo
      refine ⟨rfl, ?_, ?_⟩
      · have silent := errors.printed_eq_nil (by decide : Stream.errors ≠ .output)
        simpa [Event.printed] using silent
      · intro event member
        rcases List.mem_append.mp member with member | member
        · exact ⟨.errors, errors event member⟩
        · exact ⟨.output, _, List.mem_singleton.mp member⟩

theorem built_spec (course : Course options events code) {compilation : Compilation}
    (compiled : compile options.debug options.expression = .ok compilation)
    (wanted : options.assemble = true) :
    ∃ shown requests, events = shown ++ requests ∧ OnlyPrints .errors shown ∧
      Building options compilation.assembly requests code := by
  cases course with
  | refused fault => cases fault.symm.trans compiled
  | printed _ plain _ => cases plain.symm.trans wanted
  | built compiledToo _ errors building =>
      cases compiled.symm.trans compiledToo
      exact ⟨_, _, rfl, errors, building⟩

theorem countP_assemble (course : Course options events code) :
    events.countP (starts (assembleCommand options)) ≤ 1 := by
  cases course with
  | refused _ => simp [starts]
  | printed _ _ errors => simp [starts, countP_starts_eq_zero, errors.notMem]
  | built _ _ errors building =>
      simpa [countP_starts_eq_zero, errors.notMem] using building.countP_assemble

theorem written (course : Course options events code) {before after : List Event}
    {outcome : CommandOutcome}
    (split : events = before ++ .command (assembleCommand options) outcome :: after) :
    ∃ compilation shown, compile options.debug options.expression = .ok compilation ∧
      before = shown ++ [.openFile (assemblyName options) true,
        .writeFile (assemblyName options) compilation.assembly true] ∧
      OnlyPrints .errors shown := by
  have member : .command (assembleCommand options) outcome ∈ events := by simp [split]
  cases course with
  | refused _ => simp at member
  | printed _ _ errors => simp [errors.notMem] at member
  | built compiled _ errors building =>
      obtain ⟨middle, rfl, later⟩ := exists_append_of_notMem (by simp [errors.notMem]) split
      exact ⟨_, _, compiled, by rw [building.written later], errors⟩

theorem announcement_mem_iff (course : Course options events code)
    (wanted : options.assemble = true) :
    .print .output (announcement options) ∈ events ↔
      .command (assembleCommand options) (.exited 0) ∈ events := by
  cases course with
  | refused _ => simp
  | printed _ plain _ => cases plain.symm.trans wanted
  | built _ _ errors building => simp [errors.notMem, building.announcement_mem_iff]

theorem execute_mem_iff (course : Course options events code) :
    (∃ outcome, .command (Shell.quote (executablePath options)) outcome ∈ events) ↔
      options.run = true ∧ .command (assembleCommand options) (.exited 0) ∈ events := by
  cases course with
  | refused _ => simp
  | printed _ _ errors => simp [errors.notMem]
  | built _ _ errors building => simp [errors.notMem, building.execute_mem_iff]

theorem flushed (course : Course options events code) {before after : List Event}
    {outcome : CommandOutcome}
    (split : events = before ++ .command (Shell.quote (executablePath options)) outcome :: after) :
    ∃ earlier, before = earlier ++ [.print .output (announcement options), .flush] := by
  have member : .command (Shell.quote (executablePath options)) outcome ∈ events := by simp [split]
  cases course with
  | refused _ => simp at member
  | printed _ _ errors => simp [errors.notMem] at member
  | built _ _ errors building =>
      obtain ⟨middle, rfl, later⟩ := exists_append_of_notMem (by simp [errors.notMem]) split
      obtain ⟨earlier, rfl⟩ := building.flushed later
      exact ⟨_, (List.append_assoc ..).symm⟩

theorem ok_iff (course : Course options events code) :
    code = .ok ↔
      ∃ compilation, compile options.debug options.expression = .ok compilation ∧
        (options.assemble = false ∨
          .openFile (assemblyName options) true ∈ events ∧
          .writeFile (assemblyName options) compilation.assembly true ∈ events ∧
          .command (assembleCommand options) (.exited 0) ∈ events ∧
          (options.run = false ∨
            ∃ exit, .command (Shell.quote (executablePath options)) (.exited exit) ∈ events)) := by
  cases course with
  | refused fault => simp [fault]
  | printed compiled plain _ => simp [compiled, plain]
  | built compiled wanted errors building =>
      simp [compiled, wanted, errors.notMem, building.ok_iff]

end Course

/-- What the events of the job of some options and its exit code look like. -/
structure Orderly (options : Options) (events : List Event) (code : ExitCode) : Prop where
  /-- A fault of the expression is one line of errors, and nothing else happens. -/
  refused : ∀ error, compile options.debug options.expression = .error error →
    code = .compile ∧
      events = [.print .errors (ascii "Error compiling: " ++ error.report).line] ∧
      Ascii.newline ∉ error.report
  /-- Without a wish for an executable the assembly text is printed, and nothing is done. -/
  printed : ∀ compilation, compile options.debug options.expression = .ok compilation →
    options.assemble = false →
    code = .ok ∧ Event.printed .output events = compilation.assembly ∧
      ∀ event ∈ events, ∃ stream text, event = .print stream text
  /-- With a wish for an executable the assembly file is opened, written, assembled and cleared, and
  the executable is announced and run, each step if the one before it succeeded. -/
  built : ∀ compilation, compile options.debug options.expression = .ok compilation →
    options.assemble = true →
    ∃ shown requests, events = shown ++ requests ∧ OnlyPrints .errors shown ∧
      Building options compilation.assembly requests code
  assembledOnce : events.countP (starts (assembleCommand options)) ≤ 1
  /-- The assembler follows the assembly text, which was written as it is. -/
  assembledWritten : ∀ before outcome after,
    events = before ++ .command (assembleCommand options) outcome :: after →
    ∃ compilation shown, compile options.debug options.expression = .ok compilation ∧
      before = shown ++ [.openFile (assemblyName options) true,
        .writeFile (assemblyName options) compilation.assembly true] ∧
      OnlyPrints .errors shown
  announced : options.assemble = true →
    (.print .output (ascii "Generated executable " ++ options.outputName).line ∈ events ↔
      .command (assembleCommand options) (.exited 0) ∈ events)
  executed :
    (∃ outcome, .command (Shell.quote (executablePath options)) outcome ∈ events) ↔
      options.run = true ∧ .command (assembleCommand options) (.exited 0) ∈ events
  /-- The executable is started when its announcement has been flushed. -/
  flushed : ∀ before outcome after,
    events = before ++ .command (Shell.quote (executablePath options)) outcome :: after →
    ∃ earlier, before = earlier ++
      [.print .output (ascii "Generated executable " ++ options.outputName).line, .flush]
  succeeded : code = .ok ↔
    ∃ compilation, compile options.debug options.expression = .ok compilation ∧
      (options.assemble = false ∨
        .openFile (assemblyName options) true ∈ events ∧
        .writeFile (assemblyName options) compilation.assembly true ∈ events ∧
        .command (assembleCommand options) (.exited 0) ∈ events ∧
        (options.run = false ∨
          ∃ exit, .command (Shell.quote (executablePath options)) (.exited exit) ∈ events))

/-- In every environment the job of some options is orderly.  The events are those that the
environment notes in the same run.  A file that cannot be removed costs a warning only. -/
theorem job_is_orderly {State : Type} (environment : Environment State) (options : Options)
    (state : State) :
    (∃ events,
      (ofOptions options).run environment.noting (state, []) =
        (((ofOptions options).run environment state).1,
          ((ofOptions options).run environment state).2, events) ∧
      Orderly options events ((ofOptions options).run environment state).1) ∧
    (ofOptions options).WarnsOnRemoval := by
  obtain ⟨events, noted, does⟩ := run_noting environment (ofOptions options) state []
  have course := does_ofOptions does
  refine ⟨⟨events, noted, ?_⟩, warnsOnRemoval_ofOptions options⟩
  exact
    { refused := fun error => course.refused_spec
      printed := fun compilation => course.printed_spec
      built := fun compilation => course.built_spec
      assembledOnce := course.countP_assemble
      assembledWritten := fun before outcome after => course.written
      announced := course.announcement_mem_iff
      executed := course.execute_mem_iff
      flushed := fun before outcome after => course.flushed
      succeeded := course.ok_iff }

end Job

end Rpn
