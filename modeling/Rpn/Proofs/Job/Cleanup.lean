import Rpn.Proofs.Job.Courses

/-! What is left of the assembly file when the job of the compiler has ended. -/

namespace Rpn

namespace Environment

variable {State : Type} {environment : Environment State} {holds : State → Prop}
  {start state next final : State} {event : Event} {events later : List Event}

/-! The states between the events of a run. -/

/-- In a state an event can happen: its answer is that of the environment. -/
def Answers (environment : Environment State) (state : State) : Event → State → Prop
  | .print stream text, next => environment.print stream text state = next
  | .flush, next => environment.flush state = next
  | .openFile name opened, next => environment.openFile name state = (opened, next)
  | .writeFile name content written, next =>
      environment.writeFile name content state = (written, next)
  | .removeFile name removed, next => environment.removeFile name state = (removed, next)
  | .command text outcome, next => environment.command text state = (outcome, next)

def Passes (environment : Environment State) : State → List Event → State → Prop
  | state, [], final => state = final
  | state, event :: events, final =>
      ∃ next, environment.Answers state event next ∧ environment.Passes next events final

theorem passes_append : environment.Passes start (events ++ later) final ↔
    ∃ state, environment.Passes start events state ∧ environment.Passes state later final := by
  induction events generalizing start with
  | nil => simp [Passes]
  | cons event events induction =>
      simp only [List.cons_append, Passes, induction]
      constructor
      · rintro ⟨next, answers, state, first, second⟩
        exact ⟨state, ⟨next, answers, first⟩, second⟩
      · rintro ⟨state, ⟨next, answers, first⟩, second⟩
        exact ⟨next, answers, state, first, second⟩

theorem Passes.extend (passes : environment.Passes start events state)
    (answers : environment.Answers state event next) :
    environment.Passes start (events ++ [event]) next :=
  passes_append.mpr ⟨state, passes, next, answers, rfl⟩

/-- The events that are noted lead from the first state of a run to its last. -/
theorem passes_run_noting {α : Type} (job : Job α)
    (passes : environment.Passes start events state) :
    environment.Passes start (job.run environment.noting (state, events)).2.2
      (job.run environment.noting (state, events)).2.1 := by
  induction job generalizing state events with
  | done result => exact passes
  | print _ _ _ induction | flush _ induction => exact induction (passes.extend rfl)
  | openFile _ _ induction | writeFile _ _ _ induction | removeFile _ _ induction
  | command _ _ induction => exact induction _ (passes.extend rfl)

/-- Whatever the answer to an event is, what held before it holds after it. -/
def Keeps (environment : Environment State) (holds : State → Prop) (event : Event) : Prop :=
  ∀ state next, environment.Answers state event next → holds state → holds next

theorem Passes.keeps (passes : environment.Passes start events final)
    (keeps : ∀ event ∈ events, environment.Keeps holds event) (begins : holds start) :
    holds final := by
  induction events generalizing start with
  | nil =>
      cases passes
      exact begins
  | cons event events induction =>
      obtain ⟨next, answers, passes⟩ := passes
      obtain ⟨kept, keeps⟩ := List.forall_mem_cons.mp keeps
      exact induction passes keeps (kept _ _ answers begins)

theorem keeps_onlyPrints {stream : Stream}
    (keeps : ∀ text, environment.Keeps holds (.print stream text))
    (prints : Event.OnlyPrints stream events) :
    ∀ event ∈ events, environment.Keeps holds event := by
  intro event member
  obtain ⟨text, rfl⟩ := prints event member
  exact keeps text

end Environment

namespace Job

open Environment Event

/-- What there is to know about the assembly file: it is gone after a removal, and nothing makes it
but opening it.  The assembler may do with it what it wants. -/
structure Cleanable {State : Type} (environment : Environment State) (options : Options)
    (present : State → Prop) : Prop where
  print : ∀ stream text, environment.Keeps (¬ present ·) (.print stream text)
  flush : environment.Keeps (¬ present ·) .flush
  unopened : environment.Keeps (¬ present ·) (.openFile (assemblyName options) false)
  execute : ∀ outcome,
    environment.Keeps (¬ present ·) (.command (Shell.quote (executablePath options)) outcome)
  removed : ∀ removed state next,
    environment.Answers state (.removeFile (assemblyName options) removed) next → ¬ present next

/-- An assembly file that was opened is there, and it stays when it cannot be written. -/
structure Lasting {State : Type} (environment : Environment State) (options : Options)
    (present : State → Prop) : Prop where
  opened : ∀ state next,
    environment.Answers state (.openFile (assemblyName options) true) next → present next
  unwritten : ∀ text,
    environment.Keeps present (.writeFile (assemblyName options) text false)
  print : ∀ stream text, environment.Keeps present (.print stream text)

variable {State : Type} {environment : Environment State} {options : Options}
  {present : State → Prop} {state final : State} {events : List Event} {code : ExitCode}
  {assembly : Bytes}

namespace Cleanable

theorem keeps_prints (cleanable : Cleanable environment options present) {stream : Stream}
    (prints : OnlyPrints stream events) :
    ∀ event ∈ events, environment.Keeps (¬ present ·) event :=
  keeps_onlyPrints (cleanable.print stream) prints

theorem keeps_ending (cleanable : Cleanable environment options present)
    {assembler : CommandOutcome} (ending : Ending options assembler events code) :
    ∀ event ∈ events, environment.Keeps (¬ present ·) event := by
  have announced := cleanable.print .output (announcement options)
  have noted := cleanable.keeps_prints (onlyPrints_keptNote options)
  cases ending with
  | failed _ => exact List.forall_mem_nil _
  | built _ _ => simpa [or_imp, forall_and, announced, cleanable.flush] using noted
  | ran _ _ errors =>
      simpa [or_imp, forall_and, announced, cleanable.flush, cleanable.execute] using
        And.intro noted (cleanable.keeps_prints errors)

theorem absent_of_clearing (cleanable : Cleanable environment options present)
    (drop : options.keepAssembly = false) (clearing : Clearing options events)
    (passes : environment.Passes state events final) : ¬ present final := by
  cases clearing with
  | kept keep => cases keep.symm.trans drop
  | removed _ =>
      obtain ⟨_, answers, rfl⟩ := passes
      exact cleanable.removed _ _ _ answers
  | left _ =>
      obtain ⟨_, answers, _, warned, rfl⟩ := passes
      exact cleanable.print _ _ _ _ warned (cleanable.removed _ _ _ answers)

theorem absent_of_building (cleanable : Cleanable environment options present)
    (drop : options.keepAssembly = false) (building : Building options assembly events code)
    (written : ∀ text, .writeFile (assemblyName options) text false ∉ events)
    (passes : environment.Passes state events final) (absent : ¬ present state) :
    ¬ present final := by
  cases building with
  | unopened errors =>
      have keeps := List.forall_mem_cons.mpr ⟨cleanable.unopened, cleanable.keeps_prints errors⟩
      exact passes.keeps keeps absent
  | unwritten _ => exact absurd (by simp) (written assembly)
  | assembled _ clearing ending =>
      -- Whatever the assembler left behind is gone when the file was cleared.
      obtain ⟨_, _, _, _, _, _, passes⟩ := passes
      obtain ⟨_, _, passes⟩ := passes_append.mp passes
      obtain ⟨cleared, clears, passes⟩ := passes_append.mp passes
      exact passes.keeps (cleanable.keeps_ending ending)
        (cleanable.absent_of_clearing drop clearing clears)

theorem absent_of_course (cleanable : Cleanable environment options present)
    (drop : options.keepAssembly = false) (course : Course options events code)
    (written : ∀ text, .writeFile (assemblyName options) text false ∉ events)
    (passes : environment.Passes state events final) (absent : ¬ present state) :
    ¬ present final := by
  cases course with
  | refused _ =>
      exact passes.keeps (cleanable.keeps_prints (onlyPrints_singleton _)) absent
  | printed _ _ errors =>
      obtain ⟨shown, shows, passes⟩ := passes_append.mp passes
      have still := shows.keeps (cleanable.keeps_prints errors) absent
      exact passes.keeps (cleanable.keeps_prints (onlyPrints_singleton _)) still
  | built _ _ errors building =>
      obtain ⟨shown, shows, passes⟩ := passes_append.mp passes
      have still := shows.keeps (cleanable.keeps_prints errors) absent
      refine cleanable.absent_of_building drop building (fun text member => ?_) passes still
      exact written text (List.mem_append_right _ member)

end Cleanable

namespace Lasting

theorem present_of_building (lasting : Lasting environment options present)
    (building : Building options assembly events code) {text : Bytes}
    (failed : .writeFile (assemblyName options) text false ∈ events)
    (passes : environment.Passes state events final) : present final := by
  cases building with
  | unopened errors => simp [errors.notMem] at failed
  | unwritten errors =>
      obtain ⟨_, opens, _, writes, passes⟩ := passes
      exact passes.keeps (keeps_onlyPrints (lasting.print _) errors)
        (lasting.unwritten _ _ _ writes (lasting.opened _ _ opens))
  | assembled errors clearing ending =>
      simp [errors.notMem, clearing.notMem, ending.notMem] at failed

theorem present_of_course (lasting : Lasting environment options present)
    (course : Course options events code) {text : Bytes}
    (failed : .writeFile (assemblyName options) text false ∈ events)
    (passes : environment.Passes state events final) : present final := by
  cases course with
  | refused _ => simp at failed
  | printed _ _ errors => simp [errors.notMem] at failed
  | built _ _ errors building =>
      obtain ⟨_, _, passes⟩ := passes_append.mp passes
      have failed := (List.mem_append.mp failed).resolve_left (by simp [errors.notMem])
      exact lasting.present_of_building building failed passes

end Lasting

/-! A folder in which there may be one file. -/

/-- The state tells whether the file is there.  On a full disk it can be opened but not written. -/
def folderEnvironment (full : Bool) : Environment Bool where
  print _ _ there := there
  flush there := there
  openFile _ _ := (true, true)
  writeFile _ _ there := (!full, there)
  removeFile _ there := (there, false)
  command _ there := (.exited 0, there)

theorem cleanable_folder (full : Bool) (options : Options) :
    Cleanable (folderEnvironment full) options (· = true) where
  print _ _ _ _ := by
    rintro rfl
    exact id
  flush _ _ := by
    rintro rfl
    exact id
  unopened := nofun
  execute _ _ _ := by
    rintro ⟨⟩
    exact id
  removed _ _ _ answers := by
    cases (Prod.mk.inj answers).2
    exact Bool.false_ne_true

theorem lasting_folder (full : Bool) (options : Options) :
    Lasting (folderEnvironment full) options (· = true) where
  opened _ _ := by
    rintro ⟨⟩
    rfl
  unwritten _ _ _ answers := by
    cases (Prod.mk.inj answers).2
    exact id
  print _ _ _ _ := by
    rintro rfl
    exact id

def folderOptions : Options :=
  { assemble := true, run := true, expression := ascii "3 4 +", outputName := ascii "x" }

/-- However the job ends, an assembly file that is not to be kept is not there any more, if what
was written to it could be written.  If not, the file stays. -/
theorem assembly_is_cleaned_up_if_written (cleanable : Cleanable environment options present)
    (drop : options.keepAssembly = false) (absent : ¬ present state) :
    ∃ events,
      (ofOptions options).run environment.noting (state, []) =
        (((ofOptions options).run environment state).1,
          ((ofOptions options).run environment state).2, events) ∧
      ((∀ text, .writeFile (assemblyName options) text false ∉ events) →
        ¬ present ((ofOptions options).run environment state).2) ∧
      (Lasting environment options present →
        ∀ text, .writeFile (assemblyName options) text false ∈ events →
          present ((ofOptions options).run environment state).2) := by
  obtain ⟨events, noted, does⟩ := run_noting environment (ofOptions options) state []
  have begins : environment.Passes state [] state := rfl
  have passes := passes_run_noting (ofOptions options) begins
  rw [noted] at passes
  have course := does_ofOptions does
  refine ⟨events, noted, fun written => ?_, fun lasting text failed => ?_⟩
  · exact cleanable.absent_of_course drop course written passes absent
  · exact lasting.present_of_course course failed passes

/-- On a disk with room the file is gone at the end, and on a full one it is there. -/
theorem assembly_is_cleaned_up_if_written_in_folder :
    ((ofOptions folderOptions).run (folderEnvironment false) false).2 ≠ true ∧
      ((ofOptions folderOptions).run (folderEnvironment true) false).2 = true := by
  constructor
  · obtain ⟨events, noted, cleaned, _⟩ := assembly_is_cleaned_up_if_written
      (cleanable_folder false folderOptions) rfl Bool.false_ne_true
    have written : ((ofOptions folderOptions).run (folderEnvironment false).noting
        (false, [])).2.2.all (fun
          | .writeFile _ _ written => written
          | _ => true) = true := by
      decide +kernel
    rw [noted] at written
    refine cleaned fun text failed => ?_
    exact Bool.false_ne_true (List.all_eq_true.mp written _ failed)
  · obtain ⟨events, noted, _, remains⟩ := assembly_is_cleaned_up_if_written
      (cleanable_folder true folderOptions) rfl Bool.false_ne_true
    let compiled := compile folderOptions.debug folderOptions.expression
    let text := (compiled.toOption.map Compilation.assembly).getD []
    have failed : .writeFile (assemblyName folderOptions) text false ∈
        ((ofOptions folderOptions).run (folderEnvironment true).noting (false, [])).2.2 := by
      decide +kernel
    rw [noted] at failed
    exact remains (lasting_folder true folderOptions) text failed

/-- There is no assembly file at first, a removal leaves none and no command makes one.  Still it is
there at the end if the disk is full: the job ends without a removal. -/
theorem assembly_remains_on_full_disk :
    Cleanable (folderEnvironment true) folderOptions (· = true) ∧
      folderOptions.assemble = true ∧ folderOptions.keepAssembly = false ∧
      (∀ text there, ((folderEnvironment true).command text there).2 = there) ∧
      (ofOptions folderOptions).run (folderEnvironment true) false = (.fileOpen, true) :=
  ⟨cleanable_folder true folderOptions, rfl, rfl, fun _ _ => rfl, by decide +kernel⟩

end Job

end Rpn
