import Rpn.Proofs.Options.Groups

/-! Calls on one options value.  The boundary between two calls can be seen only where a call ends
with an option that lacks its value, and in the setting that follows from running. -/

namespace Rpn.Options

/-! What later calls keep. -/

/-- No setting is taken back, and an expression stays. -/
structure Keeps (before after : Options) : Prop where
  showTokens : before.showTokens = true → after.showTokens = true
  showInstructions : before.showInstructions = true → after.showInstructions = true
  debug : before.debug = true → after.debug = true
  assemble : before.assemble = true → after.assemble = true
  run : before.run = true → after.run = true
  keepAssembly : before.keepAssembly = true → after.keepAssembly = true
  expression : before.expression ≠ [] → after.expression = before.expression

namespace Keeps

theorem refl (options : Options) : Keeps options options :=
  ⟨id, id, id, id, id, id, fun _ => rfl⟩

theorem trans {first second third : Options} (keeps : Keeps first second)
    (keepsToo : Keeps second third) : Keeps first third where
  showTokens := keepsToo.showTokens ∘ keeps.showTokens
  showInstructions := keepsToo.showInstructions ∘ keeps.showInstructions
  debug := keepsToo.debug ∘ keeps.debug
  assemble := keepsToo.assemble ∘ keeps.assemble
  run := keepsToo.run ∘ keeps.run
  keepAssembly := keepsToo.keepAssembly ∘ keeps.keepAssembly
  expression present := by
    have same := keeps.expression present
    rw [keepsToo.expression (same ▸ present), same]

theorem store {options : Options} {group : Group} (taken : options.refusal? group = none) :
    Keeps options (options.store group) := by
  cases group with
  | flag kind => cases kind <;> constructor <;> simp [Options.store, raise]
  | name value => exact ⟨id, id, id, id, id, id, fun _ => rfl⟩
  | nameless => cases taken
  | unknown argument => cases taken
  | positional argument =>
      have empty : options.expression = [] := by simpa [refusal?] using taken
      exact ⟨id, id, id, id, id, id, fun present => absurd empty present⟩

theorem conclude (options : Options) : Keeps options options.conclude.2 := by
  unfold Options.conclude
  split
  · exact refl options
  · constructor <;> simp +contextual

theorem follow (options : Options) (groups : List Group) :
    Keeps options (options.follow groups).2 := by
  induction groups generalizing options with
  | nil => exact conclude options
  | cons group groups induction =>
      unfold Options.follow
      cases taken : options.refusal? group with
      | some error => exact refl options
      | none => exact (store taken).trans (induction _)

theorem call (options : Options) (arguments : List Bytes) :
    Keeps options (options.call arguments).options := by
  obtain ⟨groups, reads⟩ := Reads.existence arguments
  rw [Options.call, parse_of_reads reads]
  exact follow options groups

end Keeps

/-- The options after some calls. -/
def after (options : Options) (calls : List (List Bytes)) : Options :=
  calls.foldl (fun options arguments => (options.call arguments).options) options

theorem Keeps.after (options : Options) (calls : List (List Bytes)) :
    Keeps options (options.after calls) := by
  induction calls generalizing options with
  | nil => exact refl options
  | cons arguments calls induction => exact (call options arguments).trans (induction _)

/-! Running asks for an executable at the end of a call already. -/

theorem raise_assembling (options : Options) (flag : Flag) :
    { options with assemble := true }.raise flag =
      { options.raise flag with assemble := true } := by
  cases flag <;> rfl

/-- To ask for an executable early makes no difference but in the options of a call that fails. -/
theorem follow_assembling {options : Options} (present : options.expression ≠ [])
    (runs : options.run = true) (groups : List Group) :
    { options with assemble := true }.follow groups =
        ((options.follow groups).1, { (options.follow groups).2 with assemble := true }) ∧
      (options.follow groups).1 ≠ some .noExpression ∧
      ((options.follow groups).1 = none → (options.follow groups).2.assemble = true) := by
  induction groups generalizing options with
  | nil => simp [follow, conclude, present, runs]
  | cons group groups induction =>
      cases group with
      | flag kind =>
          have kept : Keeps options (options.store (.flag kind)) := Keeps.store rfl
          have later := @induction (options.raise kind) (kept.expression present ▸ present)
            (kept.run runs)
          simpa only [follow, refusal?, store, raise_assembling] using later
      | name value =>
          exact @induction { options with outputName := value } present runs
      | nameless => simp [follow, refusal?]
      | unknown argument => simp [follow, refusal?]
      | positional argument => simp [follow, refusal?, present]

theorem conclude_cases (options : Options) :
    options.conclude.2 = options ∨
      options.expression ≠ [] ∧ options.run = true ∧
        options.conclude.2 = { options with assemble := true } := by
  by_cases empty : options.expression = []
  · exact .inl (by simp [conclude, empty])
  · cases runs : options.run with
    | false =>
        have same : (options.assemble || options.run) = options.assemble := by simp [runs]
        exact .inl (by rw [conclude, if_neg empty, same])
    | true => exact .inr ⟨empty, rfl, by simp [conclude, empty, runs]⟩

/-- The end of a call between groups. -/
theorem follow_conclude (options : Options) (groups : List Group) :
    (options.follow groups).1 = (options.conclude.2.follow groups).1 ∧
      { (options.follow groups).2 with
        assemble := (options.conclude.2.follow groups).2.assemble } =
          (options.conclude.2.follow groups).2 ∧
      ((options.follow groups).1 = none ∨ (options.follow groups).1 = some .noExpression →
        (options.follow groups).2 = (options.conclude.2.follow groups).2) := by
  rcases options.conclude_cases with same | ⟨present, runs, early⟩
  · simp [same]
  · obtain ⟨followed, expressed, assembles⟩ := follow_assembling present runs groups
    rw [early, followed]
    refine ⟨rfl, rfl, ?_⟩
    rintro (ended | ended)
    · rw [← assembles ended]
    · exact absurd ended expressed

/-- A call that takes all its arguments and a call after it answer as one call, but for the
setting that follows from running.  Where a call refuses an argument for what it is, arguments
after it are not looked at.  Whatever calls are made, settings stay and so does an expression. -/
theorem calls_compose (options : Options) (first second : List Bytes) :
    ((options.call first).code = .ok ∨ (options.call first).code = .noExpression →
      (options.call (first ++ second)).code = ((options.call first).options.call second).code ∧
      (options.call (first ++ second)).text = ((options.call first).options.call second).text ∧
      { (options.call (first ++ second)).options with
        assemble := ((options.call first).options.call second).options.assemble } =
          ((options.call first).options.call second).options ∧
      ((options.call (first ++ second)).code = .ok ∨
          (options.call (first ++ second)).code = .noExpression →
        (options.call (first ++ second)).options =
          ((options.call first).options.call second).options)) ∧
    ((options.call first).code = .unknownOption ∨
        (options.call first).code = .usage ∧ (options.parse first).1 ≠ some .missingName →
      options.call (first ++ second) = options.call first) ∧
    ∀ calls more, Keeps (options.after calls) (options.after (calls ++ more)) := by
  obtain ⟨groups, reads⟩ := Reads.existence first
  obtain ⟨others, readsOthers⟩ := Reads.existence second
  refine ⟨fun ended => ?_, fun failed => ?_, fun calls more => ?_⟩
  · have accepts := (code_call_iff_accepts reads).mp ended
    have whole := reads.append (nameless_notMem_of_accepts accepts) readsOthers
    obtain ⟨errors, apart, agree⟩ := follow_conclude (groups.foldl store options) others
    simp only [call, parse_of_reads whole, parse_of_reads reads, parse_of_reads readsOthers,
      follow_append accepts, follow_of_accepts accepts, code_reply_eq_ok_iff,
      code_reply_eq_noExpression_iff]
    exact ⟨by rw [reply, errors]; rfl, by rw [reply, errors]; rfl, apart, agree⟩
  · rcases accepts_or_refused options groups with
      accepts | ⟨before, group, after, error, rfl, accepts, refused⟩
    · have ended := (code_call_iff_accepts reads).mpr accepts
      rcases ended with ended | ended <;> simp [ended] at failed
    · have stopped := parse_of_reads reads options
      rw [follow_of_refusal accepts refused] at stopped
      have complete : group ≠ .nameless := by
        rintro rfl
        cases refused
        simp [call, stopped, reply, OptionError.exitCode] at failed
      obtain ⟨later, readsLater⟩ := reads.exists_append complete second
      rw [call, call, stopped, parse_of_reads readsLater, follow_of_refusal accepts refused]
  · rw [after, after, List.foldl_append]
    exact Keeps.after _ more

/-- A refused option after a call that asked for running: the first call has asked for an
executable already, a single call does not. -/
theorem calls_compose_running :
    (({} : Options).call [ascii "--run", ascii "3"]).code = .ok ∧
    ({} : Options).call [ascii "--run", ascii "3", ascii "--x"] =
      ⟨.unknownOption, ascii "Error: unknown option --x\n",
        { run := true, expression := ascii "3" }⟩ ∧
    { run := true, expression := ascii "3", assemble := true } =
      ((({} : Options).call [ascii "--run", ascii "3"]).options.call [ascii "--x"]).options ∧
    ({} : Options).call [ascii "--run", ascii "3", ascii "--x", ascii "--filename"] =
      ({} : Options).call [ascii "--run", ascii "3", ascii "--x"] := by
  have ended : (({} : Options).call [ascii "--run", ascii "3"]).code = .ok := by decide +kernel
  have single : ({} : Options).call [ascii "--run", ascii "3", ascii "--x"] =
      ⟨.unknownOption, ascii "Error: unknown option --x\n",
        { run := true, expression := ascii "3" }⟩ := by decide +kernel
  obtain ⟨taken, _⟩ := calls_compose {} [ascii "--run", ascii "3"] [ascii "--x"]
  obtain ⟨_, refused, _⟩ :=
    calls_compose {} [ascii "--run", ascii "3", ascii "--x"] [ascii "--filename"]
  obtain ⟨_, _, apart, _⟩ := taken (.inl ended)
  refine ⟨ended, single, ?_, refused (.inl (by rw [single]))⟩
  rw [← apart]
  decide +kernel

end Rpn.Options
