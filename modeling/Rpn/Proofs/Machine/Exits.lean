import Rpn.Proofs.Machine.Loops

/-! Where a run that enters a block leaves it.  What a block does between its first line and the
first line elsewhere does not depend on the file around it. -/

namespace Rpn.Machine

open Assembly Codegen Evaluation

variable {unit : FloatUnit} {platform : Platform} {file block rest : List Line}

/-- A block stands in a file that defines nothing twice, and the handlers of all failures are
behind it. -/
structure Stands (file block rest : List Line) : Prop where
  placed : block ++ rest <:+ file
  once : (defined file).Nodup
  handled : Handled rest

/-- The lines that follow begin in the block. -/
def Inside (block rest lines : List Line) : Prop :=
  rest.length < lines.length ∧ lines <:+ block ++ rest

/-- A run gets from one position to another through lines of the block only. -/
inductive Crosses (platform : Platform) (file block rest : List Line) :
    Position unit → Position unit → Prop
  | refl (position : Position unit) : Crosses platform file block rest position position
  | line {state : State unit} {lines : List Line} {next final : Position unit}
      (inside : Inside block rest lines) (taken : step platform file state lines = some next)
      (later : Crosses platform file block rest next final) :
      Crosses platform file block rest (.running state lines) final

/-- A run that enters a block in a state leaves it in another one.  The lines that follow then are
the first ones outside. -/
structure Leaves (platform : Platform) (file block rest : List Line) (state next : State unit)
    (lines : List Line) : Prop where
  crosses : Crosses platform file block rest (.running state (block ++ rest)) (.running next lines)
  outside : ¬ Inside block rest lines

/-- Until it has left the block, a run never gets stuck. -/
theorem Leaves.isSome_step {state next between : State unit} {lines ahead : List Line}
    (leaves : Leaves platform file block rest state next lines)
    (crosses : Crosses platform file block rest (.running state (block ++ rest))
      (.running between ahead)) (inside : Inside block rest ahead) :
    (step platform file between ahead).isSome = true := by
  obtain ⟨whole, outside⟩ := leaves
  -- The run is determined by where it is, so the way out passes through every place on the way.
  generalize Position.running state (block ++ rest) = start at whole crosses
  generalize reached : Position.running between ahead = place at crosses
  induction crosses with
  | refl position =>
      subst reached
      cases whole with
      | refl _ => exact absurd inside outside
      | line _ taken _ => rw [taken]; rfl
  | line insideToo takenToo _ induction =>
      cases whole with
      | refl _ => exact absurd insideToo outside
      | line _ taken later =>
          cases takenToo.symm.trans taken
          exact induction later reached

/-! Labels. -/

theorem codeAt?_append_eq (symbol : Symbol) (first second : List Line) :
    codeAt? symbol (first ++ second) =
      ((codeAt? symbol first).map (· ++ second)).or (codeAt? symbol second) := by
  induction first with
  | nil => rfl
  | cons line first induction =>
      cases line with
      | label name =>
          by_cases equal : name = symbol
          · simp [codeAt?, equal]
          · simpa [codeAt?, equal] using induction
      | _ => exact induction

theorem suffix_of_codeAt? {symbol : Symbol} {code : List Line}
    (found : codeAt? symbol file = some code) : .label symbol :: code <:+ file := by
  induction file with
  | nil => cases found
  | cons line file induction =>
      cases line with
      | label name =>
          rw [codeAt?] at found
          split at found
          · next equal =>
              cases found
              rw [equal]
          · exact (induction found).trans (List.suffix_cons _ _)
      | _ => exact (induction found).trans (List.suffix_cons _ _)

/-- What follows a label tells which label it is. -/
theorem eq_of_codeAt? {symbol other : Symbol} {code : List Line}
    (found : codeAt? symbol file = some code) (foundOther : codeAt? other file = some code) :
    symbol = other := by
  have shorter := List.suffix_of_suffix_length_le (suffix_of_codeAt? found)
    (suffix_of_codeAt? foundOther) (by simp)
  exact Line.label.inj (List.cons.inj (shorter.eq_of_length (by simp))).1

theorem handlerOf_injective {failure other : Failure} (same : handlerOf failure = handlerOf other) :
    failure = other := by
  revert same
  cases failure <;> cases other <;> decide

/-! Blocks without a program around them. -/

/-- A line at which no run goes on. -/
def barrier : Line :=
  .directive .code

/-- Handlers that do nothing, for a block that stands alone. -/
def barriers : List Line :=
  barrier :: [Failure.tooFew, .zeroDivisor, .overflow, .tooMany].flatMap fun failure =>
    [.label (handlerOf failure), barrier]

theorem handled_barriers : Handled barriers := by
  intro failure
  cases failure <;> exact ⟨_, rfl⟩

theorem codeAt?_barriers {symbol : Symbol} {code : List Line}
    (found : codeAt? symbol barriers = some code) :
    code.head? = some barrier ∧ code.length < barriers.length ∧
      ∃ failure, handlerOf failure = symbol := by
  simp only [barriers, List.flatMap_cons, List.flatMap_nil, List.cons_append, List.nil_append,
    barrier, codeAt?] at found
  split at found
  · next same => cases found; exact ⟨rfl, by decide, _, same⟩
  split at found
  · next same => cases found; exact ⟨rfl, by decide, _, same⟩
  split at found
  · next same => cases found; exact ⟨rfl, by decide, _, same⟩
  split at found
  · next same => cases found; exact ⟨rfl, by decide, _, same⟩
  · cases found

namespace Stands

theorem apart (stands : Stands file block rest) : (defined block ++ defined rest).Nodup := by
  rw [← defined_append]
  exact stands.once.sublist (stands.placed.sublist.filterMap _)

theorem codeAt?_handler (stands : Stands file block rest) (failure : Failure) :
    ∃ code, codeAt? (handlerOf failure) file = some code ∧ code.length < rest.length ∧
      handlerOf failure ∉ defined block := by
  obtain ⟨code, found⟩ := stands.handled failure
  have behind := suffix_of_codeAt? found
  have inFile := behind.trans ((List.suffix_append _ _).trans stands.placed)
  refine ⟨code, codeAt?_of_suffix stands.once inFile, ?_, ?_⟩
  · simpa using behind.length_le
  · intro member
    have again : handlerOf failure ∈ defined rest :=
      mem_defined (behind.mem (List.mem_cons_self ..)) rfl
    exact (List.nodup_append.mp stands.apart).2.2 _ member _ again rfl

theorem handled_alone (stands : Stands file block rest) : Handled (block ++ barriers) := by
  intro failure
  obtain ⟨_, _, _, missing⟩ := stands.codeAt?_handler failure
  rw [codeAt?_append _ missing]
  exact handled_barriers failure

theorem once_alone (stands : Stands file block rest) :
    (defined (block ++ barriers)).Nodup := by
  rw [defined_append]
  refine List.nodup_append.mpr ⟨(List.nodup_append.mp stands.apart).1, by decide, ?_⟩
  rintro symbol member _ handler rfl
  have handlers : defined barriers =
      [Failure.tooFew, .zeroDivisor, .overflow, .tooMany].map handlerOf := rfl
  rw [handlers] at handler
  obtain ⟨failure, _, rfl⟩ := List.mem_map.mp handler
  obtain ⟨_, _, _, missing⟩ := stands.codeAt?_handler failure
  exact missing member

/-- The first part of a block stands in front of the second one. -/
theorem front {second : List Line} (stands : Stands file (block ++ second) rest) :
    Stands file block (second ++ rest) where
  placed := by
    rw [← List.append_assoc]
    exact stands.placed
  once := stands.once
  handled failure := by
    obtain ⟨code, found⟩ := stands.handled failure
    obtain ⟨_, _, _, missing⟩ := stands.codeAt?_handler failure
    rw [defined_append] at missing
    exact ⟨code, (codeAt?_append _ fun member => missing (by simp [member])).trans found⟩

end Stands

/-- A place of the block alone and the same place of the block in its file. -/
inductive Corresponds (file block rest : List Line) : List Line → List Line → Prop
  | part {part : List Line} (inBlock : part <:+ block) :
      Corresponds file block rest (part ++ barriers) (part ++ rest)
  | handler {failure : Failure} {alone code : List Line}
      (foundAlone : codeAt? (handlerOf failure) barriers = some alone)
      (found : codeAt? (handlerOf failure) file = some code) :
      Corresponds file block rest alone code

/-- A line goes on to the next one or jumps, and it does so in every file. -/
theorem step_cases {state next : State unit} {line : Line} {tail ahead : List Line}
    (taken : step platform file state (line :: tail) = some (.running next ahead)) :
    (ahead = tail ∧ ∀ other others,
      step platform other state (line :: others) = some (.running next others)) ∨
    ∃ target, codeAt? target file = some ahead ∧ ∀ other others code,
      codeAt? target other = some code →
        step platform other state (line :: others) = some (.running next code) := by
  cases line with
  | directive _ | datum _ _ => cases taken
  | blank | heading _ | remark _ | label _ =>
      cases taken
      exact .inl ⟨rfl, fun _ _ => rfl⟩
  | instr instruction =>
      cases instruction with
      | jump target =>
          obtain ⟨code, found, equal⟩ := Option.bind_eq_some_iff.mp taken
          cases equal
          exact .inr ⟨target, found, fun _ _ _ foundToo => by simp [step, foundToo]⟩
      | jumpIf condition target =>
          obtain ⟨holds, tested, taken⟩ := Option.bind_eq_some_iff.mp taken
          cases holds with
          | true =>
              obtain ⟨code, found, equal⟩ := Option.bind_eq_some_iff.mp taken
              cases equal
              exact .inr ⟨target, found, fun _ _ _ foundToo => by simp [step, tested, foundToo]⟩
          | false =>
              cases taken
              exact .inl ⟨rfl, fun _ _ => by simp [step, tested]⟩
      | call function =>
          simp only [step, call] at taken
          split at taken
          · cases taken
          split at taken
          · cases taken
            exact .inl ⟨rfl, fun _ _ => by simp [step, call, *]⟩
          · split at taken <;> cases taken
      | ret => cases taken
      | breakpoint => cases taken
      | _ =>
          simp only [step, Option.bind_eq_bind, Option.bind_eq_some_iff] at taken
          obtain ⟨_, done, equal⟩ := taken
          cases equal
          exact .inl ⟨rfl, fun _ _ => by simp [step, done]⟩

namespace Stands

theorem corresponds_of_codeAt? (stands : Stands file block rest) {symbol : Symbol}
    {alone : List Line} (found : codeAt? symbol (block ++ barriers) = some alone) :
    ∃ lines, codeAt? symbol file = some lines ∧ Corresponds file block rest alone lines := by
  rw [codeAt?_append_eq] at found
  cases own : codeAt? symbol block with
  | some part =>
      rw [own] at found
      cases found
      have labelled := suffix_of_codeAt? own
      have placed : .label symbol :: (part ++ rest) <:+ file :=
        ((List.suffix_append_inj_of_length_eq rfl).mpr ⟨labelled, rfl⟩).trans stands.placed
      exact ⟨_, codeAt?_of_suffix stands.once placed,
        .part ((List.suffix_cons _ _).trans labelled)⟩
  | none =>
      rw [own] at found
      obtain ⟨_, _, failure, rfl⟩ := codeAt?_barriers found
      obtain ⟨code, foundCode, _⟩ := stands.codeAt?_handler failure
      exact ⟨code, foundCode, .handler found foundCode⟩

/-- A step of the block alone is a step of the block in its file. -/
theorem step_of_alone (stands : Stands file block rest) {state next : State unit}
    {alone ahead lines : List Line} (corresponds : Corresponds file block rest alone lines)
    (taken : step platform (block ++ barriers) state alone = some (.running next ahead)) :
    Inside block rest lines ∧ ∃ after, step platform file state lines = some (.running next after) ∧
      Corresponds file block rest ahead after := by
  cases corresponds with
  | handler foundAlone _ =>
      obtain ⟨begins, _⟩ := codeAt?_barriers foundAlone
      obtain ⟨tail, rfl⟩ := List.head?_eq_some_iff.mp begins
      cases taken
  | @part part inBlock =>
      cases part with
      | nil => cases taken
      | cons line tail =>
          refine ⟨⟨by simp, ?_⟩, ?_⟩
          · exact (List.suffix_append_inj_of_length_eq rfl).mpr ⟨inBlock, rfl⟩
          rcases step_cases taken with ⟨rfl, same⟩ | ⟨target, found, same⟩
          · exact ⟨_, same _ _, .part ((List.suffix_cons _ _).trans inBlock)⟩
          · obtain ⟨after, foundAfter, correspondsAfter⟩ := stands.corresponds_of_codeAt? found
            exact ⟨after, same _ _ _ foundAfter, correspondsAfter⟩

/-- A run of the block alone is a run through the block in its file. -/
theorem crosses_of_alone (stands : Stands file block rest) {state next : State unit}
    {alone ahead lines : List Line} (corresponds : Corresponds file block rest alone lines)
    (reaches : Reaches platform (block ++ barriers) (.running state alone) (.running next ahead)) :
    ∃ after, Crosses platform file block rest (.running state lines) (.running next after) ∧
      Corresponds file block rest ahead after := by
  generalize started : Position.running state alone = start at reaches
  generalize ended : Position.running next ahead = final at reaches
  induction reaches generalizing state alone lines with
  | refl position =>
      cases started.trans ended.symm
      exact ⟨lines, .refl _, corresponds⟩
  | @line _ _ between _ taken later induction =>
      cases started
      cases between with
      | running reached among =>
          obtain ⟨inside, after, takenToo, correspondsToo⟩ := stands.step_of_alone corresponds taken
          obtain ⟨last, crosses, correspondsLast⟩ := induction correspondsToo rfl ended
          exact ⟨last, .line inside takenToo crosses, correspondsLast⟩
      | returned _ _ => subst ended; cases later
      | exited _ => subst ended; cases later

/-- The end of the block corresponds to nothing but what comes behind it, and a handler to
itself. -/
theorem eq_of_corresponds (stands : Stands file block rest) {alone lines : List Line}
    (corresponds : Corresponds file block rest alone lines) :
    (alone = barriers → lines = rest) ∧
      ∀ failure, codeAt? (handlerOf failure) (block ++ barriers) = some alone →
        codeAt? (handlerOf failure) file = some lines := by
  have onlyThere : ∀ failure, codeAt? (handlerOf failure) (block ++ barriers) =
      codeAt? (handlerOf failure) barriers := fun failure =>
    codeAt?_append _ (stands.codeAt?_handler failure).choose_spec.2.2
  cases corresponds with
  | part inBlock =>
      refine ⟨fun same => ?_, fun failure found => ?_⟩
      · rw [List.append_left_eq_self.mp same, List.nil_append]
      · have shorter := (codeAt?_barriers ((onlyThere failure).symm.trans found)).2.1
        rw [List.length_append] at shorter
        omega
  | handler foundAlone found =>
      refine ⟨fun same => ?_, fun failure foundToo => ?_⟩
      · rw [same] at foundAlone
        exact absurd (codeAt?_barriers foundAlone).2.1 (Nat.lt_irrefl _)
      · rw [eq_of_codeAt? ((onlyThere failure).symm.trans foundToo) foundAlone]
        exact found

/-- A block leaves for what comes behind it, or for a handler, as it does alone. -/
theorem exists_leaves (stands : Stands file block rest) {state : State unit} {α : Type}
    {outcome : Except Failure α} {holds : α → State unit → Prop}
    (leads : Leads platform (block ++ barriers) (.running state (block ++ barriers)) outcome
      fun value position => ∃ next, position = .running next barriers ∧ holds value next) :
    ∃ next lines, Leaves platform file block rest state next lines ∧
      (∀ failure, codeAt? (handlerOf failure) file = some lines ↔ outcome = .error failure) ∧
      ∀ value, outcome = .ok value → lines = rest ∧ holds value next := by
  have start : Corresponds file block rest (block ++ barriers) (block ++ rest) :=
    .part List.suffix_rfl
  have shorter : ∀ failure lines, codeAt? (handlerOf failure) file = some lines →
      lines.length < rest.length := by
    intro failure lines found
    obtain ⟨code, foundCode, less, _⟩ := stands.codeAt?_handler failure
    cases found.symm.trans foundCode
    exact less
  cases leads with
  | done reaches met =>
      obtain ⟨next, rfl, met⟩ := met
      obtain ⟨lines, crosses, corresponds⟩ := stands.crosses_of_alone start reaches
      have behind := (stands.eq_of_corresponds corresponds).1 rfl
      rw [behind] at crosses
      refine ⟨next, rest, ⟨crosses, fun inside => Nat.lt_irrefl _ inside.1⟩, fun failure => ?_, ?_⟩
      · exact ⟨fun found => absurd (shorter failure rest found) (Nat.lt_irrefl _), nofun⟩
      · rintro value ⟨⟩
        exact ⟨rfl, met⟩
  | @failed failure _ next _ found _ reaches =>
      obtain ⟨lines, crosses, corresponds⟩ := stands.crosses_of_alone start reaches
      have handler := (stands.eq_of_corresponds corresponds).2 failure found
      refine ⟨next, lines, ⟨crosses, fun inside => ?_⟩, fun other => ⟨fun foundOther => ?_, ?_⟩,
        nofun⟩
      · exact absurd inside.1 (Nat.not_lt.mpr (Nat.le_of_lt (shorter failure lines handler)))
      · rw [handlerOf_injective (eq_of_codeAt? handler foundOther)]
      · rintro ⟨⟩
        exact handler

end Stands

end Rpn.Machine
