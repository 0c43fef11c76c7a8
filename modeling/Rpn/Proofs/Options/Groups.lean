import Rpn.Options

/-! Arguments belong together in groups: an option and its value, or an argument that stands alone.
Taking arguments from left to right takes their groups from left to right. -/

namespace Rpn.Options

/-- Arguments that belong together.  `nameless` is the option for the name when nothing follows it,
and `positional` is an argument that is no option. -/
inductive Group where
  | flag (kind : Flag)
  | name (value : Bytes)
  | nameless
  | unknown (argument : Bytes)
  | positional (argument : Bytes)
  deriving DecidableEq, Repr

def Flag.spelling : Flag → Bytes
  | debug => ascii "--debug"
  | showTokens => ascii "--show-tokens"
  | showInstructions => ascii "--show-ir"
  | assemble => ascii "--compile"
  | run => ascii "--run"
  | keepAssembly => ascii "--save-asm"

namespace Group

def arguments : Group → List Bytes
  | flag kind => [kind.spelling]
  | name value => [ascii "--filename", value]
  | nameless => [ascii "--filename"]
  | unknown argument | positional argument => [argument]

/-- A group with all its arguments. -/
def Whole : Group → Prop
  | flag _ | name _ => True
  | nameless => False
  | unknown argument =>
      ascii "--" <+: argument ∧ argument ≠ ascii "--filename" ∧
        ∀ flag : Flag, argument ≠ flag.spelling
  | positional argument => ¬ ascii "--" <+: argument

end Group

/-- Arguments are read as groups.  Only the last one may lack something. -/
inductive Reads : List Bytes → List Group → Prop
  | done : Reads [] []
  | nameless : Reads Group.nameless.arguments [.nameless]
  | group {group : Group} {rest : List Bytes} {groups : List Group} (whole : group.Whole)
      (others : Reads rest groups) : Reads (group.arguments ++ rest) (group :: groups)

namespace Flag

theorem ofArgument?_eq_some_iff {argument : Bytes} {flag : Flag} :
    ofArgument? argument = some flag ↔ argument = flag.spelling := by
  constructor
  · intro found
    have all : ∀ entry ∈ spellings, entry.1 = entry.2.spelling := by decide +kernel
    obtain ⟨before, after, equal, _⟩ := List.lookup_eq_some_iff.mp found
    exact all (argument, flag) (by simp [equal])
  · rintro rfl
    cases flag <;> decide +kernel

theorem ofArgument?_eq_none_iff {argument : Bytes} :
    ofArgument? argument = none ↔ ∀ flag : Flag, argument ≠ flag.spelling := by
  rw [Option.eq_none_iff_forall_ne_some]
  exact forall_congr' fun flag => not_congr ofArgument?_eq_some_iff

theorem spelling_injective {flag other : Flag} (same : flag.spelling = other.spelling) :
    flag = other := by
  have found := ofArgument?_eq_some_iff.mpr same
  rw [ofArgument?_eq_some_iff.mpr rfl] at found
  exact Option.some.inj found

theorem dashes_isPrefix_spelling (flag : Flag) : ascii "--" <+: flag.spelling := by
  cases flag <;> decide +kernel

theorem nameOption_ne_spelling (flag : Flag) : nameOption ≠ flag.spelling := by
  cases flag <;> decide +kernel

end Flag

theorem dashes_isPrefix_nameOption : ascii "--" <+: nameOption := by
  decide +kernel

theorem isOption_iff {argument : Bytes} : isOption argument = true ↔ ascii "--" <+: argument :=
  List.isPrefixOf_iff_prefix

/-! Reading is possible in exactly one way. -/

namespace Group

/-- Every argument but the one that asks for a value is a group of its own. -/
theorem exists_whole {argument : Bytes} (other : argument ≠ nameOption) :
    ∃ group : Group, group.Whole ∧ group.arguments = [argument] := by
  by_cases known : ∃ flag : Flag, argument = flag.spelling
  · obtain ⟨flag, rfl⟩ := known
    exact ⟨.flag flag, trivial, rfl⟩
  · by_cases dashes : ascii "--" <+: argument
    · exact ⟨.unknown argument, ⟨dashes, other, not_exists.mp known⟩, rfl⟩
    · exact ⟨.positional argument, dashes, rfl⟩

/-- The first argument of a group shows which group it is. -/
theorem Whole.unique {group other : Group} (whole : group.Whole) (wholeToo : other.Whole)
    {rest after : List Bytes} (same : group.arguments ++ rest = other.arguments ++ after) :
    group = other ∧ rest = after := by
  cases group <;> cases other <;>
    grind [Group.arguments, Group.Whole, nameOption, dashes_isPrefix_nameOption,
      Flag.dashes_isPrefix_spelling, Flag.nameOption_ne_spelling, Flag.spelling_injective]

theorem Whole.arguments_append_ne {group : Group} (whole : group.Whole) (rest : List Bytes) :
    group.arguments ++ rest ≠ Group.nameless.arguments := by
  cases group <;>
    grind [Group.arguments, Group.Whole, nameOption, dashes_isPrefix_nameOption,
      Flag.nameOption_ne_spelling]

end Group

namespace Reads

theorem existence : ∀ arguments : List Bytes, ∃ groups, Reads arguments groups
  | [] => ⟨[], .done⟩
  | argument :: rest => by
      by_cases named : argument = nameOption
      · subst named
        match rest with
        | [] => exact ⟨_, .nameless⟩
        | value :: rest =>
            obtain ⟨groups, others⟩ := existence rest
            have whole : (Group.name value).Whole := trivial
            exact ⟨_, .group whole others⟩
      · obtain ⟨group, whole, alone⟩ := Group.exists_whole named
        obtain ⟨groups, others⟩ := existence rest
        have reads := Reads.group whole others
        rw [alone] at reads
        exact ⟨_, reads⟩

theorem unique {arguments : List Bytes} {groups other : List Group}
    (reads : Reads arguments groups) (readsToo : Reads arguments other) : other = groups := by
  generalize same : arguments = again at readsToo
  induction reads generalizing other again with
  | done =>
      cases readsToo with
      | done => rfl
      | nameless => cases same
      | @group group => cases group <;> cases same
  | nameless =>
      cases readsToo with
      | done => cases same
      | nameless => rfl
      | group whole _ => exact absurd same.symm (whole.arguments_append_ne _)
  | @group group _ _ whole _ induction =>
      cases readsToo with
      | done => cases group <;> cases same
      | nameless => exact absurd same (whole.arguments_append_ne _)
      | group wholeToo others =>
          obtain ⟨rfl, rfl⟩ := whole.unique wholeToo same
          rw [induction _ rfl others]

theorem whole_of_mem {arguments : List Bytes} {groups : List Group}
    (reads : Reads arguments groups) (complete : .nameless ∉ groups) :
    ∀ group ∈ groups, group.Whole := by
  induction reads with
  | done => simp
  | nameless => exact absurd (List.mem_singleton.mpr rfl) complete
  | group whole _ induction =>
      rw [List.forall_mem_cons]
      exact ⟨whole, induction fun member => complete (List.mem_cons_of_mem _ member)⟩

theorem of_whole {groups : List Group} (whole : ∀ group ∈ groups, group.Whole) :
    Reads (groups.flatMap Group.arguments) groups := by
  induction groups with
  | nil => exact .done
  | cons group groups induction =>
      rw [List.forall_mem_cons] at whole
      exact .group whole.1 (induction whole.2)

theorem append {first second : List Bytes} {groups others : List Group}
    (reads : Reads first groups) (complete : .nameless ∉ groups) (readsToo : Reads second others) :
    Reads (first ++ second) (groups ++ others) := by
  induction reads with
  | done => exact readsToo
  | nameless => exact absurd (List.mem_singleton.mpr rfl) complete
  | group whole _ induction =>
      rw [List.append_assoc]
      exact .group whole (induction fun member => complete (List.mem_cons_of_mem _ member))

/-- Arguments that follow do not change the groups up to one that has its value. -/
theorem exists_append {first : List Bytes} {before after : List Group} {group : Group}
    (reads : Reads first (before ++ group :: after)) (complete : group ≠ .nameless)
    (second : List Bytes) : ∃ later, Reads (first ++ second) (before ++ group :: later) := by
  generalize equal : before ++ group :: after = groups at reads
  induction reads generalizing before with
  | done => simp at equal
  | nameless =>
      cases before with
      | nil => exact absurd (List.cons.inj equal).1 complete
      | cons _ before => simp at equal
  | @group head rest groups whole others induction =>
      rw [List.append_assoc]
      cases before with
      | nil =>
          obtain ⟨rfl, rfl⟩ := List.cons.inj equal
          obtain ⟨later, readsLater⟩ := existence (rest ++ second)
          exact ⟨later, .group whole readsLater⟩
      | cons front before =>
          obtain ⟨rfl, same⟩ := List.cons.inj equal
          obtain ⟨later, readsLater⟩ := induction same
          exact ⟨later, .group whole readsLater⟩

end Reads

/-! Taking groups. -/

/-- The error of a group that is refused. -/
def refusal? (options : Options) : Group → Option OptionError
  | .nameless => some .missingName
  | .unknown argument => some (.unknownOption argument)
  | .positional argument =>
      if options.expression = [] then none else some (.secondExpression argument)
  | .flag _ | .name _ => none

/-- What a group that is not refused changes. -/
def store (options : Options) : Group → Options
  | .flag kind => options.raise kind
  | .name value => { options with outputName := value }
  | .positional argument => { options with expression := argument }
  | .nameless | .unknown _ => options

def follow (options : Options) : List Group → Option OptionError × Options
  | [] => options.conclude
  | group :: rest =>
      match options.refusal? group with
      | some error => (some error, options)
      | none => (options.store group).follow rest

theorem parse_of_reads {arguments : List Bytes} {groups : List Group}
    (reads : Reads arguments groups) (options : Options) :
    options.parse arguments = options.follow groups := by
  have nameNoFlag := Flag.ofArgument?_eq_none_iff.mpr Flag.nameOption_ne_spelling
  induction reads generalizing options with
  | done => rfl
  | nameless =>
      change options.parse [nameOption] = _
      simp [parse, nameNoFlag, follow, refusal?]
  | @group group rest groups whole _ induction =>
      cases group with
      | flag kind =>
          change options.parse (kind.spelling :: rest) = _
          rw [parse.eq_def]
          simp [Flag.ofArgument?_eq_some_iff.mpr rfl, follow, refusal?, store, induction]
      | name value =>
          change options.parse (nameOption :: value :: rest) = _
          simp [parse, nameNoFlag, follow, refusal?, store, induction]
      | nameless => exact whole.elim
      | unknown argument =>
          obtain ⟨dashes, other, noFlag⟩ := whole
          change options.parse (argument :: rest) = _
          rw [parse.eq_def]
          simp [Flag.ofArgument?_eq_none_iff.mpr noFlag, isOption_iff.mpr dashes, nameOption, other,
            follow, refusal?]
      | positional argument =>
          have other : argument ≠ nameOption := fun equal =>
            whole (equal ▸ dashes_isPrefix_nameOption)
          have noFlag : Flag.ofArgument? argument = none :=
            Flag.ofArgument?_eq_none_iff.mpr fun flag equal =>
              whole (equal ▸ flag.dashes_isPrefix_spelling)
          have plain : ¬ isOption argument = true := fun dashes =>
            whole (isOption_iff.mp dashes)
          change options.parse (argument :: rest) = _
          rw [parse.eq_def]
          by_cases empty : options.expression = [] <;>
            simp [noFlag, other, plain, empty, follow, refusal?, store, induction]

/-- No group is refused. -/
def Accepts (options : Options) : List Group → Prop
  | [] => True
  | group :: rest => options.refusal? group = none ∧ (options.store group).Accepts rest

theorem accepts_append {options : Options} {first second : List Group} :
    options.Accepts (first ++ second) ↔
      options.Accepts first ∧ (first.foldl store options).Accepts second := by
  induction first generalizing options with
  | nil => simp [Accepts]
  | cons group first induction => simp [Accepts, induction, and_assoc]

theorem follow_append {options : Options} {first : List Group} (accepts : options.Accepts first)
    (second : List Group) :
    options.follow (first ++ second) = (first.foldl store options).follow second := by
  induction first generalizing options with
  | nil => rfl
  | cons group first induction =>
      simp only [List.cons_append, follow, accepts.1, List.foldl_cons, induction accepts.2]

theorem follow_of_accepts {options : Options} {groups : List Group}
    (accepts : options.Accepts groups) :
    options.follow groups = (groups.foldl store options).conclude := by
  have ended := follow_append accepts []
  rwa [List.append_nil] at ended

theorem follow_of_refusal {options : Options} {before after : List Group} {group : Group}
    {error : OptionError} (accepts : options.Accepts before)
    (refused : (before.foldl store options).refusal? group = some error) :
    options.follow (before ++ group :: after) = (some error, before.foldl store options) := by
  rw [follow_append accepts, follow, refused]

/-- Either all groups are taken, or one is the first that is refused. -/
theorem accepts_or_refused (options : Options) (groups : List Group) :
    options.Accepts groups ∨
      ∃ before group after error, groups = before ++ group :: after ∧ options.Accepts before ∧
        (before.foldl store options).refusal? group = some error := by
  induction groups generalizing options with
  | nil => exact .inl trivial
  | cons group groups induction =>
      cases refused : options.refusal? group with
      | some error => exact .inr ⟨[], group, groups, error, rfl, trivial, refused⟩
      | none =>
          rcases induction (options.store group) with
            accepts | ⟨before, other, after, error, rfl, accepts, refusedLater⟩
          · exact .inl ⟨refused, accepts⟩
          · exact .inr ⟨group :: before, other, after, error, rfl, ⟨refused, accepts⟩,
              refusedLater⟩

theorem nameless_notMem_of_accepts {options : Options} {groups : List Group}
    (accepts : options.Accepts groups) : .nameless ∉ groups := by
  intro member
  obtain ⟨before, after, rfl⟩ := List.append_of_mem member
  have refused := (accepts_append.mp accepts).2.1
  cases refused

theorem refusal?_ne_noExpression (options : Options) (group : Group) :
    options.refusal? group ≠ some .noExpression := by
  cases group with
  | positional argument => by_cases empty : options.expression = [] <;> simp [refusal?, empty]
  | _ => simp [refusal?]

theorem conclude_eq_none_iff {options : Options} :
    options.conclude.1 = none ↔ options.expression ≠ [] := by
  by_cases empty : options.expression = [] <;> simp [conclude, empty]

theorem conclude_eq_none_or (options : Options) :
    options.conclude.1 = none ∨ options.conclude.1 = some .noExpression := by
  by_cases empty : options.expression = [] <;> simp [conclude, empty]

/-- Nothing is refused exactly if at most the expression is missing at the end. -/
theorem accepts_iff {options : Options} {groups : List Group} :
    options.Accepts groups ↔
      (options.follow groups).1 = none ∨ (options.follow groups).1 = some .noExpression := by
  constructor
  · intro accepts
    rw [follow_of_accepts accepts]
    exact conclude_eq_none_or _
  · intro ended
    rcases accepts_or_refused options groups with
      accepts | ⟨before, group, after, error, rfl, accepts, refused⟩
    · exact accepts
    · rw [follow_of_refusal accepts refused] at ended
      rcases ended with ended | ended
      · cases ended
      · exact absurd (refused.trans ended) (refusal?_ne_noExpression _ _)

/-! Calls. -/

/-- What the caller sees: the code, what is written about a refused argument, and the options. -/
structure Reply where
  code : ExitCode
  text : Bytes
  options : Options
  deriving DecidableEq, Repr

def reply (result : Option OptionError × Options) : Reply :=
  ⟨(result.1.map OptionError.exitCode).getD .ok, (result.1.map OptionError.message).getD [],
    result.2⟩

def call (options : Options) (arguments : List Bytes) : Reply :=
  reply (options.parse arguments)

theorem code_reply_eq_ok_iff {result : Option OptionError × Options} :
    (reply result).code = .ok ↔ result.1 = none := by
  obtain ⟨_ | error, options⟩ := result
  · simp [reply]
  · cases error <;> simp [reply, OptionError.exitCode]

theorem code_reply_eq_noExpression_iff {result : Option OptionError × Options} :
    (reply result).code = .noExpression ↔ result.1 = some .noExpression := by
  obtain ⟨_ | error, options⟩ := result
  · simp [reply]
  · cases error <;> simp [reply, OptionError.exitCode]

theorem code_call_iff_accepts {options : Options} {arguments : List Bytes} {groups : List Group}
    (reads : Reads arguments groups) :
    (options.call arguments).code = .ok ∨ (options.call arguments).code = .noExpression ↔
      options.Accepts groups := by
  rw [call, parse_of_reads reads, code_reply_eq_ok_iff, code_reply_eq_noExpression_iff, accepts_iff]

end Rpn.Options
