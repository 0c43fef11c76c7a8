import Mathlib.Data.List.Induction
import Rpn.Proofs.Options.Groups

/-! What arguments ask for, said of their groups as a whole: which flags occur, which name is the
last one, and which positional argument is the expression.  Of several faults the leftmost one
counts. -/

namespace Rpn.Options

def Group.name? : Group → Option Bytes
  | name value => some value
  | _ => none

def Group.positional? : Group → Option Bytes
  | positional argument => some argument
  | _ => none

def names (groups : List Group) : List Bytes :=
  groups.filterMap Group.name?

def positionals (groups : List Group) : List Bytes :=
  groups.filterMap Group.positional?

/-- What groups ask for, one by one.  The last name and the last positional argument count. -/
def settings (groups : List Group) : Options where
  showTokens := decide (.flag .showTokens ∈ groups)
  showInstructions := decide (.flag .showInstructions ∈ groups)
  debug := decide (.flag .debug ∈ groups)
  assemble := decide (.flag .assemble ∈ groups)
  run := decide (.flag .run ∈ groups)
  keepAssembly := decide (.flag .keepAssembly ∈ groups)
  expression := (positionals groups).getLastD []
  outputName := (names groups).getLastD (ascii "a.out")

/-- The expression is the only positional argument that is not empty, and the last one. -/
def Expresses (groups : List Group) (text : Bytes) : Prop :=
  text ≠ [] ∧ ∃ blanks, positionals groups = blanks ++ [text] ∧ ∀ blank ∈ blanks, blank = []

/-- What is wrong with a group after others: the code and the words for it. -/
def fault? (before : List Group) : Group → Option (ExitCode × Bytes)
  | .nameless => some (.usage, ascii "Error: --filename needs a value\n")
  | .unknown argument =>
      some (.unknownOption, ascii "Error: unknown option " ++ argument ++ ascii "\n")
  | .positional argument =>
      if ∀ text ∈ positionals before, text = [] then none
      else some (.usage,
        ascii "Error: expected a single expression, got a second one: " ++ argument ++ ascii "\n")
  | .flag _ | .name _ => none

def Faultless (groups : List Group) : Prop :=
  ∀ before group after, groups = before ++ group :: after → fault? before group = none

@[simp] theorem names_concat (groups : List Group) (group : Group) :
    names (groups ++ [group]) = names groups ++ group.name?.toList := by
  cases group <;> simp [names, Group.name?]

@[simp] theorem positionals_concat (groups : List Group) (group : Group) :
    positionals (groups ++ [group]) = positionals groups ++ group.positional?.toList := by
  cases group <;> simp [positionals, Group.positional?]

/-! Settings. -/

theorem foldl_store (groups : List Group) : groups.foldl store {} = settings groups := by
  induction groups using List.reverseRecOn with
  | nil => rfl
  | append_singleton groups group induction =>
      rw [List.foldl_append, List.foldl_cons, List.foldl_nil, induction]
      cases group with
      | flag kind => cases kind <;> simp [store, raise, settings, Group.name?, Group.positional?]
      | _ => simp [store, settings, Group.name?, Group.positional?]

theorem settings_eq_of_perm {groups other : List Group} (perm : other.Perm groups)
    (sameNames : names other = names groups) (sameTexts : positionals other = positionals groups) :
    settings other = settings groups := by
  simp only [settings, perm.mem_iff, sameNames, sameTexts]

/-! Faults. -/

theorem faultless_concat {groups : List Group} {group : Group} :
    Faultless (groups ++ [group]) ↔ Faultless groups ∧ fault? groups group = none := by
  constructor
  · intro faultless
    refine ⟨?_, faultless groups group [] rfl⟩
    rintro before other after rfl
    exact faultless before other (after ++ [group]) (by simp)
  · rintro ⟨faultless, sound⟩ before other after equal
    rcases after.eq_nil_or_concat with rfl | ⟨front, last, rfl⟩
    · obtain ⟨rfl, single⟩ := List.append_inj' equal rfl
      rw [← List.head_eq_of_cons_eq single]
      exact sound
    · refine faultless before other front ?_
      rw [List.concat_eq_append, ← List.cons_append, ← List.append_assoc] at equal
      exact (List.append_inj' equal rfl).1

/-- Only the last positional argument may be more than empty. -/
theorem faultless_iff {groups : List Group} :
    Faultless groups ↔
      .nameless ∉ groups ∧ (∀ argument, .unknown argument ∉ groups) ∧
        (positionals groups).Pairwise fun earlier _ => earlier = [] := by
  induction groups using List.reverseRecOn with
  | nil => simp [Faultless, positionals]
  | append_singleton groups group induction =>
      rw [faultless_concat, induction]
      cases group with
      | unknown argument =>
          simp only [fault?, reduceCtorEq, and_false, false_iff, not_and]
          intro _ known
          exact absurd (by simp) (known argument)
      | _ => simp [fault?, Group.positional?, List.pairwise_append, and_assoc]

theorem pairwise_concat_iff {texts : List Bytes} {last : Bytes} :
    ((texts ++ [last]).Pairwise fun earlier _ => earlier = []) ↔ ∀ text ∈ texts, text = [] := by
  induction texts with
  | nil => simp
  | cons text texts induction =>
      have others : (∀ later ∈ texts ++ [last], text = []) ↔ text = [] :=
        ⟨fun all => all last (by simp), fun empty _ _ => empty⟩
      rw [List.cons_append, List.pairwise_cons, induction, others, List.forall_mem_cons]

theorem forall_eq_nil_iff {texts : List Bytes}
    (blank : texts.Pairwise fun earlier _ => earlier = []) :
    (∀ text ∈ texts, text = []) ↔ texts.getLastD [] = [] := by
  rcases texts.eq_nil_or_concat with rfl | ⟨blanks, last, rfl⟩
  · simp
  · rw [List.concat_eq_append] at blank ⊢
    have blanksEmpty := pairwise_concat_iff.mp blank
    simp only [List.forall_mem_append, List.forall_mem_singleton, List.getLastD_concat]
    exact and_iff_right blanksEmpty

theorem exists_expresses_iff {groups : List Group} :
    (∃ text, Expresses groups text) ↔
      ((positionals groups).Pairwise fun earlier _ => earlier = []) ∧
        (settings groups).expression ≠ [] := by
  constructor
  · rintro ⟨text, present, blanks, equal, empty⟩
    rw [settings, equal, List.getLastD_concat]
    exact ⟨pairwise_concat_iff.mpr empty, present⟩
  · rintro ⟨blank, present⟩
    rcases (positionals groups).eq_nil_or_concat with equal | ⟨blanks, last, equal⟩
    · simp [settings, equal] at present
    · rw [List.concat_eq_append] at equal
      rw [equal] at blank
      simp only [settings, equal, List.getLastD_concat] at present
      exact ⟨last, present, blanks, equal, pairwise_concat_iff.mp blank⟩

theorem Expresses.expression_eq {groups : List Group} {text : Bytes}
    (expresses : Expresses groups text) : (settings groups).expression = text := by
  obtain ⟨_, blanks, equal, _⟩ := expresses
  rw [settings, equal, List.getLastD_concat]

theorem fault?_eq {groups : List Group} (faultless : Faultless groups) (group : Group) :
    fault? groups group = ((settings groups).refusal? group).map fun error =>
      (error.exitCode, error.message) := by
  cases group with
  | nameless =>
      have words : ascii "Error: --filename needs a value\n" =
          (ascii "Error: --filename needs a value").line := by decide +kernel
      rw [fault?, words]
      rfl
  | positional argument =>
      have empty := forall_eq_nil_iff (faultless_iff.mp faultless).2.2
      by_cases blank : (settings groups).expression = []
      · rw [fault?, if_pos (empty.mpr blank), refusal?, if_pos blank]
        rfl
      · rw [fault?, if_neg (empty.not.mpr blank), refusal?, if_neg blank]
        rfl
  | _ => rfl

theorem accepts_iff_faultless {groups : List Group} :
    ({} : Options).Accepts groups ↔ Faultless groups := by
  induction groups using List.reverseRecOn with
  | nil => simp [Accepts, Faultless]
  | append_singleton groups group induction =>
      rw [accepts_append, faultless_concat, induction]
      refine and_congr_right fun faultless => ?_
      simp [foldl_store, Accepts, fault?_eq faultless]

/-- Of the groups that are wrong one is the leftmost. -/
theorem faultless_or_fault (groups : List Group) :
    Faultless groups ∨
      ∃ before group after code text, groups = before ++ group :: after ∧ Faultless before ∧
        fault? before group = some (code, text) := by
  rcases accepts_or_refused {} groups with
    accepts | ⟨before, group, after, error, equal, accepts, refused⟩
  · exact .inl (accepts_iff_faultless.mp accepts)
  · have faultless := accepts_iff_faultless.mp accepts
    have fault := fault?_eq faultless group
    rw [← foldl_store, refused] at fault
    exact .inr ⟨before, group, after, _, _, equal, faultless, fault⟩

theorem call_of_faultless {arguments : List Bytes} {groups : List Group}
    (reads : Reads arguments groups) (faultless : Faultless groups) :
    ({} : Options).call arguments = reply (settings groups).conclude := by
  rw [call, parse_of_reads reads, follow_of_accepts (accepts_iff_faultless.mpr faultless),
    foldl_store]

/-- The leftmost fault counts, and what the groups before it asked for is stored. -/
theorem call_of_fault {arguments : List Bytes} {before after : List Group} {group : Group}
    (reads : Reads arguments (before ++ group :: after)) (faultless : Faultless before)
    {code : ExitCode} {text : Bytes} (fault : fault? before group = some (code, text)) :
    ({} : Options).call arguments = ⟨code, text, settings before⟩ := by
  have accepts := accepts_iff_faultless.mpr faultless
  rw [fault?_eq faultless, Option.map_eq_some_iff] at fault
  obtain ⟨error, refused, described⟩ := fault
  rw [← foldl_store] at refused
  rw [call, parse_of_reads reads, follow_of_refusal accepts refused, foldl_store]
  obtain ⟨rfl, rfl⟩ := Prod.mk.inj described
  rfl

/-- Arguments are accepted if nothing is wrong with a group and there is an expression. -/
theorem code_call_eq_ok_iff {arguments : List Bytes} {groups : List Group}
    (reads : Reads arguments groups) :
    (({} : Options).call arguments).code = .ok ↔
      Faultless groups ∧ (settings groups).expression ≠ [] := by
  constructor
  · intro ended
    have accepts := (code_call_iff_accepts reads).mp (.inl ended)
    have faultless := accepts_iff_faultless.mp accepts
    rw [call_of_faultless reads faultless, code_reply_eq_ok_iff] at ended
    exact ⟨faultless, conclude_eq_none_iff.mp ended⟩
  · rintro ⟨faultless, present⟩
    rw [call_of_faultless reads faultless, code_reply_eq_ok_iff]
    exact conclude_eq_none_iff.mpr present

theorem call_of_expresses {arguments : List Bytes} {groups : List Group}
    (reads : Reads arguments groups) (faultless : Faultless groups) {text : Bytes}
    (expresses : Expresses groups text) :
    ({} : Options).call arguments =
      ⟨.ok, [], { settings groups with
        expression := text
        assemble := decide (.flag .assemble ∈ groups ∨ .flag .run ∈ groups) }⟩ := by
  have expression := expresses.expression_eq
  have present : (settings groups).expression ≠ [] := expression ▸ expresses.1
  rw [call_of_faultless reads faultless, conclude, if_neg present, ← expression, Bool.decide_or]
  rfl

/-- Groups in another order, but names in the same one, are accepted as before. -/
theorem call_of_perm {groups other : List Group} {text : Bytes} {arguments later : List Bytes}
    (reads : Reads arguments groups) (readsToo : Reads later other) (faultless : Faultless groups)
    (expresses : Expresses groups text) (single : [] ∉ positionals groups)
    (perm : other.Perm groups) (sameNames : names other = names groups) :
    ({} : Options).call later = ({} : Options).call arguments := by
  obtain ⟨present, blanks, equal, empty⟩ := expresses
  have alone : blanks = [] := by
    rw [List.eq_nil_iff_forall_not_mem]
    intro blank member
    exact single (empty blank member ▸ equal ▸ List.mem_append_left _ member)
  rw [alone, List.nil_append] at equal
  have sameTexts : positionals other = positionals groups := by
    rw [equal, ← List.perm_singleton, ← equal]
    exact perm.filterMap _
  have sameSettings := settings_eq_of_perm perm sameNames sameTexts
  have faultlessToo : Faultless other := by
    rw [faultless_iff] at faultless ⊢
    simpa only [perm.mem_iff, sameTexts] using faultless
  rw [call_of_faultless reads faultless, call_of_faultless readsToo faultlessToo, sameSettings]

/-- Arguments are read as groups in exactly one way, and the groups decide about a call on new
options.  It is accepted if no group is wrong and there is an expression; then the order of groups
does not matter, names apart.  Otherwise the leftmost fault is told. -/
theorem groups_decide_call (arguments : List Bytes) :
    ∃ groups, Reads arguments groups ∧ (∀ other, Reads arguments other → other = groups) ∧
      ((({} : Options).call arguments).code = .ok ↔
        .nameless ∉ groups ∧ (∀ argument, .unknown argument ∉ groups) ∧
          ∃ text, Expresses groups text) ∧
      (∀ text, (({} : Options).call arguments).code = .ok → Expresses groups text →
        ({} : Options).call arguments =
          ⟨.ok, [], { settings groups with
            expression := text
            assemble := decide (.flag .assemble ∈ groups ∨ .flag .run ∈ groups) }⟩) ∧
      ((({} : Options).call arguments).code = .ok → [] ∉ positionals groups →
        ∀ other, other.Perm groups → names other = names groups →
          Reads (other.flatMap Group.arguments) other ∧
            ({} : Options).call (other.flatMap Group.arguments) =
              ({} : Options).call arguments) ∧
      ((({} : Options).call arguments).code ≠ .ok →
        (∃ before group after code text, groups = before ++ group :: after ∧ Faultless before ∧
          fault? before group = some (code, text) ∧
          ({} : Options).call arguments = ⟨code, text, settings before⟩) ∨
        Faultless groups ∧ (∀ text ∈ positionals groups, text = []) ∧
          ({} : Options).call arguments = ⟨.noExpression, [], settings groups⟩) := by
  obtain ⟨groups, reads⟩ := Reads.existence arguments
  have accepted := code_call_eq_ok_iff reads
  refine ⟨groups, reads, fun _ => reads.unique, ?_, ?_, ?_, ?_⟩
  · rw [accepted, faultless_iff, exists_expresses_iff, and_assoc, and_assoc]
  · intro text ended expresses
    exact call_of_expresses reads (accepted.mp ended).1 expresses
  · intro ended single other perm sameNames
    obtain ⟨faultless, present⟩ := accepted.mp ended
    obtain ⟨complete, _, blank⟩ := faultless_iff.mp faultless
    obtain ⟨text, expresses⟩ := exists_expresses_iff.mpr ⟨blank, present⟩
    have readsOther := Reads.of_whole fun group member =>
      reads.whole_of_mem complete group (perm.mem_iff.mp member)
    exact ⟨readsOther, call_of_perm reads readsOther faultless expresses single perm sameNames⟩
  · intro failed
    rcases faultless_or_fault groups with
      faultless | ⟨before, group, after, code, text, equal, faultless, fault⟩
    · have empty : (settings groups).expression = [] := by
        by_contra present
        exact failed (accepted.mpr ⟨faultless, present⟩)
      refine .inr ⟨faultless, (forall_eq_nil_iff (faultless_iff.mp faultless).2.2).mpr empty, ?_⟩
      rw [call_of_faultless reads faultless, conclude, if_pos empty]
      rfl
    · refine .inl ⟨before, group, after, code, text, equal, faultless, fault, ?_⟩
      exact call_of_fault (equal ▸ reads) faultless fault

/-- A flag that is the value of the name, and the expression in front of all options. -/
theorem groups_decide_call_reordered :
    ({} : Options).call [ascii "--filename", ascii "--run", ascii "--compile", ascii "3"] =
      ⟨.ok, [], { assemble := true, expression := ascii "3", outputName := ascii "--run" }⟩ ∧
    ({} : Options).call [ascii "3", ascii "--compile", ascii "--filename", ascii "--run"] =
      ({} : Options).call [ascii "--filename", ascii "--run", ascii "--compile", ascii "3"] := by
  obtain ⟨groups, _, unique, _, _, reorder, _⟩ := groups_decide_call
    [ascii "--filename", ascii "--run", ascii "--compile", ascii "3"]
  have whole : ∀ group ∈ [Group.name (ascii "--run"), .flag .assemble, .positional (ascii "3")],
      group.Whole := by
    simp only [List.forall_mem_cons, Group.Whole, true_and]
    exact ⟨by decide +kernel, by simp⟩
  have reads : Reads [ascii "--filename", ascii "--run", ascii "--compile", ascii "3"]
      [.name (ascii "--run"), .flag .assemble, .positional (ascii "3")] :=
    Reads.of_whole whole
  have found := unique _ reads
  subst found
  have ended : ({} : Options).call
      [ascii "--filename", ascii "--run", ascii "--compile", ascii "3"] =
        ⟨.ok, [], { assemble := true, expression := ascii "3", outputName := ascii "--run" }⟩ := by
    decide +kernel
  exact ⟨ended, (reorder (by rw [ended]) (by decide +kernel)
    [.positional (ascii "3"), .flag .assemble, .name (ascii "--run")]
    (by decide +kernel) (by decide +kernel)).2⟩

end Rpn.Options
