import Rpn.Proofs.Codegen.Faults

/-! Calls on a session.  Whatever calls were made, a compilation depends on the last setting of the
debug break only, and what is remembered on a success before it only. -/

namespace Rpn

namespace Codegen

open Assembly

/-- Two texts of a program that differ in the debug break only.  It stands once, between the entry
of the program and the block of the first operation. -/
def DifferInBreak (text : Bool → Bytes) (first : Operation) : Prop :=
  ∃ front back, ∀ debug, text debug =
    front ++ (ascii "main:\n\tpush rbp\n\tmov qword ptr [rip + depth], 0\n" ++
      ((if debug then ascii "\n\t# Debug-break\n\tint3\n" else []) ++
        (render (block 0 first) ++ back)))

theorem differInBreak_lines (pool : ConstantPool) (first : Operation) (others : List Operation) :
    DifferInBreak (fun debug => render (lines debug pool (first :: others))) first := by
  refine ⟨render (preamble ++ cells ++ constants pool ++ messages ++ [.directive .code]),
    render (blocksFrom 1 others ++ footer), fun debug => ?_⟩
  have entered : render [.label entry, .instr (.push .rbp), .instr (.storeValue Cell.depth 0)] =
      ascii "main:\n\tpush rbp\n\tmov qword ptr [rip + depth], 0\n" := by
    decide +kernel
  have broken : render (debugBreak debug) =
      if debug then ascii "\n\t# Debug-break\n\tint3\n" else [] := by
    revert debug
    decide +kernel
  rw [← entered, ← broken]
  simp [lines, header, start, blocksFrom, render]

end Codegen

namespace Session

/-- A new session. -/
def ofExpression (expression : Bytes) : Session :=
  { expression }

/-! Transcripts. -/

inductive Call where
  | setDebug (debug : Bool)
  | compile
  | tokens
  | instructions

inductive Answer where
  | none
  | compiled (result : Except CompileError Bytes)
  | tokens (tokens : List Token)
  | instructions (instructions : List Instruction)

def answer (session : Session) : Call → Answer × Session
  | .setDebug debug => (.none, session.setDebug debug)
  | .compile => (.compiled session.compile.1, session.compile.2)
  | .tokens => (.tokens session.tokens, session)
  | .instructions => (.instructions session.instructions, session)

/-- Calls made one after the other, each with its answer. -/
def transcript (session : Session) : List Call → List (Call × Answer)
  | [] => []
  | call :: rest => (call, (session.answer call).1) :: (session.answer call).2.transcript rest

/-- The debug break as it was set last; it is off at first. -/
def lastDebug (history : List (Call × Answer)) : Bool :=
  (history.filterMap fun
    | (.setDebug debug, _) => some debug
    | _ => none).getLast?.getD false

/-- Some compilation was successful. -/
def Succeeded (history : List (Call × Answer)) : Prop :=
  ∃ text, (.compile, .compiled (.ok text)) ∈ history

theorem lastDebug_concat (history : List (Call × Answer)) (entry : Call × Answer) :
    lastDebug (history ++ [entry]) =
      match entry.1 with
      | .setDebug debug => debug
      | _ => lastDebug history := by
  obtain ⟨call, given⟩ := entry
  cases call <;> simp [lastDebug, List.filterMap_append]

theorem succeeded_concat (history : List (Call × Answer)) (entry : Call × Answer) :
    Succeeded (history ++ [entry]) ↔
      Succeeded history ∨ ∃ text, entry = (.compile, .compiled (.ok text)) := by
  simp only [Succeeded, List.mem_append, List.mem_singleton, exists_or, eq_comm]

/-- What a session is after some calls on a new session of an expression. -/
structure Follows (expression : Bytes) (history : List (Call × Answer)) (session : Session) :
    Prop where
  expression_eq : session.expression = expression
  debug_eq : session.debug = lastDebug history
  empty : ¬ Succeeded history → session.tokens = [] ∧ session.instructions = []
  remembered : Succeeded history →
    Expression.read expression = .ok session.tokens ∧
      Program.ofTokens session.tokens = .ok session.program

theorem follows_nil (expression : Bytes) : Follows expression [] (ofExpression expression) where
  expression_eq := rfl
  debug_eq := rfl
  empty _ := ⟨rfl, rfl⟩
  remembered := by
    rintro ⟨_, member⟩
    cases member

theorem fst_compile (session : Session) :
    session.compile.1 =
      (Rpn.compile session.debug session.expression).map Compilation.assembly := by
  unfold compile
  cases Rpn.compile session.debug session.expression <;> rfl

/-- A call without a success leaves what is remembered. -/
theorem Follows.keep {expression : Bytes} {history : List (Call × Answer)}
    {session next : Session} {entry : Call × Answer}
    (follows : Follows expression history session)
    (failed : ∀ text, entry ≠ (.compile, .compiled (.ok text)))
    (same : next = { session with debug := lastDebug (history ++ [entry]) }) :
    Follows expression (history ++ [entry]) next := by
  have success : Succeeded (history ++ [entry]) ↔ Succeeded history := by
    rw [succeeded_concat, or_iff_left (not_exists.mpr failed)]
  subst same
  exact
    { expression_eq := follows.expression_eq
      debug_eq := rfl
      empty := fun without => follows.empty fun before => without (success.mpr before)
      remembered := fun after => follows.remembered (success.mp after) }

/-- What one more call does to a session. -/
theorem Follows.answer {expression : Bytes} {history : List (Call × Answer)} {session : Session}
    (follows : Follows expression history session) (call : Call) :
    Follows expression (history ++ [(call, (session.answer call).1)])
      (session.answer call).2 := by
  cases call with
  | setDebug debug =>
      refine follows.keep (by simp) ?_
      rw [lastDebug_concat]
      rfl
  | tokens | instructions =>
      refine follows.keep (by simp) ?_
      rw [lastDebug_concat, ← follows.debug_eq]
      rfl
  | compile =>
      simp only [Session.answer, Session.compile]
      cases compiled : Rpn.compile session.debug session.expression with
      | error error =>
          refine follows.keep (by simp) ?_
          rw [lastDebug_concat, ← follows.debug_eq]
      | ok compilation =>
          obtain ⟨read, built, _⟩ := Compilation.parts_of_compile compiled
          have success : Succeeded
              (history ++ [(.compile, .compiled (.ok compilation.assembly))]) :=
            (succeeded_concat _ _).mpr (.inr ⟨_, rfl⟩)
          exact
            { expression_eq := follows.expression_eq
              debug_eq := by rw [lastDebug_concat, ← follows.debug_eq]
              empty := fun without => absurd success without
              remembered := fun _ => ⟨follows.expression_eq ▸ read, built⟩ }

/-- Every answer in a transcript is given by a session that follows the calls before it. -/
theorem Follows.exists_answer {expression : Bytes} {history : List (Call × Answer)}
    {session : Session} (follows : Follows expression history session) {calls : List Call}
    {before after : List (Call × Answer)} {call : Call} {given : Answer}
    (split : session.transcript calls = before ++ (call, given) :: after) :
    ∃ later, Follows expression (history ++ before) later ∧ given = (later.answer call).1 := by
  -- The history grows by the first call, so it is generalised with the session that follows it.
  induction calls generalizing history session before with
  | nil => simp [transcript] at split
  | cons first calls induction =>
      cases before with
      | nil =>
          obtain ⟨entry, _⟩ := List.cons.inj split
          cases entry
          exact ⟨session, by simpa using follows, rfl⟩
      | cons entry before =>
          obtain ⟨rfl, rest⟩ := List.cons.inj split
          obtain ⟨later, followsLater, equal⟩ := induction (follows.answer first) rest
          exact ⟨later, by simpa using followsLater, equal⟩

theorem Follows.fst_compile_eq {expression : Bytes} {history : List (Call × Answer)}
    {session : Session} (follows : Follows expression history session) :
    session.compile.1 =
      ((ofExpression expression).setDebug (lastDebug history)).compile.1 := by
  rw [fst_compile, fst_compile, follows.debug_eq, follows.expression_eq]
  rfl

theorem fst_compile_eq_error {expression : Bytes} {error : CompileError}
    (refused : Expression.read expression = .error error) (debug : Bool) :
    ((ofExpression expression).setDebug debug).compile.1 = .error error := by
  rw [fst_compile]
  exact congrArg (Except.map _) (compile_eq_error_iff.mpr refused)

/-- The two texts of an expression differ in the debug break only. -/
theorem exists_fst_compile {expression : Bytes} {tokens : List Token} {program : Program}
    (read : Expression.read expression = .ok tokens)
    (built : Program.ofTokens tokens = .ok program) :
    ∃ text first others,
      (∀ debug, ((ofExpression expression).setDebug debug).compile.1 = .ok (text debug)) ∧
      Operation.ofInstructions program.instructions = .ok (first :: others) ∧
      Codegen.DifferInBreak text first := by
  obtain ⟨instructions, operations, made, checked⟩ := exists_parts_of_read read
  have compiled := compile_of_parts read made checked
  obtain ⟨first, others, rfl⟩ :=
    List.exists_cons_of_ne_nil (Compilation.operations_ne_nil (compiled false) checked)
  have same : program = .ofInstructions instructions :=
    Except.ok.inj (built.symm.trans (congrArg (Except.map _) made))
  refine ⟨_, first, others, fun debug => ?_, same ▸ checked,
    Codegen.differInBreak_lines (Program.ofInstructions instructions).constants first others⟩
  rw [fst_compile]
  exact congrArg (Except.map _) (compiled debug)

/-- The answers to any calls on a session.  A compilation is that of a new session with the last
setting of the debug break, and all compilations end alike.  Tokens and instructions are those of
the expression as soon as one was successful. -/
theorem session_answers_follow_history (expression : Bytes) (calls : List Call) :
    (∀ before given after,
      (ofExpression expression).transcript calls = before ++ (.compile, given) :: after →
      given = .compiled ((ofExpression expression).setDebug (lastDebug before)).compile.1) ∧
    ((∀ given, (.compile, given) ∈ (ofExpression expression).transcript calls →
        ∃ text, given = .compiled (.ok text)) ∨
      ∃ error, ∀ given, (.compile, given) ∈ (ofExpression expression).transcript calls →
        given = .compiled (.error error)) ∧
    (∀ before given after,
      (ofExpression expression).transcript calls = before ++ (.tokens, given) :: after →
      (¬ Succeeded before → given = .tokens []) ∧
      (Succeeded before → ∃ tokens, Expression.read expression = .ok tokens ∧
        given = .tokens tokens)) ∧
    (∀ before given after,
      (ofExpression expression).transcript calls = before ++ (.instructions, given) :: after →
      (¬ Succeeded before → given = .instructions []) ∧
      (Succeeded before → ∃ tokens program, Expression.read expression = .ok tokens ∧
        Program.ofTokens tokens = .ok program ∧ given = .instructions program.instructions)) ∧
    ∀ tokens program, Expression.read expression = .ok tokens →
      Program.ofTokens tokens = .ok program →
      ∃ text first others,
        (∀ debug, ((ofExpression expression).setDebug debug).compile.1 = .ok (text debug)) ∧
        Operation.ofInstructions program.instructions = .ok (first :: others) ∧
        Codegen.DifferInBreak text first := by
  have start := follows_nil expression
  have compiled : ∀ before given after,
      (ofExpression expression).transcript calls = before ++ (.compile, given) :: after →
      given = .compiled ((ofExpression expression).setDebug (lastDebug before)).compile.1 := by
    intro before given after split
    obtain ⟨session, follows, rfl⟩ := start.exists_answer split
    exact congrArg Answer.compiled follows.fst_compile_eq
  refine ⟨compiled, ?_, ?_, ?_, fun tokens program => exists_fst_compile⟩
  · cases read : Expression.read expression with
    | error error =>
        refine .inr ⟨error, fun given member => ?_⟩
        obtain ⟨before, after, split⟩ := List.append_of_mem member
        rw [compiled before given after split, fst_compile_eq_error read]
    | ok tokens =>
        refine .inl fun given member => ?_
        obtain ⟨before, after, split⟩ := List.append_of_mem member
        obtain ⟨instructions, operations, made, checked⟩ := exists_parts_of_read read
        obtain ⟨text, _, _, texts, _⟩ := exists_fst_compile read (congrArg (Except.map _) made)
        exact ⟨_, (compiled before given after split).trans (congrArg Answer.compiled (texts _))⟩
  · intro before given after split
    obtain ⟨session, follows, rfl⟩ := start.exists_answer split
    refine ⟨fun without => congrArg Answer.tokens (follows.empty without).1, fun success => ?_⟩
    exact ⟨_, (follows.remembered success).1, rfl⟩
  · intro before given after split
    obtain ⟨session, follows, rfl⟩ := start.exists_answer split
    refine ⟨fun without => congrArg Answer.instructions (follows.empty without).2,
      fun success => ?_⟩
    obtain ⟨read, built⟩ := follows.remembered success
    exact ⟨_, _, read, built, rfl⟩

theorem session_answers_follow_history_remembered :
    (ofExpression (ascii "2 dup *")).transcript [.tokens, .compile, .setDebug true, .tokens] =
      [(.tokens, .tokens []),
        (.compile, .compiled (ofExpression (ascii "2 dup *")).compile.1), (.setDebug true, .none),
        (.tokens, .tokens [⟨.number, ascii "2", 1⟩, ⟨.dup, ascii "dup", 3⟩,
          ⟨.times, ascii "*", 7⟩])] := by
  have read : Expression.read (ascii "2 dup *") =
      .ok [⟨.number, ascii "2", 1⟩, ⟨.dup, ascii "dup", 3⟩, ⟨.times, ascii "*", 7⟩] := by
    decide +kernel
  obtain ⟨instructions, _, made, _⟩ := exists_parts_of_read read
  obtain ⟨_, _, remembered, _, texts⟩ := session_answers_follow_history (ascii "2 dup *")
    [.tokens, .compile, .setDebug true, .tokens]
  obtain ⟨text, _, _, compiled, _⟩ := texts _ _ read (congrArg (Except.map _) made)
  have success : Succeeded [(.tokens, .tokens []),
      (.compile, .compiled (ofExpression (ascii "2 dup *")).compile.1), (.setDebug true, .none)] :=
    ⟨text false, by rw [← compiled false]; exact List.mem_of_getElem? (i := 1) rfl⟩
  obtain ⟨_, readToo, same⟩ := (remembered [_, _, _] _ [] rfl).2 success
  cases read.symm.trans readToo
  exact congrArg (fun given => [_, _, _, (Call.tokens, given)]) same

end Session

end Rpn
