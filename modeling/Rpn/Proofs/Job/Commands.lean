import Rpn.Job.Compile
import Rpn.Proofs.Shell.Verbatim

/-! The commands that a job gives to the shell.  There are two of them, and whatever the name of the
executable is, the shell takes it as it stands. -/

namespace Rpn

/-- A text without NUL bytes is seen as a whole. -/
theorem Bytes.untilNul_eq_self {text : Bytes} (whole : 0 ∉ text) : text.untilNul = text := by
  refine List.takeWhile_eq_self_iff.mpr fun byte member => ?_
  simpa using fun equal : byte = 0 => whole (equal ▸ member)

namespace Shell

/-- The shell takes a text as some words, and the words as some arguments.  It finds words only,
for any grammar, and expands them without an effect. -/
structure Takes (source : Bytes) (words : List Word) (arguments : List Bytes) : Prop where
  read : ∀ grammar, Lexeme.scan grammar source = .ok (words.map Lexeme.word)
  expanded : ∀ hooks, expandWords hooks words =
    (do
      arguments.forM fun _ => idle
      return arguments)

theorem zero_notMem_quote {argument : Bytes} (whole : 0 ∉ argument) : 0 ∉ quote argument := by
  have bytes : ∀ byte ∈ argument, 0 ∉ quoteByte byte := by
    intro byte member
    unfold quoteByte
    split
    · decide
    · simpa using fun equal : 0 = byte => whole (equal ▸ member)
  have noQuote : (0 : UInt8) ≠ Ascii.singleQuote := by decide
  simpa [quote, noQuote] using bytes

theorem zero_notMem_commandLine {arguments : List Argument}
    (whole : ∀ argument ∈ arguments, 0 ∉ argument.text) : 0 ∉ commandLine arguments := by
  induction arguments with
  | nil => exact List.not_mem_nil
  | cons argument others induction =>
      obtain ⟨rest, line, _, same⟩ := exists_commandLine_cons argument others
      have later := induction fun other member => whole other (List.mem_cons_of_mem _ member)
      have source : 0 ∉ argument.source := by
        unfold Argument.source
        split
        · exact zero_notMem_quote (whole argument (by simp))
        · exact whole argument (by simp)
      have noSpace : (0 : UInt8) ≠ Ascii.space := by decide
      rw [line]
      rcases same with rfl | rfl <;> simp [source, later, noSpace]

theorem takes_commandLine (arguments : List Argument)
    (whole : ∀ argument ∈ arguments, 0 ∉ argument.text) :
    Takes (commandLine arguments).untilNul (arguments.map Argument.word)
      (arguments.map Argument.text) where
  read grammar := by
    rw [Bytes.untilNul_eq_self (zero_notMem_commandLine whole), Lexeme.scan_commandLine,
      List.map_map]
    rfl
  expanded hooks := expandWords_words hooks arguments

end Shell

namespace Job

variable {α β : Type}

/-- All commands that a job gives to the shell are allowed, whatever the answers are to what it
asks. -/
def OnlyIssues (allowed : Bytes → Prop) : Job α → Prop
  | done _ => True
  | print _ _ next | flush next => next.OnlyIssues allowed
  | openFile _ next | writeFile _ _ next | removeFile _ next =>
      ∀ answer, (next answer).OnlyIssues allowed
  | command text next => allowed text ∧ ∀ answer, (next answer).OnlyIssues allowed

variable {allowed : Bytes → Prop}

theorem onlyIssues_bind {job : Job α} {next : α → Job β} (first : job.OnlyIssues allowed)
    (later : ∀ result, (next result).OnlyIssues allowed) : (job.bind next).OnlyIssues allowed := by
  induction job with
  | done result => exact later result
  | print _ _ _ induction | flush _ induction => exact induction first
  | openFile _ _ induction | writeFile _ _ _ induction | removeFile _ _ induction =>
      exact fun answer => induction answer (first answer)
  | command _ _ induction => exact ⟨first.1, fun answer => induction answer (first.2 answer)⟩

theorem onlyIssues_runCommand {command : Bytes} (permitted : allowed command) :
    (runCommand command).OnlyIssues allowed := by
  refine onlyIssues_bind ⟨permitted, fun _ => trivial⟩ fun outcome => ?_
  split <;> trivial

theorem onlyIssues_runExecutable {options : Options}
    (permitted : allowed (Shell.quote (executablePath options))) :
    (runExecutable options).OnlyIssues allowed := by
  refine onlyIssues_bind (onlyIssues_runCommand permitted) fun status => ?_
  split <;> trivial

theorem onlyIssues_conclude {options : Options}
    (running : allowed (Shell.quote (executablePath options))) (status : Option Nat) :
    (conclude options status).OnlyIssues allowed := by
  have announced : (announce options).OnlyIssues allowed := by
    unfold announce
    split <;> trivial
  unfold conclude
  split
  · refine onlyIssues_bind announced fun _ => ?_
    split
    · exact onlyIssues_runExecutable running
    · trivial
  · trivial

theorem onlyIssues_assembleFile {options : Options}
    (assembling : allowed (assembleCommand options))
    (running : allowed (Shell.quote (executablePath options))) :
    (assembleFile options).OnlyIssues allowed := by
  have cleared : (clearAssembly options).OnlyIssues allowed := by
    unfold clearAssembly
    split
    · intro removed
      cases removed <;> trivial
    · trivial
  refine onlyIssues_bind (onlyIssues_runCommand assembling) fun status => ?_
  exact onlyIssues_bind cleared fun _ => onlyIssues_conclude running status

/-- The shell is only asked to assemble and to run. -/
theorem onlyIssues_ofOptions {options : Options}
    (assembling : allowed (assembleCommand options))
    (running : allowed (Shell.quote (executablePath options))) :
    (ofOptions options).OnlyIssues allowed := by
  unfold ofOptions
  split
  · trivial
  · rename_i compilation _
    have shown : (showIntermediates options compilation).OnlyIssues allowed := by
      unfold showIntermediates
      cases options.showTokens <;> cases options.showInstructions <;> trivial
    refine onlyIssues_bind shown fun _ => ?_
    split
    · intro opened
      cases opened
      · trivial
      · intro written
        cases written
        · trivial
        · exact onlyIssues_assembleFile assembling running
    · trivial

/-- The path of the executable is its name or begins in the working directory, and is never looked
for elsewhere. -/
theorem executablePath_spec (options : Options) :
    Ascii.slash ∈ executablePath options ∧
      (executablePath options = options.outputName ∨
        executablePath options = ascii "./" ++ options.outputName) := by
  unfold executablePath
  split
  · exact ⟨by assumption, .inl rfl⟩
  · exact ⟨List.mem_append_left _ (by decide), .inr rfl⟩

/-- The arguments of the command that assembles. -/
def assembleArguments (options : Options) : List Shell.Argument :=
  [⟨false, ascii "gcc", by decide +kernel⟩, ⟨false, ascii "-static", by decide +kernel⟩,
    ⟨false, ascii "-o", by decide +kernel⟩, .inQuotes options.outputName,
    .inQuotes (assemblyName options)]

theorem commandLine_assembleArguments (options : Options) :
    Shell.commandLine (assembleArguments options) = assembleCommand options := by
  have words : ascii "gcc -static -o " = ascii "gcc" ++ Ascii.space :: (ascii "-static" ++
      Ascii.space :: (ascii "-o" ++ [Ascii.space])) := by decide
  have space : ascii " " = [Ascii.space] := by decide
  simp [Shell.commandLine, List.intercalate, assembleArguments, assembleCommand, words, space]

theorem zero_notMem_assembleArguments {options : Options} (named : 0 ∉ options.outputName) :
    ∀ argument ∈ assembleArguments options, 0 ∉ argument.text := by
  have names : 0 ∉ ascii "gcc" ∧ 0 ∉ ascii "-static" ∧ 0 ∉ ascii "-o" ∧ 0 ∉ ascii ".s" := by
    decide
  simp [assembleArguments, assemblyName, names, named]

/-- The shell takes quoted arguments as they stand, and with them the commands of a job: the words
of the assembler, and the path of the executable. -/
theorem shell_takes_commands_verbatim {arguments : List Bytes}
    (whole : ∀ argument ∈ arguments, 0 ∉ argument) {options : Options}
    (named : 0 ∉ options.outputName) :
    Shell.Takes (Bytes.untilNul ([Ascii.space].intercalate (arguments.map Shell.quote)))
      (arguments.map fun argument => [.text true argument]) arguments ∧
    Shell.Takes (assembleCommand options).untilNul
      [[.text false (ascii "gcc")], [.text false (ascii "-static")], [.text false (ascii "-o")],
        [.text true options.outputName], [.text true (options.outputName ++ ascii ".s")]]
      [ascii "gcc", ascii "-static", ascii "-o", options.outputName,
        options.outputName ++ ascii ".s"] ∧
    Shell.Takes (Shell.quote (executablePath options)).untilNul
      [[.text true (executablePath options)]] [executablePath options] ∧
    Ascii.slash ∈ executablePath options ∧
    (executablePath options = options.outputName ∨
      executablePath options = ascii "./" ++ options.outputName) ∧
    (ofOptions options).OnlyIssues fun text =>
      text = assembleCommand options ∨ text = Shell.quote (executablePath options) := by
  obtain ⟨slash, path⟩ := executablePath_spec options
  have wholePath : 0 ∉ executablePath options := by
    rcases path with same | same <;> rw [same]
    · exact named
    · have noByte : 0 ∉ ascii "./" := by decide
      simpa [noByte] using named
  refine ⟨?_, ?_, ?_, slash, path, onlyIssues_ofOptions (.inl rfl) (.inr rfl)⟩
  · have taken := Shell.takes_commandLine (arguments.map .inQuotes)
      (by simpa using whole)
    simpa [Shell.commandLine, Function.comp_def] using taken
  · have taken := Shell.takes_commandLine _ (zero_notMem_assembleArguments named)
    rw [commandLine_assembleArguments] at taken
    exact taken
  · have taken := Shell.takes_commandLine [.inQuotes (executablePath options)]
      (by simpa using wholePath)
    simpa [Shell.commandLine, List.intercalate] using taken

theorem shell_takes_commands_verbatim_hostile :
    Shell.Takes (ascii "'it'\\''s' '' '$(x);#'")
      [[.text true (ascii "it's")], [.text true []], [.text true (ascii "$(x);#")]]
      [ascii "it's", [], ascii "$(x);#"] ∧
    Shell.Takes (ascii "gcc -static -o '`x`&' '`x`&.s'")
      [[.text false (ascii "gcc")], [.text false (ascii "-static")], [.text false (ascii "-o")],
        [.text true (ascii "`x`&")], [.text true (ascii "`x`&.s")]]
      [ascii "gcc", ascii "-static", ascii "-o", ascii "`x`&", ascii "`x`&.s"] ∧
    Shell.Takes (ascii "'./`x`&'") [[.text true (ascii "./`x`&")]] [ascii "./`x`&"] := by
  have whole : ∀ argument ∈ [ascii "it's", [], ascii "$(x);#"], 0 ∉ argument := by decide
  have named : 0 ∉ ({ outputName := ascii "`x`&" } : Options).outputName := by decide
  obtain ⟨quoted, assembled, run, _⟩ := shell_takes_commands_verbatim whole named
  exact ⟨quoted, assembled, run⟩

end Job

end Rpn
