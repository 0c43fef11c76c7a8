import Mathlib.Data.List.TakeWhile
import Rpn.Proofs.Shell.Quoting
import Rpn.Shell.Expansion

/-! Expansion leaves arguments as they are: tildes, braces, field separators and patterns have no
meaning in them. -/

namespace Rpn

namespace Host.Task

instance {σ ε : Type} : LawfulMonad (Task σ ε) := LawfulMonad.mk' _
  (fun _ => rfl) (fun _ _ => rfl) (fun _ _ _ => rfl)

end Host.Task

namespace Shell

open Host Expansion

/-! Braces. -/

namespace Brace

theorem expandAtoms_bytes {text : Bytes} (plain : Ascii.openBrace ∉ text) (bound : Nat) :
    expandAtoms bound (text.map .byte) = [text.map .byte] := by
  induction text generalizing bound with
  | nil => cases bound <;> rfl
  | cons byte text induction =>
      cases bound with
      | zero => rfl
      | succ bound =>
          have other : byte ≠ Ascii.openBrace := fun equal => plain (equal ▸ by simp)
          have later := induction (fun member => plain (List.mem_cons_of_mem _ member)) bound
          rw [List.map_cons, expandAtoms, later]
          · rfl
          · exact fun equal => other (Atom.byte.inj equal)

theorem word_bytes {text : Bytes} (nonempty : text ≠ []) :
    word (text.map .byte) = [.text false text] := by
  have joins : ∀ (others first : Bytes) (word : Word),
      others.foldl (fun word byte => word.addText false [byte]) (word.addText false first) =
        word.addText false (first ++ others) := by
    intro others
    induction others with
    | nil => simp
    | cons byte others induction =>
        intro first word
        rw [List.foldl_cons, Word.addText_addText, induction]
        simp
  obtain ⟨first, others, rfl⟩ := List.exists_cons_of_ne_nil nonempty
  rw [word, List.foldl_map]
  exact joins others [first] []

theorem expand_word (argument : Argument) : expand argument.word = [argument.word] := by
  obtain ⟨quoted, text, bare⟩ := argument
  cases quoted with
  | true => rfl
  | false =>
      obtain ⟨nonempty, plain⟩ := bare rfl
      have noBrace : Ascii.openBrace ∉ text := fun member => plain _ member (by decide)
      have atoms : atoms [.text false text] = text.map .byte := by simp [atoms]
      simp only [Argument.word, expand, atoms, expandAtoms_bytes noBrace, List.map_cons,
        word_bytes nonempty, List.map_nil]

end Brace

/-! Tildes. -/

theorem replaceTilde_cons {first : UInt8} (other : first ≠ Ascii.tilde) (shell : State)
    (stops : Bytes) (last : Bool) (rest : Bytes) :
    replaceTilde shell stops last (first :: rest) = [.text false (first :: rest)] := by
  unfold replaceTilde
  split
  case h_1 equal => exact absurd (List.cons.inj equal).1 other
  case h_2 => rfl

theorem argumentTildes_word (shell : State) (argument : Argument) :
    argumentTildes shell argument.word = argument.word := by
  obtain ⟨quoted, text, bare⟩ := argument
  cases quoted with
  | true =>
      cases extended : shell.extended <;> simp [argumentTildes, extended, tilde, Argument.word]
  | false =>
      obtain ⟨nonempty, plain⟩ := bare rfl
      obtain ⟨first, others, rfl⟩ := List.exists_cons_of_ne_nil nonempty
      have noTilde : first ≠ Ascii.tilde := fun equal => plain first (by simp) (equal ▸ by decide)
      have noEquals : (first :: others).takeWhile (· != Ascii.equals) = first :: others := by
        refine List.takeWhile_eq_self_iff.mpr fun byte member => ?_
        simpa using fun equal : byte = Ascii.equals => plain byte member (equal ▸ by decide)
      have unchanged : tilde shell [.text false (first :: others)] =
          [.text false (first :: others)] := by
        rw [tilde, replaceTilde_cons noTilde]
        rfl
      cases extended : shell.extended <;>
        simp [argumentTildes, extended, Argument.word, noEquals, unchanged]

/-! Fields. -/

/-- What is not divisible is added to the current field. -/
theorem foldl_step_ofText (separators : Bytes) (quoted : Bool) {text : Bytes} (nonempty : text ≠ [])
    (state : Field.Split) :
    ((Mark.ofText quoted text).map Item.mark).foldl (Field.Split.step separators) state =
      { state with
        current := (Mark.ofText quoted text).reverse ++ state.current, present := true
        joins := false } := by
  induction text generalizing state with
  | nil => exact absurd rfl nonempty
  | cons byte text induction =>
      rw [Mark.ofText, List.map_cons, List.map_cons, List.foldl_cons]
      cases text with
      | nil => rfl
      | cons next others =>
          have later := induction (by simp) (Field.Split.step separators state
            (.mark { byte, quoted, divisible := false }))
          refine later.trans ?_
          simp [Field.Split.step, Mark.ofText]

theorem fields_ofText (separators : Bytes) (argument : Argument) :
    fields separators (Item.ofText argument.quoted false argument.text) =
      [Mark.ofText argument.quoted argument.text] := by
  obtain ⟨quoted, text, bare⟩ := argument
  by_cases empty : text = []
  · subst empty
    cases quoted with
    | true => rfl
    | false => exact absurd rfl (bare rfl).1
  · have added := foldl_step_ofText separators quoted empty
    cases quoted <;> simp [fields, Item.ofText, added, Field.Split.step,
      Field.Split.closeIfPresent, Field.Split.close]

/-! Patterns. -/

theorem hasPatternMark_ofText (argument : Argument) (dialect : Pattern.Dialect) :
    Glob.hasPatternMark dialect (Mark.ofText argument.quoted argument.text) = false := by
  obtain ⟨quoted, text, bare⟩ := argument
  have noMark : ∀ sign ∈ ascii "*?[(", ∀ mark ∈ Mark.ofText quoted text,
      mark.stands sign = false := by
    intro sign known mark member
    obtain ⟨byte, byteMember, rfl⟩ := List.mem_map.mp member
    cases quoted with
    | true => simp [Mark.stands]
    | false =>
        have all : ∀ sign ∈ ascii "*?[(", sign ∈ meaningful := by decide +kernel
        have plain := (bare rfl).2 byte byteMember
        simpa [Mark.stands] using fun equal : byte = sign => plain (equal ▸ all sign known)
  refine Bool.or_eq_false_iff.mpr ⟨List.any_eq_false.mpr fun mark member => ?_, ?_⟩
  · simp [noMark Ascii.asterisk (by decide) mark member,
      noMark Ascii.question (by decide) mark member,
      noMark Ascii.openBracket (by decide) mark member]
  · refine Bool.and_eq_false_iff.mpr (.inr (List.any_eq_false.mpr fun mark member => ?_))
    simp [noMark Ascii.openParenthesis (by decide) mark member]

/-- A look at the files of which nothing is used. -/
def idle : Run Unit := do
  if ← Run.isOn "noglob" then return ()
  else
    let _ ← Act.look fun _ _ => ()

theorem fileNames_ofText (argument : Argument) :
    fileNames (Mark.ofText argument.quoted argument.text) =
      (do idle; return [argument.text]) := by
  have plain := hasPatternMark_ofText argument
  have none : ∀ world self manner,
      Glob.find world self manner (Mark.ofText argument.quoted argument.text) = [] := by
    intro world self manner
    simp [Glob.find, plain]
  have text : Mark.text (Mark.ofText argument.quoted argument.text) = argument.text := by
    simp [Mark.text, Mark.ofText, Function.comp_def]
  simp only [fileNames, idle, none, text, plain, bind_assoc]
  congr 1
  funext silent
  cases silent <;> rfl

theorem pieces_word (hooks : Hooks) (depth : Nat) (setting : Setting) (argument : Argument)
    (whole : setting.operand = false) :
    pieces hooks (depth + 1) setting argument.word =
      pure (Item.ofText argument.quoted false argument.text) := by
  simp [pieces, Argument.word, whole]

theorem expandWord_word (hooks : Hooks) (argument : Argument) :
    expandWord hooks argument.word = (do idle; return [argument.text]) := by
  have items : items hooks { divided := true } argument.word =
      pure (Item.ofText argument.quoted false argument.text) :=
    pieces_word hooks 999 _ argument rfl
  have fields := fun separators => fields_ofText separators argument
  simp only [expandWord, argumentTildes_word, items, pure_bind, fields, List.mapM_cons,
    List.mapM_nil, fileNames_ofText, bind_assoc]
  rfl

theorem mapM_expandWord (hooks : Hooks) (arguments : List Argument) :
    (arguments.map Argument.word).mapM (expandWord hooks) =
      (do
        (arguments.map Argument.text).forM fun _ => idle
        return arguments.map fun argument => [argument.text]) := by
  induction arguments with
  | nil => rfl
  | cons argument arguments induction =>
      simp [List.mapM_cons, expandWord_word, induction]

/-- Expanding the words of arguments gives the arguments.  The shell itself stays as it is, and the
files are at most looked at. -/
theorem expandWords_words (hooks : Hooks) (arguments : List Argument) :
    expandWords hooks (arguments.map Argument.word) =
      (do
        (arguments.map Argument.text).forM fun _ => idle
        return arguments.map Argument.text) := by
  have unbraced : (arguments.map Argument.word).flatMap Brace.expand =
      arguments.map Argument.word := by
    rw [List.flatMap_map, List.map_eq_flatMap]
    exact congrArg (arguments.flatMap ·) (funext Brace.expand_word)
  have texts : (arguments.map fun argument => [argument.text]).flatten =
      arguments.map Argument.text :=
    List.map_eq_flatMap.symm
  simp only [expandWords, unbraced, ite_self, mapM_expandWord, bind_assoc, pure_bind, texts]
  rfl

end Shell

end Rpn
