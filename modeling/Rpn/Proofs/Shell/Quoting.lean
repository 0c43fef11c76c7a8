import Mathlib.Data.List.Basic
import Rpn.Shell.Lexeme
import Rpn.Shell.Quote

/-! How the shell reads arguments that are written between single quotes or without any byte that it
knows: each of them is one word, and nothing else is found between them. -/

namespace Rpn.Shell

/-- The bytes that mean more than themselves somewhere in a word. -/
def meaningful : Bytes :=
  ascii " \t\n;&|<>()'\"\\$`#~\x7b=*?["

/-- An argument of a command, and whether it is written between quotes.  One that is not has no
byte that the shell knows. -/
structure Argument where
  quoted : Bool
  text : Bytes
  bare : quoted = false → text ≠ [] ∧ ∀ byte ∈ text, byte ∉ meaningful

namespace Argument

def source (argument : Argument) : Bytes :=
  if argument.quoted then quote argument.text else argument.text

def word (argument : Argument) : Word :=
  [.text argument.quoted argument.text]

def inQuotes (text : Bytes) : Argument :=
  ⟨true, text, nofun⟩

@[simp] theorem source_bare (text : Bytes) (bare) : source ⟨false, text, bare⟩ = text := rfl

@[simp] theorem text_inQuotes (text : Bytes) : (inQuotes text).text = text := rfl

@[simp] theorem source_inQuotes (text : Bytes) : (inQuotes text).source = quote text := rfl

@[simp] theorem word_inQuotes (text : Bytes) : (inQuotes text).word = [.text true text] := rfl

/-- No argument begins like a comment or a symbol. -/
theorem exists_source_cons (argument : Argument) :
    ∃ first others, argument.source = first :: others ∧ first ∉ ascii " \t\n\\#;&|<>()" := by
  obtain ⟨quoted, text, bare⟩ := argument
  cases quoted with
  | true => exact ⟨Ascii.singleQuote, _, rfl, by decide⟩
  | false =>
      obtain ⟨nonempty, plain⟩ := bare rfl
      obtain ⟨first, others, rfl⟩ := List.exists_cons_of_ne_nil nonempty
      have known : ∀ byte ∈ ascii " \t\n\\#;&|<>()", byte ∈ meaningful := by decide +kernel
      exact ⟨first, others, rfl, fun member => plain first (by simp) (known first member)⟩

end Argument

/-- A word ends here: nothing or a space follows. -/
def EndsWord (rest : Bytes) : Prop :=
  rest = [] ∨ ∃ tail, rest = Ascii.space :: tail

/-- Arguments with a space between any two of them. -/
def commandLine (arguments : List Argument) : Bytes :=
  [Ascii.space].intercalate (arguments.map Argument.source)

/-- After an argument comes the end or a space, and then the other arguments. -/
theorem exists_commandLine_cons (argument : Argument) (others : List Argument) :
    ∃ rest, commandLine (argument :: others) = argument.source ++ rest ∧ EndsWord rest ∧
      (rest = commandLine others ∨ rest = Ascii.space :: commandLine others) := by
  cases others with
  | nil => exact ⟨[], by simp [commandLine, List.intercalate], .inl rfl, .inl rfl⟩
  | cons next others =>
      exact ⟨_, by simp [commandLine, List.intercalate], .inr ⟨_, rfl⟩, .inr rfl⟩

theorem length_le_length_commandLine (arguments : List Argument) :
    arguments.length ≤ (commandLine arguments).length := by
  induction arguments with
  | nil => exact Nat.zero_le _
  | cons argument others induction =>
      obtain ⟨first, tail, written, _⟩ := argument.exists_source_cons
      obtain ⟨rest, line, _, same⟩ := exists_commandLine_cons argument others
      rw [line, written]
      rcases same with rfl | rfl <;> simp only [List.length_append, List.length_cons] <;> omega

/-! Reading single pieces. -/

namespace Word

variable {grammar : Grammar} {bound : Nat} {word : Word} {rest : Bytes}

theorem addText_addText (quoted : Bool) (first second : Bytes) (word : Word) :
    (word.addText quoted first).addText quoted second = word.addText quoted (first ++ second) := by
  induction word with
  | nil => simp [addText]
  | cons piece rest induction =>
      cases rest with
      | nil =>
          cases piece with
          | text before old => by_cases same : before = quoted <;> simp [addText, same]
          | _ => simp [addText]
      | cons next others =>
          have step : ∀ content, addText quoted content (piece :: next :: others) =
              piece :: addText quoted content (next :: others) := by
            intro content
            cases piece <;> rfl
          have nonempty : addText quoted first (next :: others) ≠ [] := by
            cases next <;> cases others <;>
              simp only [addText, ne_eq, reduceCtorEq, not_false_eq_true]
            split <;> simp
          obtain ⟨head, tail, added⟩ := List.exists_cons_of_ne_nil nonempty
          rw [step, step, ← induction, added]
          cases piece <;> rfl

/-- Between quotes every byte stands for itself. -/
theorem readPieces_quoted {content : Bytes} (clean : Ascii.singleQuote ∉ content) :
    readPieces grammar (bound + 1) .bare word
        (Ascii.singleQuote :: (content ++ Ascii.singleQuote :: rest)) =
      readPieces grammar bound .bare (word.addText true content) rest := by
  have special : (Ascii.singleQuote :: (content ++ Ascii.singleQuote :: rest)).takeWhile
      (!Surrounding.bare.specials.contains ·) = [] := by
    rw [List.takeWhile_cons_of_neg (by decide)]
  have taken : (content ++ Ascii.singleQuote :: rest).takeWhile (· != Ascii.singleQuote) =
      content := by
    rw [List.takeWhile_append_of_pos]
    · simp
    · intro byte member
      simpa using fun equal : byte = Ascii.singleQuote => clean (equal ▸ member)
  conv_lhs => unfold readPieces
  simp only [special, taken, List.drop_left]
  rfl

/-- A backslash takes the meaning from a byte. -/
theorem readPieces_escaped {byte : UInt8} (noLine : byte ≠ Ascii.newline) :
    readPieces grammar (bound + 1) .bare word (Ascii.backslash :: byte :: rest) =
      readPieces grammar bound .bare (word.addText true [byte]) rest := by
  have special : (Ascii.backslash :: byte :: rest).takeWhile
      (!Surrounding.bare.specials.contains ·) = [] := by
    rw [List.takeWhile_cons_of_neg (by decide)]
  conv_lhs => unfold readPieces
  simp only [special, if_neg noLine]
  rfl

/-- A quoted argument is one text, also where quotes are closed and opened again inside of it.  What
was read of it between the last quotes is `before`. -/
theorem readPieces_quoteBytes (word : Word) (argument before : Bytes)
    (clean : Ascii.singleQuote ∉ before) :
    readPieces grammar (2 * argument.count Ascii.singleQuote + 1 + bound) .bare word
        (Ascii.singleQuote ::
          (before ++ (argument.flatMap quoteByte ++ Ascii.singleQuote :: rest))) =
      readPieces grammar bound .bare (word.addText true (before ++ argument)) rest := by
  induction argument generalizing before word with
  | nil =>
      rw [Nat.add_comm]
      simpa using readPieces_quoted clean
  | cons byte argument induction =>
      by_cases quote : byte = Ascii.singleQuote
      · subst quote
        -- A quote closes the text, is escaped, and opens the text again.
        have later := induction ((word.addText true before).addText true [Ascii.singleQuote]) []
          (by simp)
        rw [addText_addText, addText_addText] at later
        rw [List.count_cons_self, List.flatMap_cons,
          show 2 * (argument.count Ascii.singleQuote + 1) + 1 + bound =
            (2 * argument.count Ascii.singleQuote + 1 + bound) + 1 + 1 by omega,
          show quoteByte Ascii.singleQuote = [Ascii.singleQuote, Ascii.backslash,
            Ascii.singleQuote, Ascii.singleQuote] from rfl]
        simp only [List.cons_append, List.nil_append] at later ⊢
        rw [readPieces_quoted clean, readPieces_escaped (by decide), addText_addText]
        simpa using later
      · have kept : quoteByte byte = [byte] := if_neg quote
        have longer : Ascii.singleQuote ∉ before ++ [byte] := by
          simpa [clean] using fun equal => quote (Eq.symm equal)
        have later := induction word (before ++ [byte]) longer
        rw [List.count_cons_of_ne quote, List.flatMap_cons, kept]
        simpa using later

theorem readPieces_quote (argument : Bytes) :
    readPieces grammar (2 * argument.count Ascii.singleQuote + 1 + bound) .bare word
        (quote argument ++ rest) =
      readPieces grammar bound .bare (word.addText true argument) rest := by
  simpa [quote] using readPieces_quoteBytes word argument [] (by simp)

theorem readPieces_plain {text : Bytes} (nonempty : text ≠ [])
    (plain : ∀ byte ∈ text, byte ∉ Surrounding.bare.specials) (ends : EndsWord rest) :
    readPieces grammar (bound + 1) .bare word (text ++ rest) =
      readPieces grammar bound .bare (word.addText false text) rest := by
  obtain ⟨first, others, rfl⟩ := List.exists_cons_of_ne_nil nonempty
  have taken : (first :: others ++ rest).takeWhile (!Surrounding.bare.specials.contains ·) =
      first :: others := by
    rw [List.takeWhile_append_of_pos]
    · rcases ends with rfl | ⟨tail, rfl⟩
      · simp
      · rw [List.takeWhile_cons_of_neg (by decide), List.append_nil]
    · intro byte member
      simpa using plain byte member
  conv_lhs => unfold readPieces
  simp only [taken, List.drop_left]
  rfl

theorem readPieces_endsWord (ends : EndsWord rest) :
    readPieces grammar (bound + 1) .bare word rest = .ok (word, rest) := by
  rcases ends with rfl | ⟨tail, rfl⟩
  · rfl
  · have special :
        (Ascii.space :: tail).takeWhile (!Surrounding.bare.specials.contains ·) = [] := by
      rw [List.takeWhile_cons_of_neg (by decide)]
    unfold readPieces
    simp only [special]
    rfl

theorem count_le_length_quote (text : Bytes) :
    text.count Ascii.singleQuote ≤ (quote text).length := by
  have inner : text.length ≤ (text.flatMap quoteByte).length := by
    induction text with
    | nil => simp
    | cons byte text induction =>
        have nonempty : 1 ≤ (quoteByte byte).length := by
          unfold quoteByte
          split <;> simp [ascii]
        simp only [List.flatMap_cons, List.length_append, List.length_cons]
        omega
  have most := List.count_le_length (a := Ascii.singleQuote) (l := text)
  simp only [quote, List.length_append, List.length_cons]
  omega

/-- The word at the front of a text is the argument that is written there. -/
theorem read_source (argument : Argument) (ends : EndsWord rest) :
    read grammar (argument.source ++ rest) = .ok (argument.word, rest) := by
  obtain ⟨quoted, text, bare⟩ := argument
  cases quoted with
  | true =>
      have room : 2 * text.count Ascii.singleQuote + 1 + 1 ≤
          2 * (quote text ++ rest).length + 2 := by
        have quotes := count_le_length_quote text
        rw [List.length_append]
        omega
      obtain ⟨more, enough⟩ := Nat.exists_eq_add_of_le room
      simp only [Argument.source, Argument.word, if_true, read]
      rw [enough, show 2 * text.count Ascii.singleQuote + 1 + 1 + more =
        2 * text.count Ascii.singleQuote + 1 + (more + 1) by omega, readPieces_quote,
        readPieces_endsWord ends]
      rfl
  | false =>
      obtain ⟨nonempty, plain⟩ := bare rfl
      have usual : ∀ byte ∈ text, byte ∉ Surrounding.bare.specials := by
        intro byte member special
        exact plain byte member (List.mem_append_left _ special)
      simp only [Argument.source, Argument.word, read]
      exact (readPieces_plain nonempty usual ends).trans (readPieces_endsWord ends)

end Word

/-! Reading lexemes. -/

namespace Lexeme

variable {grammar : Grammar}

theorem symbol?_eq_none {first : UInt8} (solid : first ∉ ascii "\\;&|<>()") (extended : Bool)
    (rest : Bytes) : symbol? extended (first :: rest) = none := by
  have heads : ∀ symbol ∈ symbols extended, ∃ head ∈ ascii "\\;&|<>()",
      symbol.head? = some head := by
    cases extended <;> decide
  have joined : Word.joined (first :: rest) = first :: rest := by
    unfold Word.joined Word.joinLines
    split
    case h_1 _ _ tail equal =>
      rw [(List.cons.inj equal).1] at solid
      exact absurd (by decide) solid
    case h_2 => rfl
  refine List.findSome?_eq_none_iff.mpr fun symbol member => ?_
  obtain ⟨head, begins, found⟩ := heads symbol member
  obtain ⟨tail, rfl⟩ := List.head?_eq_some_iff.mp found
  have differs : first ≠ head := fun equal => solid (equal ▸ begins)
  simp only [after?, joined, if_neg differs, Option.map_none]

/-- No redirection follows a word that ends here. -/
theorem before?_eq_none {rest : Bytes} (ends : EndsWord rest) (extended : Bool) (word : Word) :
    numberBefore? extended word rest = none ∧ holderBefore? extended word rest = none := by
  have other : ¬ (Ascii.space = Ascii.less ∨ Ascii.space = Ascii.greater) := by decide
  rcases ends with rfl | ⟨tail, rfl⟩ <;> simp [numberBefore?, holderBefore?, other]

theorem nextWord_source (grammar : Grammar) (argument : Argument) {rest : Bytes}
    (ends : EndsWord rest) :
    nextWord grammar (argument.source ++ rest) = .ok (.word argument.word, rest) := by
  unfold nextWord
  rw [Word.read_source argument ends]
  simp only [bind, Except.bind, before?_eq_none ends]
  split <;> rfl

theorem skipBlanks_cons {first : UInt8} (solid : first ∉ ascii " \t\\#") (bound : Nat)
    (rest : Bytes) : skipBlanks bound (first :: rest) = first :: rest := by
  cases bound with
  | zero => rfl
  | succ bound =>
      have other : ∀ byte ∈ ascii " \t\\#", first ≠ byte := fun byte member equal =>
        solid (equal ▸ member)
      unfold skipBlanks
      split
      case h_1 equal => exact absurd (List.cons.inj equal).1 (other _ (by decide))
      case h_2 equal => exact absurd (List.cons.inj equal).1 (other _ (by decide))
      case h_3 equal => exact absurd (List.cons.inj equal).1 (other _ (by decide))
      case h_4 equal => exact absurd (List.cons.inj equal).1 (other _ (by decide))
      case h_5 => rfl

/-- The lexeme at the front of a text is the argument that is written there. -/
theorem next_source (argument : Argument) {rest : Bytes} (ends : EndsWord rest) :
    next grammar (argument.source ++ rest) = .ok (.word argument.word, rest) := by
  obtain ⟨first, others, written, solid⟩ := argument.exists_source_cons
  have found := nextWord_source grammar argument ends
  rw [written, List.cons_append] at found ⊢
  have blanks : ∀ byte ∈ ascii " \t\\#", byte ∈ ascii " \t\n\\#;&|<>()" := by
    decide +kernel
  have signs : ∀ byte ∈ ascii "\\;&|<>()", byte ∈ ascii " \t\n\\#;&|<>()" := by
    decide +kernel
  have noSymbol := symbol?_eq_none (fun member => solid (signs first member)) grammar.extended
    (others ++ rest)
  unfold next
  rw [skipBlanks_cons fun member => solid (blanks first member)]
  have noLine : first ≠ Ascii.newline := fun equal => solid (equal ▸ by decide)
  have noAngle : first ≠ Ascii.less ∧ first ≠ Ascii.greater :=
    ⟨fun equal => solid (equal ▸ by decide), fun equal => solid (equal ▸ by decide)⟩
  dsimp only
  split
  case h_1 equal => cases equal
  case h_2 equal => exact absurd (List.cons.inj equal).1 noLine
  case h_3 equal =>
    cases equal
    simp [noAngle, noSymbol, found]

theorem scanFrom_space (bound : Nat) (text : Bytes) :
    scanFrom grammar bound (Ascii.space :: text) = scanFrom grammar bound text := by
  cases bound <;> rfl

theorem scanFrom_commandLine (arguments : List Argument) {bound : Nat}
    (enough : arguments.length ≤ bound) :
    scanFrom grammar bound (commandLine arguments) =
      .ok (arguments.map fun argument => .word argument.word) := by
  induction arguments generalizing bound with
  | nil => cases bound <;> rfl
  | cons argument others induction =>
      obtain ⟨bound, rfl⟩ := Nat.exists_eq_succ_of_ne_zero (Nat.ne_zero_of_lt enough)
      have later := induction (Nat.le_of_succ_le_succ enough)
      obtain ⟨rest, line, ends, same⟩ := exists_commandLine_cons argument others
      have scanned : scanFrom grammar bound rest = scanFrom grammar bound (commandLine others) := by
        rcases same with rfl | rfl
        · rfl
        · exact scanFrom_space bound _
      rw [line, scanFrom, next_source argument ends]
      simp only [bind, Except.bind, scanned, later]
      rfl

/-- Arguments with spaces between them are read as their words: no operator, redirection, line end
or comment is found. -/
theorem scan_commandLine (arguments : List Argument) :
    scan grammar (commandLine arguments) =
      .ok (arguments.map fun argument => .word argument.word) :=
  scanFrom_commandLine arguments (Nat.le_succ_of_le (length_le_length_commandLine arguments))

end Lexeme

end Rpn.Shell
