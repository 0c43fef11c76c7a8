import Mathlib.Data.List.Nodup
import Rpn.Proofs.Codegen.Namespace
import Rpn.Proofs.Expression.Precedence

/-! Nothing is lost in a listing.  Bytes of a literal are listed as they are, so a line is taken
apart from both ends, and a listing into lines because no literal that was read has an end of a
line in it. -/

namespace Rpn

open Token

/-- Items are known from their lines if no line has an end inside and an item is known from its
line. -/
theorem eq_of_lines {α : Type} {write : α → Bytes} {IsPlain : α → Prop}
    (oneLine : ∀ item, IsPlain item → Ascii.newline ∉ write item)
    (determined : ∀ item other, write item = write other → item = other)
    {left right : List α} (plain : ∀ item ∈ left, IsPlain item)
    (plainToo : ∀ item ∈ right, IsPlain item)
    (same : left.flatMap (fun item => (write item).line) =
      right.flatMap fun item => (write item).line) : left = right := by
  induction left generalizing right with
  | nil =>
      cases right with
      | nil => rfl
      | cons other right => simp [Bytes.line] at same
  | cons item left induction =>
      cases right with
      | nil => simp [Bytes.line] at same
      | cons other right =>
          obtain ⟨itemPlain, leftPlain⟩ := List.forall_mem_cons.mp plain
          obtain ⟨otherPlain, rightPlain⟩ := List.forall_mem_cons.mp plainToo
          simp only [List.flatMap_cons, Bytes.line, List.append_assoc, List.singleton_append]
            at same
          obtain ⟨first, rest⟩ :=
            cut_unique (oneLine item itemPlain) (oneLine other otherPlain) same
          rw [determined item other first, induction leftPlain rightPlain rest]

/-- Kinds and opcodes are named by capital letters and underscores. -/
def IsName (text : Bytes) : Prop :=
  ∀ byte ∈ text, byte = Ascii.underscore ∨ 65 ≤ byte ∧ byte ≤ 90

instance (text : Bytes) : Decidable (IsName text) :=
  List.decidableBAll _ _

theorem IsName.notMem {text : Bytes} {byte : UInt8} (named : IsName text)
    (other : ¬ (byte = Ascii.underscore ∨ 65 ≤ byte ∧ byte ≤ 90)) : byte ∉ text :=
  fun member => other (named byte member)

/-! Tokens. -/

namespace Token

def Kind.all : List Kind :=
  [ .number, .plus, .minus, .times, .divide, .modulo, .power, .factorial, .abs, .cos, .sin, .sqrt,
    .tan, .dup, .swap, .e, .pi, .endOfInput, .invalid, .other ]

theorem Kind.isName_name (kind : Kind) : IsName kind.name := by
  cases kind <;> decide

theorem Kind.name_injective {left right : Kind} (same : left.name = right.name) : left = right := by
  have apart : (all.map name).Nodup := by decide +kernel
  have every : ∀ kind, kind ∈ all := by
    intro kind
    cases kind <;> decide
  exact List.inj_on_of_nodup_map apart (every left) (every right) same

/-- A numeral never ends with a quote, so the end of a line shows whether there is a column. -/
theorem columnNote_unique {text other : Bytes} {column position : Nat}
    (same : text ++ Ascii.doubleQuote :: columnNote column =
      other ++ Ascii.doubleQuote :: columnNote position) : text = other ∧ column = position := by
  have noted : ∀ number, Ascii.doubleQuote :: columnNote (number + 1) =
      ascii "\", column" ++ Ascii.space :: Bytes.ofNat (number + 1) := fun _ => rfl
  have ends : ∀ (before after : Bytes) (number : Nat),
      before ++ [Ascii.doubleQuote] ≠ after ++ Ascii.doubleQuote :: columnNote (number + 1) := by
    intro before after number equal
    rw [noted, ← List.append_assoc] at equal
    have last := congrArg List.getLast? equal
    rw [List.getLast?_concat, List.getLast?_append_of_ne_nil _ (List.cons_ne_nil _ _)] at last
    rcases List.mem_cons.mp (List.mem_of_getLast? last.symm) with blank | inside
    · exact absurd blank (by decide)
    · exact absurd (Bytes.isDigit_of_mem_ofNat inside) (by decide)
  cases column with
  | zero =>
      cases position with
      | zero => exact ⟨List.append_cancel_right same, rfl⟩
      | succ position => exact absurd same (ends _ _ _)
  | succ column =>
      cases position with
      | zero => exact absurd same.symm (ends _ _ _)
      | succ position =>
          rw [noted, noted, ← List.append_assoc, ← List.append_assoc] at same
          obtain ⟨texts, columns⟩ := numeral_unique (by decide) same
          exact ⟨List.append_cancel_right texts, columns⟩

/-- A line is taken apart from both ends, since the literal may have any bytes in it. -/
theorem render_injective {left right : Token} (same : left.render = right.render) :
    left = right := by
  have parts : ∀ token : Token, token.render = ascii "Token(" ++ (token.kind.name ++ Ascii.comma ::
      (ascii " \"" ++ (token.literal ++ Ascii.doubleQuote :: columnNote token.column))) ++
      ascii ")" := by
    intro token
    have quotes : ascii ", \"" = Ascii.comma :: ascii " \"" ∧
      ascii "\"" = [Ascii.doubleQuote] := by decide
    simp [render, quotes]
  have noComma : ∀ kind : Kind, Ascii.comma ∉ kind.name := fun kind =>
    kind.isName_name.notMem (by decide)
  rw [parts left, parts right] at same
  obtain ⟨names, rest⟩ := cut_unique (noComma _) (noComma _)
    (List.append_cancel_left (List.append_cancel_right same))
  obtain ⟨literals, columns⟩ := columnNote_unique (List.append_cancel_left rest)
  obtain ⟨kind, literal, column⟩ := left
  cases Kind.name_injective names
  cases literals
  cases columns
  rfl

theorem newline_notMem_render {token : Token} (oneLine : Ascii.newline ∉ token.literal) :
    Ascii.newline ∉ token.render := by
  have name : Ascii.newline ∉ token.kind.name := token.kind.isName_name.notMem (by decide)
  have words : Ascii.newline ∉ ascii "Token(" ∧ Ascii.newline ∉ ascii ", \"" ∧
      Ascii.newline ∉ ascii "\"" ∧ Ascii.newline ∉ ascii ", column " ∧
      Ascii.newline ∉ ascii ")" := by decide
  cases column : token.column <;>
    simp [render, columnNote, column, name, words, oneLine, Expression.newline_notMem_ofNat]

theorem listing_injective {left right : List Token}
    (plain : ∀ token ∈ left, Ascii.newline ∉ token.literal)
    (plainToo : ∀ token ∈ right, Ascii.newline ∉ token.literal)
    (same : listing left = listing right) : left = right :=
  eq_of_lines (fun _ => newline_notMem_render) (fun _ _ => render_injective) plain plainToo same

/-- A literal with an end of a line in it can imitate the rest of a listing. -/
example : listing [⟨.number, ascii "1\", column 1)\nToken(PLUS, \"+", 3⟩] =
    listing [⟨.number, ascii "1", 1⟩, ⟨.plus, ascii "+", 3⟩] := by
  decide +kernel

theorem newline_notMem_of_mem_scan {text : Bytes} :
    ∀ token ∈ scan text, Ascii.newline ∉ token.literal := by
  obtain ⟨pieces, tail, splits⟩ := Splits.existence text
  intro token member
  rw [scan, Scanner.ofInput, Scanner.drain_of_splits splits, ← dropLast_scan_of_splits splits]
    at member
  rcases List.mem_append.mp member with inside | last
  · exact Expression.newline_notMem_literal inside
  · rw [List.mem_singleton.mp last]
    exact List.not_mem_nil

end Token

namespace Instruction

def Opcode.all : List Opcode :=
  [ .push, .plus, .minus, .multiply, .divide, .modulus, .power, .factorial, .abs, .sin, .cos, .tan,
    .sqrt, .dup, .swap, .other ]

theorem Opcode.isName_name (opcode : Opcode) : IsName opcode.name := by
  cases opcode <;> decide

theorem Opcode.name_injective {left right : Opcode} (same : left.name = right.name) :
    left = right := by
  have apart : (all.map name).Nodup := by decide +kernel
  have every : ∀ opcode, opcode ∈ all := by
    intro opcode
    cases opcode <;> decide
  exact List.inj_on_of_nodup_map apart (every left) (every right) same

theorem render_injective {left right : Instruction} (same : left.render = right.render) :
    left = right := by
  obtain ⟨opcode, value?⟩ := left
  obtain ⟨otherOpcode, otherValue?⟩ := right
  have noSpace : ∀ opcode : Opcode, Ascii.space ∉ opcode.name := fun opcode =>
    opcode.isName_name.notMem (by decide)
  have separate : ∀ {opcode longer : Opcode} {value : Bytes},
      opcode.name ≠ longer.name ++ Ascii.space :: value := by
    intro opcode longer value equal
    exact noSpace opcode (equal ▸ by simp)
  cases value? with
  | none =>
      cases otherValue? with
      | none =>
          cases Opcode.name_injective same
          rfl
      | some value => exact absurd same separate
  | some value =>
      cases otherValue? with
      | none => exact absurd same.symm separate
      | some otherValue =>
          obtain ⟨names, values⟩ := cut_unique (noSpace _) (noSpace _) same
          cases Opcode.name_injective names
          rw [values]

/-- The line of an instruction at its index. -/
def numbered (entry : Instruction × Nat) : Bytes :=
  Bytes.ofNat entry.2 ++ Ascii.tab :: entry.1.render

theorem listingFrom_eq (index : Nat) (instructions : List Instruction) :
    listingFrom index instructions =
      (instructions.zipIdx index).flatMap fun entry => (numbered entry).line := by
  induction instructions generalizing index with
  | nil => rfl
  | cons instruction rest induction =>
      rw [listingFrom, induction]
      rfl

theorem numbered_injective {left right : Instruction × Nat}
    (same : numbered left = numbered right) : left = right := by
  have noTab : ∀ number, Ascii.tab ∉ Bytes.ofNat number := fun _ member =>
    absurd (Bytes.isDigit_of_mem_ofNat member) (by decide)
  obtain ⟨indices, instructions⟩ := cut_unique (noTab _) (noTab _) same
  exact Prod.ext (render_injective instructions) (Bytes.ofNat_injective indices)

/-- An instruction whose literal does not end a line. -/
def IsPlain (instruction : Instruction) : Prop :=
  ∀ value ∈ instruction.value?, Ascii.newline ∉ value

theorem newline_notMem_numbered {entry : Instruction × Nat} (plain : entry.1.IsPlain) :
    Ascii.newline ∉ numbered entry := by
  obtain ⟨⟨opcode, value?⟩, index⟩ := entry
  have name : Ascii.newline ∉ opcode.name := opcode.isName_name.notMem (by decide)
  have apart : Ascii.newline ≠ Ascii.tab ∧ Ascii.newline ≠ Ascii.space := by decide
  cases value? with
  | none => simp [numbered, render, Expression.newline_notMem_ofNat, name, apart]
  | some value =>
      have oneLine := plain value rfl
      simp [numbered, render, Expression.newline_notMem_ofNat, name, apart, oneLine]

theorem listing_injective {left right : List Instruction}
    (plain : ∀ instruction ∈ left, instruction.IsPlain)
    (plainToo : ∀ instruction ∈ right, instruction.IsPlain)
    (same : listing left = listing right) : left = right := by
  unfold listing at same
  rw [listingFrom_eq, listingFrom_eq] at same
  have entries := eq_of_lines (fun _ => newline_notMem_numbered)
    (fun _ _ => numbered_injective)
    (fun entry member => plain entry.1 (List.fst_mem_of_mem_zipIdx member))
    (fun entry member => plainToo entry.1 (List.fst_mem_of_mem_zipIdx member)) same
  simpa using congrArg (List.map Prod.fst) entries

theorem isPlain_of_read {text : Bytes} {tokens : List Token} {instructions : List Instruction}
    (accepted : Expression.read text = .ok tokens)
    (made : tokens.mapM ofToken = .ok instructions) :
    ∀ instruction ∈ instructions, instruction.IsPlain := by
  intro instruction member literal value
  obtain ⟨token, tokenMember, source⟩ := mem_of_mapM_eq_ok made instruction member
  obtain ⟨number, rfl⟩ := value_of_ofToken source value
  exact Codegen.newline_not_mem_literal
    (Expression.isNumber_literal_of_read accepted token tokenMember number)

end Instruction

/-- Texts whose tokens are listed alike have the same tokens, and expressions whose instructions are
listed alike have the same instructions. -/
theorem listings_lose_nothing :
    (∀ left right, Token.listing (scan left) = Token.listing (scan right) →
      scan left = scan right) ∧
    ∀ left right leftTokens rightTokens, Expression.read left = .ok leftTokens →
      Expression.read right = .ok rightTokens →
      ∃ leftProgram rightProgram, Program.ofTokens leftTokens = .ok leftProgram ∧
        Program.ofTokens rightTokens = .ok rightProgram ∧
        (Instruction.listing leftProgram.instructions =
            Instruction.listing rightProgram.instructions →
          leftProgram.instructions = rightProgram.instructions) := by
  constructor
  · intro left right
    exact Token.listing_injective newline_notMem_of_mem_scan newline_notMem_of_mem_scan
  · intro left right leftTokens rightTokens leftRead rightRead
    obtain ⟨leftInstructions, _, leftMade, _⟩ := exists_parts_of_read leftRead
    obtain ⟨rightInstructions, _, rightMade, _⟩ := exists_parts_of_read rightRead
    exact ⟨_, _, congrArg (Except.map Program.ofInstructions) leftMade,
      congrArg (Except.map Program.ofInstructions) rightMade,
      Instruction.listing_injective (Instruction.isPlain_of_read leftRead leftMade)
        (Instruction.isPlain_of_read rightRead rightMade)⟩

/-- Words that imitate the rest of a line; the texts differ in their blanks only. -/
theorem listings_lose_nothing_imitation :
    scan (ascii "2 \",_column) ' !") = scan (ascii "2\t\",_column)\n' !") ∧
    ∃ leftProgram rightProgram,
      Program.ofTokens [⟨.number, ascii "4", 1⟩, ⟨.factorial, ascii "!", 3⟩] = .ok leftProgram ∧
      Program.ofTokens [⟨.number, ascii "4", 2⟩, ⟨.factorial, ascii "factorial", 4⟩] =
        .ok rightProgram ∧
      leftProgram.instructions = rightProgram.instructions := by
  obtain ⟨tokens, instructions⟩ := listings_lose_nothing
  obtain ⟨leftProgram, rightProgram, leftBuilt, rightBuilt, determined⟩ :=
    instructions (ascii "4 !") (ascii " 4 factorial")
      [⟨.number, ascii "4", 1⟩, ⟨.factorial, ascii "!", 3⟩]
      [⟨.number, ascii "4", 2⟩, ⟨.factorial, ascii "factorial", 4⟩] (by decide +kernel)
      (by decide +kernel)
  refine ⟨tokens _ _ (by decide +kernel), leftProgram, rightProgram, leftBuilt, rightBuilt,
    determined ?_⟩
  cases leftBuilt
  cases rightBuilt
  decide +kernel

end Rpn
