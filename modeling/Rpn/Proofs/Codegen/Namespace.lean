import Rpn.Codegen.File
import Rpn.Proofs.Assembly.Symbols
import Rpn.Proofs.Codegen.Names
import Rpn.Proofs.Compilation

/-! The symbols of a generated file: each is defined once, and every one that is used is there. -/

namespace Rpn.Codegen

open Assembly Token

def Cell.all : List Symbol :=
  [Cell.first, Cell.second, Cell.integer, Cell.depth]

def Message.all : List Symbol :=
  [Message.result, Message.zeroDivisor, Message.overflow, Message.tooFew, Message.tooMany]

def Handler.all : List Symbol :=
  [Handler.zeroDivisor, Handler.overflow, Handler.tooMany, Handler.tooFew, Handler.report]

/-- Which labels the block of an operation has. -/
def localRoles : Operation → Bytes × List Bytes
  | .power => (ascii "power", [ascii "positive", ascii "loop", ascii "store"])
  | .factorial => (ascii "factorial", [ascii "loop", ascii "store"])
  | _ => ([], [])

def localLabels (index : Nat) (operation : Operation) : List Symbol :=
  (localRoles operation).2.map fun role => localLabel (localRoles operation).1 role index

/-! What the parts of a file define. -/

theorem defined_block (index : Nat) (operation : Operation) :
    defined (block index operation) = localLabels index operation := by
  cases operation <;> rfl

theorem defined_constants (pool : ConstantPool) :
    defined (constants pool) = pool.literals.map constantSymbol := by
  have cells : ∀ literals : List Bytes,
      defined (literals.map fun literal => .datum (constantSymbol literal) (.double literal)) =
        literals.map constantSymbol := by
    intro literals
    simp [defined, List.filterMap_map, Function.comp_def, Line.defined?]
  unfold constants
  split
  · next none => rw [none]; rfl
  · rw [defined_append, cells]
    exact List.append_nil _

theorem defined_header (debug : Bool) (pool : ConstantPool) :
    defined (header debug pool) =
      Cell.all ++ pool.literals.map constantSymbol ++ Message.all ++ [entry] := by
  have ending : defined start ++ defined (debugBreak debug) = [entry] := by cases debug <;> rfl
  simp only [header, defined_append, defined_constants]
  rw [List.append_assoc _ (defined start), ending]
  rfl

theorem defined_footer : defined footer = Handler.all :=
  rfl

/-- A line of the blocks belongs to the operation at some position. -/
theorem mem_blocksFrom {line : Line} {index : Nat} {operations : List Operation} :
    line ∈ blocksFrom index operations ↔
      ∃ position operation, operations[position]? = some operation ∧
        line ∈ block (index + position) operation := by
  induction operations generalizing index with
  | nil => simp [blocksFrom]
  | cons operation rest induction =>
      rw [blocksFrom, List.mem_append, induction]
      constructor
      · rintro (member | ⟨position, later, found, member⟩)
        · exact ⟨0, operation, rfl, member⟩
        · refine ⟨position + 1, later, found, ?_⟩
          rwa [Nat.add_right_comm] at member
      · rintro ⟨position, later, found, member⟩
        cases position with
        | zero =>
            cases found
            exact .inl member
        | succ position =>
            refine .inr ⟨position, later, found, ?_⟩
            rwa [Nat.add_right_comm]

/-- The block of every operation is there as a whole. -/
theorem block_infix_blocksFrom (index : Nat) {operations : List Operation} {position : Nat}
    {operation : Operation} (found : operations[position]? = some operation) :
    block (index + position) operation <:+: blocksFrom index operations := by
  induction operations generalizing index position with
  | nil => cases found
  | cons first rest induction =>
      cases position with
      | zero =>
          cases found
          exact (List.prefix_append _ _).isInfix
      | succ position =>
          have later := induction (index + 1) found
          rw [Nat.add_right_comm] at later
          exact later.trans (List.suffix_append _ _).isInfix

theorem mem_defined_blocksFrom {symbol : Symbol} {index : Nat} {operations : List Operation}
    (member : symbol ∈ defined (blocksFrom index operations)) :
    ∃ position operation, index ≤ position ∧ symbol ∈ localLabels position operation := by
  obtain ⟨line, lineMember, defines⟩ := List.mem_filterMap.mp member
  obtain ⟨position, operation, _, blockMember⟩ := mem_blocksFrom.mp lineMember
  refine ⟨index + position, operation, Nat.le_add_right _ _, ?_⟩
  rw [← defined_block]
  exact List.mem_filterMap.mpr ⟨line, blockMember, defines⟩

/-! No symbol is defined twice. -/

theorem nodup_localLabels (index : Nat) (operation : Operation) :
    (localLabels index operation).Nodup := by
  have roles : (localRoles operation).2.Nodup := by
    cases operation with
    | push literal => exact .nil
    | _ => decide
  refine List.pairwise_map.mpr (roles.imp fun different same => different ?_)
  exact List.append_cancel_left (localLabel_injective same).1

theorem nodup_defined_blocksFrom (index : Nat) (operations : List Operation) :
    (defined (blocksFrom index operations)).Nodup := by
  induction operations generalizing index with
  | nil => exact .nil
  | cons operation rest induction =>
      rw [blocksFrom, defined_append, defined_block]
      refine List.nodup_append.mpr ⟨nodup_localLabels index operation, induction _, ?_⟩
      rintro symbol member _ laterMember rfl
      obtain ⟨position, later, after, sameMember⟩ := mem_defined_blocksFrom laterMember
      obtain ⟨role, _, rfl⟩ := List.mem_map.mp member
      obtain ⟨otherRole, _, same⟩ := List.mem_map.mp sameMember
      have indices := (localLabel_injective same).2
      omega

theorem nodup_constantSymbols {pool : ConstantPool}
    (numbers : ∀ literal ∈ pool.literals, IsNumber literal) :
    (pool.literals.map constantSymbol).Nodup := by
  refine List.pairwise_map.mpr (pool.increasing.imp_of_mem ?_)
  intro left right leftMember rightMember less same
  have equal := constantSymbol_injective (numbers left leftMember) (numbers right rightMember) same
  exact List.lt_irrefl _ (equal ▸ less)

/-- The names that every file has. -/
def fixedSymbols : List Symbol :=
  Cell.all ++ Message.all ++ [entry] ++ Handler.all

theorem fixedSymbols_spec :
    fixedSymbols.Nodup ∧ ∀ symbol ∈ fixedSymbols,
      symbol.head? ≠ some 99 ∧ symbol.getLast?.any isDigit = false := by
  decide

theorem localLabels_spec {symbol : Symbol} {index : Nat} {operation : Operation}
    (member : symbol ∈ localLabels index operation) :
    symbol.head? ≠ some 99 ∧ symbol.getLast?.any isDigit = true := by
  obtain ⟨role, roleMember, rfl⟩ := List.mem_map.mp member
  refine ⟨?_, getLast?_localLabel _ _ _⟩
  cases operation with
  | power => exact fun same => absurd (Option.some.inj same) (by decide)
  | factorial => exact fun same => absurd (Option.some.inj same) (by decide)
  | _ => cases roleMember

/-- Constants begin with a letter of their own, and only local labels end with a digit. -/
theorem nodup_defined_lines (debug : Bool) {pool : ConstantPool} (operations : List Operation)
    (numbers : ∀ literal ∈ pool.literals, IsNumber literal) :
    (defined (lines debug pool operations)).Nodup := by
  have order : (defined (lines debug pool operations)).Perm
      (fixedSymbols ++
        (pool.literals.map constantSymbol ++ defined (blocksFrom 0 operations))) := by
    refine List.perm_iff_count.mpr fun symbol => ?_
    simp only [lines, defined_append, defined_header, defined_footer, fixedSymbols,
      List.count_append]
    omega
  refine order.nodup_iff.mpr (List.nodup_append.mpr ⟨fixedSymbols_spec.1, ?_, ?_⟩)
  · refine List.nodup_append.mpr
      ⟨nodup_constantSymbols numbers, nodup_defined_blocksFrom 0 operations, ?_⟩
    rintro symbol member _ localMember rfl
    obtain ⟨literal, _, rfl⟩ := List.mem_map.mp member
    obtain ⟨position, operation, _, labelMember⟩ := mem_defined_blocksFrom localMember
    exact (localLabels_spec labelMember).1 (head?_constantSymbol literal)
  · rintro symbol member _ otherMember rfl
    obtain ⟨noConstant, noLabel⟩ := fixedSymbols_spec.2 symbol member
    rcases List.mem_append.mp otherMember with constantMember | localMember
    · obtain ⟨literal, _, rfl⟩ := List.mem_map.mp constantMember
      exact noConstant (head?_constantSymbol literal)
    · obtain ⟨position, operation, _, labelMember⟩ := mem_defined_blocksFrom localMember
      exact Bool.noConfusion (noLabel.symm.trans (localLabels_spec labelMember).2)

/-! What the parts of a file use. -/

/-- Facts about what lines mention are facts about all that is mentioned. -/
theorem forall_mentioned {file : List Line} {mention : Line → List Symbol} {fits : Symbol → Prop}
    (all : ∀ symbol ∈ file.flatMap mention, fits symbol) :
    ∀ line ∈ file, ∀ symbol ∈ mention line, fits symbol :=
  fun line lineMember symbol member =>
    all symbol (List.mem_flatMap.mpr ⟨line, lineMember, member⟩)

theorem addressed_block (index : Nat) (operation : Operation) :
    ∀ line ∈ block index operation, ∀ symbol ∈ line.addressed,
      symbol ∈ Cell.all ∨
        ∃ literal, operation = .push literal ∧ symbol = constantSymbol literal := by
  refine forall_mentioned ?_
  have cells : ((block index operation).flatMap Line.addressed).all Cell.all.contains = true →
      ∀ symbol ∈ (block index operation).flatMap Line.addressed, symbol ∈ Cell.all :=
    fun all symbol member => by simpa using List.all_eq_true.mp all symbol member
  cases operation with
  | push literal =>
      have used : (block index (.push literal)).flatMap Line.addressed =
          [constantSymbol literal, Cell.depth] := rfl
      rw [used]
      intro symbol member
      rcases List.mem_cons.mp member with rfl | member
      · exact .inr ⟨literal, rfl, rfl⟩
      · exact .inl (List.mem_singleton.mp member ▸ by decide)
  | _ => exact fun symbol member => .inl (cells rfl symbol member)

/-- A block jumps to its own labels or to a handler. -/
theorem targets_block (index : Nat) (operation : Operation) :
    ∀ line ∈ block index operation, ∀ symbol ∈ line.targets,
      symbol ∈ Handler.all ∨ symbol ∈ localLabels index operation := by
  refine forall_mentioned ?_
  have handlers : ((block index operation).flatMap Line.targets).all Handler.all.contains = true →
      ∀ symbol ∈ (block index operation).flatMap Line.targets, symbol ∈ Handler.all :=
    fun all symbol member => by simpa using List.all_eq_true.mp all symbol member
  have failures : Handler.tooFew ∈ Handler.all ∧ Handler.overflow ∈ Handler.all := by decide
  cases operation with
  | power =>
      have used : (block index .power).flatMap Line.targets =
          [ Handler.tooFew, Handler.overflow, Handler.overflow,
            localLabel (ascii "power") (ascii "positive") index,
            localLabel (ascii "power") (ascii "store") index,
            localLabel (ascii "power") (ascii "store") index, Handler.overflow,
            localLabel (ascii "power") (ascii "loop") index ] := rfl
      rw [used]
      simp [localLabels, localRoles, failures]
  | factorial =>
      have used : (block index .factorial).flatMap Line.targets =
          [ Handler.tooFew, Handler.overflow,
            localLabel (ascii "factorial") (ascii "store") index, Handler.overflow,
            localLabel (ascii "factorial") (ascii "loop") index ] := rfl
      rw [used]
      simp [localLabels, localRoles, failures]
  | _ => exact fun symbol member => .inl (handlers rfl symbol member)

theorem calls_block (index : Nat) (operation : Operation) :
    ∀ line ∈ block index operation, line.calls = [] := by
  have none : (block index operation).flatMap Line.calls = [] := by cases operation <;> rfl
  exact List.flatMap_eq_nil_iff.mp none

/-- The part of a header that does not depend on the pool. -/
def fixedHeader (debug : Bool) : List Line :=
  preamble ++ cells ++ messages ++ start ++ debugBreak debug

theorem mem_constants {line : Line} {pool : ConstantPool} :
    line ∈ constants pool ↔
      (pool.literals ≠ [] ∧ line = .blank) ∨
        ∃ literal ∈ pool.literals, line = .datum (constantSymbol literal) (.double literal) := by
  unfold constants
  split
  · next none => simp [none]
  · next some =>
      have nonempty : pool.literals ≠ [] := fun none => some none
      simp [nonempty, or_comm, eq_comm]

theorem mem_header {line : Line} {debug : Bool} {pool : ConstantPool} :
    line ∈ header debug pool ↔
      line ∈ fixedHeader debug ∨
        ∃ literal ∈ pool.literals, line = .datum (constantSymbol literal) (.double literal) := by
  have blank : Line.blank ∈ preamble := by decide
  simp only [header, fixedHeader, List.mem_append, mem_constants]
  grind

/-- The header only clears the count of entries. -/
theorem header_spec {debug : Bool} {pool : ConstantPool} :
    ∀ line ∈ header debug pool,
      line.addressed ⊆ [Cell.depth] ∧ line.targets = [] ∧ line.calls = [] := by
  have fixed : ∀ line ∈ fixedHeader debug,
      line.addressed ⊆ [Cell.depth] ∧ line.targets = [] ∧ line.calls = [] := by
    cases debug <;> decide
  intro line member
  rcases mem_header.mp member with inside | ⟨literal, _, rfl⟩
  · exact fixed line inside
  · exact ⟨List.nil_subset _, rfl, rfl⟩

theorem footer_spec :
    (∀ line ∈ footer, ∀ symbol ∈ line.addressed, symbol ∈ Cell.all ++ Message.all) ∧
      (∀ line ∈ footer, ∀ symbol ∈ line.targets, symbol ∈ Handler.all) ∧
      ∀ line ∈ footer, ∀ symbol ∈ line.calls, symbol ∈ [ascii "printf", ascii "exit"] := by
  decide

/-! The lines of a file can be read back. -/

theorem isLegible_instr {instruction : Instr}
    (addressed : ∀ symbol ∈ (Line.instr instruction).addressed, isSymbol symbol = true)
    (targets : ∀ symbol ∈ (Line.instr instruction).targets,
      isSymbol symbol = true ∧ Operand.named.lookup symbol = none)
    (calls : ∀ symbol ∈ (Line.instr instruction).calls, isSymbol symbol = true) :
    (Line.instr instruction).isLegible = true := by
  refine List.all_eq_true.mpr fun operand member => ?_
  cases operand with
  | cell symbol => exact addressed symbol (List.mem_filterMap.mpr ⟨_, member, rfl⟩)
  | relative symbol => exact addressed symbol (List.mem_filterMap.mpr ⟨_, member, rfl⟩)
  | external symbol => exact calls symbol (List.mem_filterMap.mpr ⟨_, member, rfl⟩)
  | target symbol =>
      obtain ⟨valid, noName⟩ := targets symbol (List.mem_filterMap.mpr ⟨_, member, rfl⟩)
      simp [Operand.isLegible, valid, noName]
  | _ => rfl

theorem isSymbol_fixedSymbols :
    ∀ symbol ∈ fixedSymbols, isSymbol symbol = true ∧ Operand.named.lookup symbol = none := by
  decide

theorem isSymbol_localLabels {symbol : Symbol} {index : Nat} {operation : Operation}
    (member : symbol ∈ localLabels index operation) :
    isSymbol symbol = true ∧ Operand.named.lookup symbol = none := by
  obtain ⟨role, roleMember, rfl⟩ := List.mem_map.mp member
  refine ⟨?_, lookup_named_localLabel _ _ _⟩
  have inside : ∀ role ∈ (localRoles operation).2, ∀ byte ∈ role, isSymbolByte byte = true := by
    cases operation with
    | power => decide +kernel
    | factorial => decide +kernel
    | _ => simp [localRoles]
  refine isSymbol_localLabel index ?_ (inside role roleMember)
  cases operation with
  | power => decide
  | factorial => decide
  | _ => cases roleMember

theorem mem_code {line : Line} {index : Nat} {operation : Operation}
    (member : line ∈ code index operation) :
    (∃ symbol ∈ localLabels index operation, line = .label symbol) ∨
      ∃ instruction, line = .instr instruction := by
  have straight : ∀ {instructions}, line ∈ instrs instructions →
      ∃ instruction, line = .instr instruction := fun inside =>
    let ⟨instruction, _, equal⟩ := List.mem_map.mp inside
    ⟨instruction, equal.symm⟩
  cases operation with
  | power =>
      simp only [code, power, List.mem_append, List.mem_singleton] at member
      rcases member with (((((inside | rfl) | inside) | rfl) | inside) | rfl) | inside
      · exact .inr (straight inside)
      · exact .inl ⟨_, by simp [localLabels, localRoles], rfl⟩
      · exact .inr (straight inside)
      · exact .inl ⟨_, by simp [localLabels, localRoles], rfl⟩
      · exact .inr (straight inside)
      · exact .inl ⟨_, by simp [localLabels, localRoles], rfl⟩
      · exact .inr (straight inside)
  | factorial =>
      simp only [code, factorial, List.mem_append, List.mem_singleton] at member
      rcases member with (((inside | rfl) | inside) | rfl) | inside
      · exact .inr (straight inside)
      · exact .inl ⟨_, by simp [localLabels, localRoles], rfl⟩
      · exact .inr (straight inside)
      · exact .inl ⟨_, by simp [localLabels, localRoles], rfl⟩
      · exact .inr (straight inside)
  | _ => exact .inr (straight member)

theorem newline_not_mem_literal {literal : Bytes} (number : IsNumber literal) :
    Ascii.newline ∉ literal := by
  obtain ⟨magnitude, shape, written⟩ := exists_magnitude number
  have inside : Ascii.newline ∉ magnitude := fun member =>
    absurd (shape.2 _ member) (by decide)
  rcases written with rfl | rfl
  · exact inside
  · exact List.not_mem_cons_of_ne_of_not_mem (by decide) inside

theorem newline_not_mem_title {operation : Operation}
    (numbers : ∀ literal, operation = .push literal → IsNumber literal) :
    Ascii.newline ∉ title operation := by
  cases operation with
  | push literal =>
      exact List.not_mem_append (by decide) (newline_not_mem_literal (numbers literal rfl))
  | _ => decide

theorem isLegible_block {index : Nat} {operation : Operation}
    (numbers : ∀ literal, operation = .push literal → IsNumber literal) :
    ∀ line ∈ block index operation, line.isLegible = true := by
  intro line member
  rcases List.mem_cons.mp member with rfl | inside
  · rfl
  rcases List.mem_cons.mp inside with rfl | inside
  · simpa [Line.isLegible] using newline_not_mem_title numbers
  rcases mem_code inside with ⟨symbol, labelMember, rfl⟩ | ⟨instruction, rfl⟩
  · exact (isSymbol_localLabels labelMember).1
  refine isLegible_instr ?_ ?_ ?_
  · intro symbol used
    rcases addressed_block index operation _ member symbol used with cell | ⟨literal, rfl, rfl⟩
    · exact (isSymbol_fixedSymbols symbol (by simp [fixedSymbols, cell])).1
    · exact isSymbol_constantSymbol (numbers literal rfl)
  · intro symbol used
    rcases targets_block index operation _ member symbol used with handler | own
    · exact isSymbol_fixedSymbols symbol (by simp [fixedSymbols, handler])
    · exact isSymbol_localLabels own
  · rw [calls_block index operation _ member]
    simp

theorem isLegible_header {debug : Bool} {pool : ConstantPool}
    (numbers : ∀ literal ∈ pool.literals, IsNumber literal) :
    ∀ line ∈ header debug pool, line.isLegible = true := by
  have fixed : ∀ line ∈ fixedHeader debug, line.isLegible = true := by cases debug <;> decide
  intro line member
  rcases mem_header.mp member with inside | ⟨literal, literalMember, rfl⟩
  · exact fixed line inside
  · have number := numbers literal literalMember
    simp [Line.isLegible, isSymbol_constantSymbol number, newline_not_mem_literal number]

theorem isLegible_footer : ∀ line ∈ footer, line.isLegible = true := by
  decide

/-- A generated file is read back from its text. -/
theorem read?_render_lines (debug : Bool) {pool : ConstantPool} {operations : List Operation}
    (numbers : ∀ literal ∈ pool.literals, IsNumber literal)
    (pushed : ∀ literal, .push literal ∈ operations → literal ∈ pool.literals) :
    read? (render (lines debug pool operations)) = some (lines debug pool operations) := by
  refine read?_render fun line member => ?_
  simp only [lines, List.mem_append] at member
  rcases member with (inside | inside) | inside
  · exact isLegible_header numbers line inside
  · obtain ⟨position, operation, found, blockMember⟩ := mem_blocksFrom.mp inside
    refine isLegible_block ?_ line blockMember
    rintro literal rfl
    exact numbers literal (pushed literal (List.mem_of_getElem? found))
  · exact isLegible_footer line inside

/-! Every symbol that is used is defined. -/

theorem mem_lines_of_mem_header {debug : Bool} {pool : ConstantPool} {operations : List Operation}
    {line : Line} (member : line ∈ header debug pool) : line ∈ lines debug pool operations :=
  List.mem_append_left _ (List.mem_append_left _ member)

theorem exists_datum_mem_header (debug : Bool) (pool : ConstantPool) {symbol : Symbol}
    (member : symbol ∈ Cell.all ++ Message.all) :
    ∃ value, .datum symbol value ∈ header debug pool := by
  have data : Cell.all ++ Message.all = defined (cells ++ messages) := rfl
  rw [data] at member
  obtain ⟨line, lineMember, named⟩ := List.mem_filterMap.mp member
  cases line with
  | datum name value =>
      cases named
      refine ⟨value, mem_header.mpr (.inl ?_)⟩
      simp only [fixedHeader, List.mem_append] at lineMember ⊢
      grind
  | label name => simp [cells, messages] at lineMember
  | _ => cases named

theorem datum_mem_header (debug : Bool) {pool : ConstantPool} {literal : Bytes}
    (member : literal ∈ pool.literals) :
    .datum (constantSymbol literal) (.double literal) ∈ header debug pool :=
  mem_header.mpr (.inr ⟨literal, member, rfl⟩)

theorem label_mem_footer : ∀ symbol ∈ Handler.all, .label symbol ∈ footer := by
  decide

theorem label_mem_block {symbol : Symbol} {index : Nat} {operation : Operation}
    (member : symbol ∈ localLabels index operation) : .label symbol ∈ block index operation := by
  cases operation with
  | power =>
      simp only [localLabels, localRoles, List.map_cons, List.map_nil, List.mem_cons,
        List.not_mem_nil, or_false] at member
      rcases member with rfl | rfl | rfl <;> simp [block, code, power]
  | factorial =>
      simp only [localLabels, localRoles, List.map_cons, List.map_nil, List.mem_cons,
        List.not_mem_nil, or_false] at member
      rcases member with rfl | rfl <;> simp [block, code, factorial]
  | _ => cases member

theorem isClosed_lines (debug : Bool) {pool : ConstantPool} {operations : List Operation}
    (numbers : ∀ literal ∈ pool.literals, IsNumber literal)
    (pushed : ∀ literal, .push literal ∈ operations → literal ∈ pool.literals) :
    IsClosed (lines debug pool operations) := by
  have inFooter : ∀ line ∈ footer, line ∈ lines debug pool operations :=
    fun line member => by simp [lines, member]
  have inBlocks : ∀ line ∈ blocksFrom 0 operations, line ∈ lines debug pool operations :=
    fun line member => by simp [lines, member]
  have cells : ∀ symbol ∈ Cell.all ++ Message.all,
      ∃ value, .datum symbol value ∈ lines debug pool operations := by
    intro symbol member
    obtain ⟨value, inside⟩ := exists_datum_mem_header debug pool member
    exact ⟨value, mem_lines_of_mem_header inside⟩
  refine ⟨nodup_defined_lines debug operations numbers, ?_, ?_, ?_⟩
  · intro line member symbol used
    simp only [lines, List.mem_append] at member
    rcases member with (inside | inside) | inside
    · have depth := (header_spec line inside).1 used
      exact cells symbol (List.mem_singleton.mp depth ▸ by decide)
    · obtain ⟨position, operation, found, blockMember⟩ := mem_blocksFrom.mp inside
      rcases addressed_block _ operation line blockMember symbol used with
        cell | ⟨literal, rfl, rfl⟩
      · exact cells symbol (List.mem_append_left _ cell)
      · have literalMember := pushed literal (List.mem_of_getElem? found)
        exact ⟨_, mem_lines_of_mem_header (datum_mem_header debug literalMember)⟩
    · exact cells symbol (footer_spec.1 line inside symbol used)
  · intro line member symbol used
    simp only [lines, List.mem_append] at member
    rcases member with (inside | inside) | inside
    · rw [(header_spec line inside).2.1] at used
      cases used
    · obtain ⟨position, operation, found, blockMember⟩ := mem_blocksFrom.mp inside
      rcases targets_block _ operation line blockMember symbol used with handler | own
      · exact inFooter _ (label_mem_footer symbol handler)
      · exact inBlocks _ (mem_blocksFrom.mpr ⟨position, operation, found, label_mem_block own⟩)
    · exact inFooter _ (label_mem_footer symbol (footer_spec.2.1 line inside symbol used))
  · intro line member symbol used
    simp only [lines, List.mem_append] at member
    rcases member with (inside | inside) | inside
    · rw [(header_spec line inside).2.2] at used
      cases used
    · obtain ⟨position, operation, found, blockMember⟩ := mem_blocksFrom.mp inside
      rw [calls_block _ operation line blockMember] at used
      cases used
    · exact footer_spec.2.2 line inside symbol used

/-- The symbols of the text of a compiled expression.  Every symbol is defined once, and every one
that is used is defined.  The block of a pushed literal loads a symbol that stands for this literal
only, and a block jumps to labels of its own or to a shared handler. -/
theorem compiled_symbols_are_closed {debug : Bool} {expression : Bytes} {compilation : Compilation}
    (compiled : compile debug expression = .ok compilation) :
    ∃ file operations,
      Assembly.read? compilation.assembly = some file ∧
      Operation.ofInstructions compilation.program.instructions = .ok operations ∧
      file = header debug compilation.program.constants ++ blocksFrom 0 operations ++ footer ∧
      IsClosed file ∧
      (∀ index literal, operations[index]? = some (.push literal) →
        (∀ target symbol, .instr (.load target symbol) ∈ block index (.push literal) ↔
          target = .rax ∧ symbol = constantSymbol literal) ∧
        (∀ value, .datum (constantSymbol literal) value ∈ file ↔ value = .double literal) ∧
        ∀ other, .push other ∈ operations → constantSymbol other = constantSymbol literal →
          other = literal) ∧
      ∀ index operation, operations[index]? = some operation →
        block index operation <:+: file ∧
        ∀ line ∈ block index operation, ∀ target ∈ line.targets,
          .label target ∈ block index operation ∨ target ∈ Handler.all := by
  obtain ⟨_, _, operations, checked, text⟩ := Compilation.parts_of_compile compiled
  have numbers := Compilation.isNumber_of_mem_constants compiled
  have pushed : ∀ literal, .push literal ∈ operations →
      literal ∈ compilation.program.constants.literals := fun literal member =>
    Compilation.mem_constants_of_push_mem compiled checked member
  have closed := isClosed_lines debug numbers pushed
  refine ⟨_, operations, text ▸ read?_render_lines debug numbers pushed, checked, rfl, closed,
    ?_, ?_⟩
  · intro index literal found
    have literalMember := pushed literal (List.mem_of_getElem? found)
    have stored : .datum (constantSymbol literal) (.double literal) ∈
        lines debug compilation.program.constants operations :=
      mem_lines_of_mem_header (datum_mem_header debug literalMember)
    refine ⟨fun target symbol => ?_, fun value => ⟨fun member => ?_, fun equal => ?_⟩, ?_⟩
    · simp [block, code, push, pushFrom, instrs]
    · have same := eq_of_defined closed.once member stored rfl rfl
      exact (Line.datum.inj same).2
    · rw [equal]
      exact stored
    · intro other otherMember same
      exact constantSymbol_injective (numbers other (pushed other otherMember))
        (numbers literal literalMember) same
  · intro index operation found
    have inside := block_infix_blocksFrom 0 found
    rw [Nat.zero_add] at inside
    refine ⟨inside.trans (List.infix_append _ _ _), fun line member target used => ?_⟩
    rcases targets_block index operation line member target used with handler | own
    · exact .inr handler
    · exact .inl (label_mem_block own)

theorem compiled_symbols_are_closed_power :
    ∃ compilation file, compile true (ascii "2 -2 dup ^ swap !") = .ok compilation ∧
      Assembly.read? compilation.assembly = some file ∧ IsClosed file := by
  have succeeds : (compile true (ascii "2 -2 dup ^ swap !")).toOption.isSome = true := by
    decide +kernel
  cases compiled : compile true (ascii "2 -2 dup ^ swap !") with
  | error fault =>
      rw [compiled] at succeeds
      cases succeeds
  | ok compilation =>
      obtain ⟨file, _, text, _, _, closed, _⟩ := compiled_symbols_are_closed compiled
      exact ⟨compilation, file, rfl, text, closed⟩

end Rpn.Codegen
