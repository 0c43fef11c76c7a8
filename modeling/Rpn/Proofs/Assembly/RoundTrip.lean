import Rpn.Assembly.Reader
import Rpn.Proofs.Token.Shape

/-! Assembly lines are read back from their text.  A line is legible if its symbols are symbols
and its free texts do not end the line. -/

namespace Rpn.Assembly

/-- A jump target must not be taken for a register. -/
def Operand.isLegible : Operand → Bool
  | cell symbol | relative symbol | external symbol => isSymbol symbol
  | target symbol => isSymbol symbol && (Operand.named.lookup symbol).isNone
  | register _ | half _ | statusWord | statusHigh | stackPointer | vector | value _ => true

def Instr.isLegible (instruction : Instr) : Bool :=
  instruction.operands.all Operand.isLegible

def Line.isLegible : Line → Bool
  | heading text | remark text => !text.contains Ascii.newline
  | directive (.global symbol) | label symbol => isSymbol symbol
  | datum symbol (.double literal) => isSymbol symbol && !literal.contains Ascii.newline
  | datum symbol _ => isSymbol symbol
  | instr instruction => instruction.isLegible
  | blank | directive _ => true

theorem mapM_map_eq_some {α β : Type} {image : α → β} {inverse : β → Option α} {items : List α}
    (inverts : ∀ item ∈ items, inverse (image item) = some item) :
    (items.map image).mapM inverse = some items := by
  induction items with
  | nil => rfl
  | cons item items induction =>
      rw [List.map_cons, List.mapM_cons, inverts item (by simp),
        induction fun other member => inverts other (List.mem_cons_of_mem _ member)]
      rfl

/-! Beginnings and ends of texts. -/

theorem after?_append (beginning text : Bytes) :
    after? beginning (beginning ++ text) = some text := by
  simp [after?]

theorem after?_eq_none {byte : UInt8} {beginning text : Bytes} (member : byte ∈ beginning)
    (missing : byte ∉ text) : after? beginning text = none := by
  unfold after?
  split
  · next start =>
      obtain ⟨rest, rfl⟩ := List.isPrefixOf_iff_prefix.mp start
      exact absurd (List.mem_append_left rest member) missing
  · rfl

theorem before?_append (text ending : Bytes) : before? ending (text ++ ending) = some text := by
  simp [before?, after?_append]

theorem before?_eq_none {byte : UInt8} {ending text : Bytes} (member : byte ∈ ending)
    (missing : byte ∉ text) : before? ending text = none := by
  rw [before?, after?_eq_none (List.mem_reverse.mpr member) (by simpa using missing)]
  rfl

theorem between?_append (beginning text ending : Bytes) :
    between? beginning ending (beginning ++ text ++ ending) = some text := by
  rw [between?, List.append_assoc, after?_append]
  exact before?_append text ending

theorem between?_eq_none {byte : UInt8} {beginning text : Bytes} (ending : Bytes)
    (member : byte ∈ beginning) (missing : byte ∉ text) :
    between? beginning ending text = none := by
  rw [between?, after?_eq_none member missing]
  rfl

/-! Symbols. -/

theorem isSymbol_iff {text : Bytes} :
    isSymbol text = true ↔
      text ≠ [] ∧ startsWithDigit text = false ∧ ∀ byte ∈ text, isSymbolByte byte = true := by
  simp [isSymbol, and_assoc]

theorem symbol?_of_isSymbol {text : Bytes} (symbol : isSymbol text = true) :
    symbol? text = some text := by
  simp [symbol?, symbol]

/-- The bytes that separate symbols from what surrounds them. -/
def separators : Bytes :=
  ascii "\t\n #,-.:@[]"

theorem isSymbolByte_of_mem_separators {byte : UInt8} (member : byte ∈ separators) :
    isSymbolByte byte = false := by
  have all : ∀ byte ∈ separators, isSymbolByte byte = false := by decide +kernel
  exact all byte member

theorem not_mem_of_isSymbol {byte : UInt8} {symbol : Bytes} (valid : isSymbol symbol = true)
    (separator : byte ∈ separators) : byte ∉ symbol := by
  intro member
  have inside := (isSymbol_iff.mp valid).2.2 byte member
  rw [isSymbolByte_of_mem_separators separator] at inside
  cases inside

theorem exists_cons_of_isSymbol {symbol : Bytes} (valid : isSymbol symbol = true) :
    ∃ first rest, symbol = first :: rest ∧ isSymbolByte first = true ∧ isDigit first = false := by
  obtain ⟨nonempty, noDigit, inside⟩ := isSymbol_iff.mp valid
  cases symbol with
  | nil => exact absurd rfl nonempty
  | cons first rest => exact ⟨first, rest, rfl, inside first (by simp), noDigit⟩

/-! Integers. -/

theorem integer?_eq_none {first : UInt8} (notMinus : first ≠ Ascii.minus)
    (noDigit : isDigit first = false) (rest : Bytes) : integer? (first :: rest) = none := by
  unfold integer?
  split
  · next equal => exact absurd (List.cons.inj equal).1 notMinus
  · simp [Bytes.toNat?, noDigit]

theorem integer?_ofNat (number : Nat) : integer? (.ofNat number) = some (number : Int) := by
  obtain ⟨first, rest, equal, digit⟩ := (Token.IsDigits.ofNat number).exists_cons
  have value := Bytes.toNat?_ofNat number
  rw [equal] at value ⊢
  unfold integer?
  split
  · next minus =>
      rw [(List.cons.inj minus).1] at digit
      exact absurd digit (by decide)
  · rw [value]
    rfl

theorem integer?_ofInt (number : Int) : integer? (.ofInt number) = some number := by
  cases number with
  | ofNat number => exact integer?_ofNat number
  | negSucc number =>
      have value : integer? (.ofInt (.negSucc number)) =
          (Bytes.toNat? (.ofNat (number + 1))).map fun digits => -(digits : Int) := rfl
      rw [value, Bytes.toNat?_ofNat]
      rfl

/-! Operands. -/

namespace Operand

theorem lookup_named_eq_none {text : Bytes} {byte : UInt8} (member : byte ∈ text)
    (missing : ∀ entry ∈ named, byte ∉ entry.1) : named.lookup text = none := by
  refine List.lookup_eq_none_iff.mpr fun entry entryMember => bne_iff_ne.mpr ?_
  rintro rfl
  exact missing entry entryMember member

theorem lookup_named_value (number : Int) : named.lookup (render (value number)) = none := by
  cases number with
  | ofNat number =>
      have all : ∀ entry ∈ named, startsWithDigit entry.1 = false := by decide
      have digit := (Token.IsDigits.ofNat number).startsWithDigit_append []
      rw [List.append_nil] at digit
      refine List.lookup_eq_none_iff.mpr fun entry member => bne_iff_ne.mpr ?_
      intro equal
      have noDigit := all entry member
      rw [← equal] at noDigit
      exact Bool.noConfusion (noDigit.symm.trans digit)
  | negSucc number =>
      have all : ∀ entry ∈ named, Ascii.minus ∉ entry.1 := by decide
      exact lookup_named_eq_none (List.mem_cons_self ..) all

theorem read?_value (number : Int) : read? (render (value number)) = some (value number) := by
  have integer : integer? (render (value number)) = some number := integer?_ofInt number
  unfold read?
  rw [lookup_named_value number, integer]
  rfl

/-- The text of a symbol operand is neither a name nor an integer. -/
theorem lookup_named_of_bracket {text : Bytes} (bracket : Ascii.closeBracket ∈ text) :
    named.lookup text = none := by
  have all : ∀ entry ∈ named, Ascii.closeBracket ∉ entry.1 := by decide
  exact lookup_named_eq_none bracket all

theorem read?_cell {symbol : Symbol} (valid : isSymbol symbol = true) :
    read? (render (cell symbol)) = some (cell symbol) := by
  have noName : named.lookup (render (cell symbol)) = none :=
    lookup_named_of_bracket (List.mem_append_right _ (by decide))
  have noInteger : integer? (render (cell symbol)) = none :=
    integer?_eq_none (by decide) (by decide) _
  unfold read?
  rw [noName, noInteger, render, between?_append]
  simp [symbol?_of_isSymbol valid]

theorem read?_relative {symbol : Symbol} (valid : isSymbol symbol = true) :
    read? (render (relative symbol)) = some (relative symbol) := by
  have noName : named.lookup (render (relative symbol)) = none :=
    lookup_named_of_bracket (List.mem_append_right _ (by decide))
  have noInteger : integer? (render (relative symbol)) = none :=
    integer?_eq_none (by decide) (by decide) _
  have noCell :
      between? (ascii "qword ptr [rip + ") (ascii "]") (render (relative symbol)) = none :=
    rfl
  unfold read?
  rw [noName, noInteger, noCell, render, between?_append]
  simp [symbol?_of_isSymbol valid]

/-- The text of a jump target or a function has no brackets and begins with no digit or sign. -/
theorem read?_plain {symbol : Symbol} (valid : isSymbol symbol = true) (suffix : Bytes)
    (noName : named.lookup (symbol ++ suffix) = none) (noBracket : Ascii.openBracket ∉ suffix) :
    read? (symbol ++ suffix) =
      ((before? (ascii "@PLT") (symbol ++ suffix) >>= symbol?).map external <|>
        (symbol? (symbol ++ suffix)).map target) := by
  obtain ⟨first, rest, split, inside, noDigit⟩ := exists_cons_of_isSymbol valid
  have notMinus : first ≠ Ascii.minus := by
    rintro rfl
    cases inside
  have noInteger : integer? (symbol ++ suffix) = none := by
    rw [split]
    exact integer?_eq_none notMinus noDigit _
  have missing : Ascii.openBracket ∉ symbol ++ suffix := by
    simp only [List.mem_append, not_or]
    exact ⟨not_mem_of_isSymbol valid (by decide), noBracket⟩
  unfold read?
  rw [noName, noInteger, between?_eq_none _ (by decide) missing,
    between?_eq_none _ (by decide) missing]
  rfl

theorem read?_external {symbol : Symbol} (valid : isSymbol symbol = true) :
    read? (render (external symbol)) = some (external symbol) := by
  have all : ∀ entry ∈ named, Ascii.atSign ∉ entry.1 := by decide
  have noName : named.lookup (symbol ++ ascii "@PLT") = none :=
    lookup_named_eq_none (List.mem_append_right _ (by decide)) all
  rw [render, read?_plain valid _ noName (by decide), before?_append]
  simp [symbol?_of_isSymbol valid]

theorem read?_target {symbol : Symbol} (valid : isSymbol symbol = true)
    (noName : named.lookup symbol = none) :
    read? (render (target symbol)) = some (target symbol) := by
  have noSign : Ascii.atSign ∉ symbol := not_mem_of_isSymbol valid (by decide)
  have plain := read?_plain valid [] (by rwa [List.append_nil]) (by simp)
  rw [List.append_nil, before?_eq_none (by decide) noSign, symbol?_of_isSymbol valid] at plain
  exact plain

/-- A legible operand is read back. -/
theorem read?_render (operand : Operand) (legible : operand.isLegible = true) :
    read? operand.render = some operand := by
  cases operand with
  | register general => cases general <;> rfl
  | half low => cases low <;> rfl
  | statusWord => rfl
  | statusHigh => rfl
  | stackPointer => rfl
  | vector => rfl
  | value number => exact read?_value number
  | cell symbol => exact read?_cell legible
  | relative symbol => exact read?_relative legible
  | target symbol =>
      obtain ⟨valid, noName⟩ := Bool.and_eq_true_iff.mp legible
      exact read?_target valid (Option.isNone_iff_eq_none.mp noName)
  | external symbol => exact read?_external legible

/-- Operands have no commas and do not end the line. -/
theorem not_mem_render {byte : UInt8} (ends : byte = Ascii.comma ∨ byte = Ascii.newline)
    (operand : Operand) (legible : operand.isLegible = true) : byte ∉ operand.render := by
  have separator : byte ∈ separators := by rcases ends with rfl | rfl <;> decide
  have around : ∀ text ∈ [ascii "qword ptr [rip + ", ascii "[rip + ", ascii "]", ascii "@PLT"],
      byte ∉ text := by rcases ends with rfl | rfl <;> decide
  have noSymbol : ∀ symbol, isSymbol symbol = true → byte ∉ symbol := fun symbol valid =>
    not_mem_of_isSymbol valid separator
  cases operand with
  | register general => rcases ends with rfl | rfl <;> cases general <;> decide
  | half low => rcases ends with rfl | rfl <;> cases low <;> decide
  | statusWord => rcases ends with rfl | rfl <;> decide
  | statusHigh => rcases ends with rfl | rfl <;> decide
  | stackPointer => rcases ends with rfl | rfl <;> decide
  | vector => rcases ends with rfl | rfl <;> decide
  | value number =>
      have noDigit : isDigit byte = false := by rcases ends with rfl | rfl <;> decide
      have notMinus : byte ≠ Ascii.minus := by rcases ends with rfl | rfl <;> decide
      have noNumeral : ∀ natural, byte ∉ Bytes.ofNat natural := fun natural member =>
        Bool.noConfusion (noDigit.symm.trans (Bytes.isDigit_of_mem_ofNat member))
      cases number with
      | ofNat natural => exact noNumeral natural
      | negSucc natural => exact List.not_mem_cons_of_ne_of_not_mem notMinus (noNumeral _)
  | cell symbol => simp [render, around, noSymbol symbol legible]
  | relative symbol => simp [render, around, noSymbol symbol legible]
  | target symbol => exact noSymbol symbol (Bool.and_eq_true_iff.mp legible).1
  | external symbol => simp [render, around, noSymbol symbol legible]

end Operand

/-! Instructions. -/

namespace Instr

/-- An instruction is determined by its mnemonic and its operands. -/
theorem ofParts?_operands (instruction : Instr) :
    ofParts? instruction.mnemonic instruction.operands = some instruction := by
  cases instruction with
  | jumpIf condition target => cases condition <;> rfl
  | floatBinary operation cell => cases operation <;> rfl
  | floatUnary operation => cases operation <;> rfl
  | _ => rfl

/-- Mnemonics are spelled like symbols. -/
theorem isSymbol_mnemonic (instruction : Instr) : isSymbol instruction.mnemonic = true := by
  cases instruction with
  | jumpIf condition target => cases condition <;> rfl
  | floatBinary operation cell => cases operation <;> rfl
  | floatUnary operation => cases operation <;> rfl
  | _ => rfl

theorem splitOn_renderOperands (first : Operand) (rest : List Operand)
    (legible : ∀ operand ∈ first :: rest, operand.isLegible = true) :
    (renderOperands (first :: rest)).splitOn Ascii.comma =
      (first :: rest).map fun operand => Ascii.space :: operand.render := by
  have noComma : Ascii.comma ∉ Ascii.space :: first.render :=
    List.not_mem_cons_of_ne_of_not_mem (by decide)
      (first.not_mem_render (.inl rfl) (legible first (by simp)))
  induction rest generalizing first with
  | nil => exact List.splitOn_eq_singleton noComma
  | cons second rest induction =>
      have split : renderOperands (first :: second :: rest) =
          (Ascii.space :: first.render) ++ Ascii.comma :: renderOperands (second :: rest) := rfl
      have later : ∀ operand ∈ second :: rest, operand.isLegible = true :=
        fun operand member => legible operand (List.mem_cons_of_mem _ member)
      have noCommaLater : Ascii.comma ∉ Ascii.space :: second.render :=
        List.not_mem_cons_of_ne_of_not_mem (by decide)
          (second.not_mem_render (.inl rfl) (later second (by simp)))
      rw [split, List.splitOn_append_cons_self_of_not_mem noComma,
        induction second later noCommaLater]
      rfl

theorem readOperands?_render {operands : List Operand}
    (legible : ∀ operand ∈ operands, operand.isLegible = true) :
    readOperands? (renderOperands operands) = some operands := by
  cases operands with
  | nil => rfl
  | cons first rest =>
      have nonempty : renderOperands (first :: rest) ≠ [] := by
        cases rest <;> exact List.cons_ne_nil _ _
      rw [readOperands?, if_neg nonempty, splitOn_renderOperands first rest legible]
      exact mapM_map_eq_some fun operand member =>
        operand.read?_render (legible operand member)

/-- Operands stand after a blank, which no mnemonic has. -/
theorem takeWhile_render (instruction : Instr) :
    instruction.render.takeWhile (· != Ascii.space) = instruction.mnemonic := by
  refine Token.takeWhile_run ?_ ?_
  · intro byte member
    refine bne_iff_ne.mpr ?_
    rintro rfl
    exact not_mem_of_isSymbol instruction.isSymbol_mnemonic (by decide) member
  · intro byte tail equal
    match operands : instruction.operands with
    | [] =>
        rw [operands] at equal
        cases equal
    | first :: rest =>
        rw [operands] at equal
        cases rest <;> cases equal <;> rfl

/-- A legible instruction is read back. -/
theorem read?_render (instruction : Instr) (legible : instruction.isLegible = true) :
    read? instruction.render = some instruction := by
  have operands : instruction.render.drop instruction.mnemonic.length =
      renderOperands instruction.operands := List.drop_left
  rw [read?, takeWhile_render, operands, readOperands?_render (List.all_eq_true.mp legible)]
  exact ofParts?_operands instruction

theorem newline_not_mem_renderOperands {operands : List Operand}
    (legible : ∀ operand ∈ operands, operand.isLegible = true) :
    Ascii.newline ∉ renderOperands operands := by
  have apart : Ascii.newline ≠ Ascii.space ∧ Ascii.newline ≠ Ascii.comma := by decide
  induction operands with
  | nil => simp [renderOperands]
  | cons first rest induction =>
      have noFirst := first.not_mem_render (.inr rfl) (legible first (by simp))
      have noRest := induction fun operand member =>
        legible operand (List.mem_cons_of_mem _ member)
      cases rest with
      | nil => simp [renderOperands, noFirst, apart]
      | cons second rest => simp [renderOperands, noFirst, noRest, apart]

theorem newline_not_mem_render (instruction : Instr) (legible : instruction.isLegible = true) :
    Ascii.newline ∉ instruction.render := by
  refine List.not_mem_append ?_ ?_
  · exact not_mem_of_isSymbol instruction.isSymbol_mnemonic (by decide)
  · exact newline_not_mem_renderOperands (List.all_eq_true.mp legible)

end Instr

/-! Data. -/

theorem unescape?_escape (byte : UInt8) (rest : Bytes) :
    unescape? (escape byte ++ rest) = (unescape? rest).map (byte :: ·) := by
  unfold escape
  split
  · next equal =>
      subst equal
      rfl
  · split
    · next special =>
        rcases special with rfl | rfl <;> rfl
    · next plain =>
        rw [List.singleton_append, unescape?.eq_def]
        split
        · next equal => cases equal
        · next equal =>
            exact absurd (.inr (List.cons.inj equal).1) plain
        · next equal =>
            obtain ⟨rfl, rfl⟩ := List.cons.inj equal
            rw [if_neg plain]

theorem unescape?_flatMap_escape (content : Bytes) :
    unescape? (content.flatMap escape) = some content := by
  induction content with
  | nil => rfl
  | cons byte content induction =>
      rw [List.flatMap_cons, unescape?_escape, induction]
      rfl

theorem newline_not_mem_escape (byte : UInt8) : Ascii.newline ∉ escape byte := by
  unfold escape
  split
  · decide
  · next notNewline =>
      have notBackslash : Ascii.newline ≠ Ascii.backslash := by decide
      split
      · simp [Ne.symm notNewline, notBackslash]
      · simp [Ne.symm notNewline]

theorem Datum.read?_render (value : Datum) : read? value.render = some value := by
  cases value with
  | double literal =>
      rw [render, read?, after?_append]
      rfl
  | quad number =>
      have noDouble : after? (ascii ".double ") (render (quad number)) = none := rfl
      rw [read?, noDouble, render, after?_append]
      simp
  | text content =>
      have noDouble : after? (ascii ".double ") (render (text content)) = none := rfl
      have noQuad : after? (ascii ".quad ") (render (text content)) = none := rfl
      rw [read?, noDouble, noQuad, render, between?_append]
      simp [unescape?_flatMap_escape]

/-! Lines. -/

namespace Line

theorem read?_directive (order : Directive) (legible : (directive order).isLegible = true) :
    read? (render (directive order)) = some (directive order) := by
  cases order with
  | «global» symbol =>
      have found : read? (render (directive (.global symbol))) =
          ((symbol? symbol).map Directive.global).map directive := rfl
      rw [found, symbol?_of_isSymbol legible]
      rfl
  | _ => rfl

/-- No other line begins like a symbol. -/
theorem read?_symbol {symbol : Symbol} (valid : isSymbol symbol = true) (rest : Bytes) :
    read? (symbol ++ rest) = readNamed? (symbol ++ rest) := by
  obtain ⟨first, others, rfl, inside, _⟩ := exists_cons_of_isSymbol valid
  have other : ∀ separator ∈ separators, first ≠ separator := by
    rintro separator member rfl
    exact Bool.noConfusion (inside.symm.trans (isSymbolByte_of_mem_separators member))
  rw [List.cons_append]
  unfold read?
  split
  · next equal => cases equal
  · next equal => exact absurd (List.cons.inj equal).1 (other Ascii.hash (by decide))
  · next equal => exact absurd (List.cons.inj equal).1 (other Ascii.tab (by decide))
  · next equal => exact absurd (List.cons.inj equal).1 (other Ascii.tab (by decide))
  · next equal => exact absurd (List.cons.inj equal).1 (other Ascii.dot (by decide))
  · rfl

/-- A symbol reaches up to the colon. -/
theorem takeWhile_symbol {symbol : Symbol} (valid : isSymbol symbol = true) (rest : Bytes) :
    (symbol ++ Ascii.colon :: rest).takeWhile (· != Ascii.colon) = symbol := by
  refine Token.takeWhile_run ?_ ?_
  · intro byte member
    refine bne_iff_ne.mpr ?_
    rintro rfl
    exact not_mem_of_isSymbol valid (by decide) member
  · intro byte tail equal
    cases equal
    rfl

theorem read?_label {symbol : Symbol} (valid : isSymbol symbol = true) :
    read? (render (label symbol)) = some (label symbol) := by
  have split : render (label symbol) = symbol ++ [Ascii.colon] := rfl
  rw [split, read?_symbol valid, readNamed?, takeWhile_symbol valid, symbol?_of_isSymbol valid,
    List.drop_left]
  rfl

theorem read?_datum {symbol : Symbol} (valid : isSymbol symbol = true) (value : Datum) :
    read? (render (datum symbol value)) = some (datum symbol value) := by
  have split : render (datum symbol value) =
      symbol ++ Ascii.colon :: Ascii.space :: value.render := by
    rw [render, List.append_assoc]
    rfl
  obtain ⟨first, rest, equal⟩ : ∃ first rest, value.render = first :: rest := by
    cases value <;> exact ⟨_, _, rfl⟩
  have found := value.read?_render
  rw [equal] at split found
  rw [split, read?_symbol valid, readNamed?, takeWhile_symbol valid, symbol?_of_isSymbol valid,
    List.drop_left]
  change (Datum.read? (first :: rest)).bind (fun other => some (datum symbol other)) = _
  rw [found]
  rfl

theorem read?_tab {text : Bytes} (noRemark : ∀ rest, text ≠ Ascii.hash :: rest) :
    read? (Ascii.tab :: text) = (Instr.read? text).map instr := by
  unfold read?
  split
  · next equal => cases equal
  · next equal => exact absurd (List.cons.inj equal).1 (by decide)
  · next equal => exact absurd (List.cons.inj equal).2 (noRemark _)
  · next equal => rw [(List.cons.inj equal).2]
  · next equal => exact absurd (List.cons.inj equal).1 (by decide)
  · next other _ => exact absurd rfl (other text)

theorem read?_instr (instruction : Instr) (legible : instruction.isLegible = true) :
    read? (render (instr instruction)) = some (instr instruction) := by
  obtain ⟨first, others, equal, inside, _⟩ :=
    exists_cons_of_isSymbol instruction.isSymbol_mnemonic
  have noRemark : ∀ rest, instruction.render ≠ Ascii.hash :: rest := by
    intro rest remark
    rw [Instr.render, equal] at remark
    rw [(List.cons.inj remark).1] at inside
    cases inside
  rw [render, read?_tab noRemark, instruction.read?_render legible]
  rfl

/-- A legible line is read back. -/
theorem read?_render (line : Line) (legible : line.isLegible = true) :
    read? line.render = some line := by
  cases line with
  | blank => rfl
  | heading text => rfl
  | remark text => rfl
  | directive order => exact read?_directive order legible
  | datum symbol value =>
      cases value with
      | double literal => exact read?_datum (Bool.and_eq_true_iff.mp legible).1 _
      | quad number => exact read?_datum legible _
      | text content => exact read?_datum legible _
  | label symbol => exact read?_label legible
  | instr instruction => exact read?_instr instruction legible

theorem newline_not_mem_datum {symbol : Symbol} (valid : isSymbol symbol = true) {value : Datum}
    (oneLine : Ascii.newline ∉ value.render) :
    Ascii.newline ∉ render (datum symbol value) := by
  have noSymbol := not_mem_of_isSymbol valid (show Ascii.newline ∈ separators by decide)
  have noColon : Ascii.newline ∉ ascii ": " := by decide
  simp [render, noSymbol, noColon, oneLine]

/-- A legible line has no end of a line inside. -/
theorem newline_not_mem_render (line : Line) (legible : line.isLegible = true) :
    Ascii.newline ∉ line.render := by
  have separator : Ascii.newline ∈ separators := by decide
  have start : Ascii.newline ≠ Ascii.tab ∧ Ascii.newline ≠ Ascii.hash ∧
    Ascii.newline ≠ Ascii.space := by decide
  cases line with
  | blank => simp [render]
  | heading text =>
      have oneLine : Ascii.newline ∉ text := by simpa [isLegible] using legible
      simp [render, oneLine, start]
  | remark text =>
      have oneLine : Ascii.newline ∉ text := by simpa [isLegible] using legible
      simp [render, oneLine, start]
  | directive order =>
      cases order with
      | «global» symbol =>
          exact List.not_mem_append (by decide) (not_mem_of_isSymbol legible separator)
      | _ => decide
  | datum symbol value =>
      cases value with
      | double literal =>
          obtain ⟨valid, oneLine⟩ := Bool.and_eq_true_iff.mp legible
          exact newline_not_mem_datum valid
            (List.not_mem_append (by decide) (by simpa using oneLine))
      | quad number =>
          refine newline_not_mem_datum legible (List.not_mem_append (by decide) ?_)
          intro member
          exact absurd (Bytes.isDigit_of_mem_ofNat member) (by decide)
      | text content =>
          refine newline_not_mem_datum legible
            (List.not_mem_append (List.not_mem_append (by decide) ?_) (by decide))
          intro member
          obtain ⟨byte, _, inside⟩ := List.mem_flatMap.mp member
          exact newline_not_mem_escape byte inside
  | label symbol => exact List.not_mem_append (not_mem_of_isSymbol legible separator) (by decide)
  | instr instruction =>
      exact List.not_mem_cons_of_ne_of_not_mem start.1 (instruction.newline_not_mem_render legible)

end Line

/-- Legible lines are read back from the text of their file. -/
theorem read?_render {lines : List Line} (legible : ∀ line ∈ lines, line.isLegible = true) :
    read? (render lines) = some lines := by
  have split : (render lines).splitOn Ascii.newline = lines.map Line.render ++ [[]] := by
    induction lines with
    | nil => rfl
    | cons line lines induction =>
        have later : ∀ other ∈ lines, other.isLegible = true :=
          fun other member => legible other (List.mem_cons_of_mem _ member)
        have noNewline := line.newline_not_mem_render (legible line (by simp))
        have join : render (line :: lines) = line.render ++ Ascii.newline :: render lines := by
          simp [render, Bytes.line]
        rw [join, List.splitOn_append_cons_self_of_not_mem noNewline, induction later]
        rfl
  rw [read?, split]
  simp only [List.getLast?_append, List.dropLast_concat]
  exact mapM_map_eq_some fun line member => line.read?_render (legible line member)

end Rpn.Assembly
