import Rpn.Assembly.Printer

/-! The symbols that the lines of a file define and use. -/

namespace Rpn.Assembly

namespace Line

/-- The symbol that a line defines. -/
def defined? : Line → Option Symbol
  | datum symbol _ | label symbol => some symbol
  | blank | heading _ | remark _ | directive _ | instr _ => none

def operands : Line → List Operand
  | instr instruction => instruction.operands
  | blank | heading _ | remark _ | directive _ | datum _ _ | label _ => []

/-- The symbols whose data or address a line uses. -/
def addressed (line : Line) : List Symbol :=
  line.operands.filterMap fun
    | .cell symbol | .relative symbol => some symbol
    | _ => none

/-- Where a line may jump. -/
def targets (line : Line) : List Symbol :=
  line.operands.filterMap fun
    | .target symbol => some symbol
    | _ => none

/-- The functions of the system that a line calls. -/
def calls (line : Line) : List Symbol :=
  line.operands.filterMap fun
    | .external symbol => some symbol
    | _ => none

end Line

/-- The symbols that a file defines, in the order of its lines. -/
def defined (file : List Line) : List Symbol :=
  file.filterMap Line.defined?

/-- A file that defines every symbol once and uses no others, apart from functions of the
system. -/
structure IsClosed (file : List Line) : Prop where
  once : (defined file).Nodup
  addressed : ∀ line ∈ file, ∀ symbol ∈ line.addressed, ∃ value, .datum symbol value ∈ file
  targets : ∀ line ∈ file, ∀ symbol ∈ line.targets, .label symbol ∈ file
  calls : ∀ line ∈ file, ∀ symbol ∈ line.calls, symbol ∈ [ascii "printf", ascii "exit"]

@[simp] theorem defined_append (first second : List Line) :
    defined (first ++ second) = defined first ++ defined second :=
  List.filterMap_append

theorem mem_defined {file : List Line} {line : Line} {symbol : Symbol} (member : line ∈ file)
    (defines : line.defined? = some symbol) : symbol ∈ defined file :=
  List.mem_filterMap.mpr ⟨line, member, defines⟩

theorem not_mem_defined_before {before rest : List Line} {line : Line} {symbol : Symbol}
    (once : (defined (before ++ line :: rest)).Nodup) (defines : line.defined? = some symbol) :
    symbol ∉ defined before := by
  intro member
  rw [defined_append] at once
  have again : symbol ∈ defined (line :: rest) := mem_defined (List.mem_cons_self ..) defines
  exact (List.nodup_append.mp once).2.2 symbol member symbol again rfl

/-- Lines that define the same symbol are the same. -/
theorem eq_of_defined {file : List Line} (once : (defined file).Nodup) {first second : Line}
    {symbol : Symbol} (firstMember : first ∈ file) (secondMember : second ∈ file)
    (firstDefines : first.defined? = some symbol) (secondDefines : second.defined? = some symbol) :
    first = second := by
  induction file with
  | nil => cases firstMember
  | cons line rest induction =>
      have later : (defined rest).Nodup :=
        once.sublist ((List.sublist_cons_self line rest).filterMap _)
      have apart : ∀ other ∈ rest, line.defined? = some symbol → other.defined? ≠ some symbol := by
        intro other member defines otherDefines
        rw [defined, List.filterMap_cons_some defines] at once
        exact (List.nodup_cons.mp once).1 (mem_defined member otherDefines)
      rcases List.mem_cons.mp firstMember with rfl | firstLater
      · rcases List.mem_cons.mp secondMember with rfl | secondLater
        · rfl
        · exact absurd secondDefines (apart second secondLater firstDefines)
      · rcases List.mem_cons.mp secondMember with rfl | secondLater
        · exact absurd firstDefines (apart first firstLater secondDefines)
        · exact induction later firstLater secondLater

end Rpn.Assembly
