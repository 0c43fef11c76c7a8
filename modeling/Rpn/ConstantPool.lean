import Rpn.Bytes

/-! The distinct literals of a program in increasing order of their bytes. -/

namespace Rpn

structure ConstantPool where
  literals : List Bytes
  increasing : literals.Pairwise (· < ·)

namespace ConstantPool

def empty : ConstantPool :=
  ⟨[], .nil⟩

/-- Put a literal in its place in an increasing list, unless it is there already. -/
def place (literal : Bytes) : List Bytes → List Bytes
  | [] => [literal]
  | head :: tail =>
      if literal < head then literal :: head :: tail
      else if literal = head then head :: tail
      else head :: place literal tail

theorem mem_place {literal other : Bytes} {literals : List Bytes} :
    other ∈ place literal literals ↔ other = literal ∨ other ∈ literals := by
  induction literals with
  | nil => simp [place]
  | cons head tail induction =>
      unfold place
      split
      · simp
      · split
        · next equal => simp [equal]
        · simp only [List.mem_cons, induction]
          grind

theorem pairwise_place {literal : Bytes} {literals : List Bytes}
    (increasing : literals.Pairwise (· < ·)) :
    (place literal literals).Pairwise (· < ·) := by
  induction literals with
  | nil => simp [place]
  | cons head tail induction =>
      obtain ⟨above, rest⟩ := List.pairwise_cons.mp increasing
      unfold place
      split
      · next less =>
          refine List.pairwise_cons.mpr ⟨fun other member => ?_, increasing⟩
          rcases List.mem_cons.mp member with rfl | member
          · exact less
          · exact List.lt_trans less (above other member)
      · next notLess =>
          split
          · exact increasing
          · next different =>
              refine List.pairwise_cons.mpr ⟨fun other member => ?_, induction rest⟩
              rcases mem_place.mp member with rfl | member
              · exact Std.lt_of_le_of_ne (List.not_lt.mp notLess) (Ne.symm different)
              · exact above other member

def insert (pool : ConstantPool) (literal : Bytes) : ConstantPool :=
  ⟨place literal pool.literals, pairwise_place pool.increasing⟩

@[simp] theorem mem_literals_insert {pool : ConstantPool} {literal other : Bytes} :
    other ∈ (pool.insert literal).literals ↔ other = literal ∨ other ∈ pool.literals :=
  mem_place

def ofList (literals : List Bytes) : ConstantPool :=
  literals.foldl insert empty

theorem mem_literals_foldl_insert {pool : ConstantPool} {literals : List Bytes} {other : Bytes} :
    other ∈ (literals.foldl insert pool).literals ↔ other ∈ pool.literals ∨ other ∈ literals := by
  induction literals generalizing pool with
  | nil => simp
  | cons head tail induction =>
      simp only [List.foldl_cons, induction, mem_literals_insert, List.mem_cons]
      grind

@[simp] theorem mem_literals_ofList {literals : List Bytes} {other : Bytes} :
    other ∈ (ofList literals).literals ↔ other ∈ literals := by
  simp [ofList, mem_literals_foldl_insert, empty]

end ConstantPool

end Rpn
