import Rpn.Shell.Builtin.Input

/-! Menus from which one of some texts is chosen.  Only serves the test environment. -/

namespace Rpn.Shell.Menu

open Host

/-- The bytes that lead from one column to another: tabs as far as they go, then blanks. -/
def gap : Nat → Nat → Nat → Bytes
  | 0, _, _ => []
  | bound + 1, column, target =>
      if target ≤ column then []
      else if column / 8 < target / 8 then
        Ascii.tab :: gap bound (column + 8 - column % 8) target
      else Ascii.space :: gap bound (column + 1) target

def padded (width number : Nat) : Bytes :=
  let digits := Bytes.ofNat number
  List.replicate (width - digits.length) Ascii.space ++ digits

def digitsOf (number : Nat) : Nat :=
  (Bytes.ofNat number).length

def layout (width : Nat) (texts : List Bytes) : Bytes :=
  let count := texts.length
  let longest := (texts.map (·.length)).foldl max 0 + digitsOf count + 4
  let columns := max 1 (width / longest)
  let rows := (count + columns - 1) / columns
  let columns := (count + rows - 1) / rows
  let (rows, columns) := if rows = 1 then (columns, 1) else (rows, columns)
  (List.range rows).flatMap fun row =>
    Bytes.line ((List.range columns).flatMap fun column =>
      let index := row + column * rows
      match texts[index]? with
      | none => []
      | some text =>
          let number := padded (digitsOf (if column = 0 then rows else count)) (index + 1)
          let shown := number ++ ascii ") " ++ text
          if index + rows < count then
            shown ++ gap longest (column * longest + shown.length) ((column + 1) * longest)
          else shown)

/-- Offer texts until no more choice is made or the body of the loop ends it.  The choice is the
value of a variable, which is empty if it is no number of a text. -/
def offer (name : Bytes) (texts : List Bytes) (body : Run Bool) : Nat → Bool → Run Unit
  | 0, _ => return ()
  | bound + 1, shown => do
      let width := ((← Run.value? (ascii "COLUMNS")).bind Bytes.toNat?).getD 80
      if shown then
        let _ ← Run.write 2 (layout width texts)
      let _ ← Run.write 2 ((← Run.value? (ascii "PS3")).getD (ascii "#? "))
      let (marks, ended) ← Builtin.readLine {}
      let separators ← Run.fieldSeparators
      let reply := Mark.text (Builtin.lastField separators
        (marks.dropWhile (Builtin.separatesAsBlank separators)))
      Run.setVariable (ascii "REPLY") reply
      if !ended then
        let _ ← Run.write 1 [Ascii.newline]
        Run.setStatus 1
      else if reply = [] then offer name texts body bound true
      else
        let chosen := match Bytes.toNat? reply with
          | some (index + 1) => texts.getD index []
          | _ => []
        Run.setVariable name chosen
        if ← body then offer name texts body bound ((← Run.value? (ascii "REPLY")).getD [] == [])

end Rpn.Shell.Menu
