import Rpn.Text.Calendar
import Rpn.Tool.Plain
import Rpn.Tool.Tree

/-! A tool that lays out files on pages, in one column or in several ones.  Only serves the test
environment. -/

namespace Rpn.Tool

open Host Text

namespace Page

/-- How pages are laid out.  `framed` says that pages have a head and a foot. -/
structure Layout where
  columns : Nat := 1
  width : Nat := 72
  body : Nat := 56
  framed : Bool := true
  columnWidth : Nat := 72
  heading : Option Bytes := none

/-- Lines in several columns are cut, tabs in them are blanks, and blanks become tabs again. -/
def Layout.several (layout : Layout) : Bool :=
  layout.columns ≠ 1

def Layout.gap (layout : Layout) : Nat :=
  if layout.several then 1 else 0

def tabWidth (place : Nat) : Nat :=
  8 - place % 8

/-! Lines of columns. -/

/-- A line as it stands in a column: what it shows, and where it ends. -/
structure Cell where
  text : Bytes := []
  stop : Nat := 0

def shownByte (layout : Layout) (place : Nat) (byte : UInt8) : Bytes × Nat :=
  if byte = Ascii.tab then
    let width := tabWidth place
    (if layout.several then List.replicate width Ascii.space else [byte], place + width)
  else if Ascii.space ≤ byte ∧ byte < 127 then ([byte], place + 1)
  else if byte = 8 then (if place = 0 then ([], 0) else ([byte], place - 1))
  else ([byte], place)

/-- The bytes of a line as far as they fit.  `text` is what is shown so far, in reverse. -/
def fit (layout : Layout) : Nat → Bytes → Bytes → Cell
  | place, text, [] => { text := text.reverse, stop := place }
  | place, text, byte :: rest =>
      let (shown, after) := shownByte layout place byte
      if layout.several ∧ layout.columnWidth < after then { text := text.reverse, stop := place }
      else fit layout after (shown.reverse ++ text) rest

/-! Printing rows. -/

/-- Where a row stands: what is printed in reverse, the column, and the blanks and separators that
are not printed yet. -/
structure Row where
  printed : Bytes := []
  column : Nat := 0
  blanks : Nat := 0
  separators : Nat := 0

namespace Row

def tabsTo (goal : Nat) : Nat → Nat → Bytes → Bytes
  | 0, _, printed => printed
  | bound + 1, column, printed =>
      let next := column + tabWidth column
      if column + 1 < goal ∧ next ≤ goal then tabsTo goal bound next (Ascii.tab :: printed)
      else List.replicate (goal - column) Ascii.space ++ printed

def putBlanks (row : Row) : Row :=
  let goal := row.column + row.blanks
  { row with
    printed := tabsTo goal (row.blanks + 1) row.column row.printed, column := goal, blanks := 0 }

def putByte (layout : Layout) (row : Row) (byte : UInt8) : Row :=
  if !layout.several then { row with printed := byte :: row.printed }
  else if byte = Ascii.space then { row with blanks := row.blanks + 1 }
  else
    let row := if 0 < row.blanks then row.putBlanks else row
    let column := if byte = 8 then row.column - 1
      else if Ascii.space ≤ byte ∧ byte < 127 then row.column + 1
      else row.column
    { row with printed := byte :: row.printed, column }

def putSeparators (row : Row) : Row :=
  if row.separators = 0 then (if 0 < row.blanks then row.putBlanks else row)
  else
    let row := (List.range row.separators).foldl (fun (row : Row) _ =>
      { row with blanks := row.blanks + 1 }.putBlanks) row
    { row with separators := 0 }

end Row

/-- Where a column begins, counted with its separator. -/
def Layout.startOf (layout : Layout) (index : Nat) : Nat :=
  if index = 0 then layout.gap else index * (layout.columnWidth + layout.gap)

def putCell (layout : Layout) (row : Row) (index : Nat) (cell : Cell) : Row :=
  let start := layout.startOf index
  let row := if layout.several then
      { row with blanks := start - layout.gap - row.column }.putSeparators
    else row
  let row := cell.text.foldl (·.putByte layout) row
  if layout.several ∧ row.blanks = 0 then
    let place := start + cell.stop
    { row with column := if start = layout.gap then place - layout.gap else place }
  else row

def rowText (layout : Layout) (cells : List Cell) : Bytes :=
  let row := cells.zipIdx.foldl (fun (row : Row) (cell, index) =>
    let row := putCell layout row index cell
    if layout.several then { row with separators := row.separators + 1 } else row) {}
  row.printed.reverse

/-! Pages. -/

/-- The lines of pages that have a number of lines at most. -/
def sheets (size : Nat) : Nat → List Bytes → List (List Bytes)
  | 0, _ => []
  | _, [] => []
  | bound + 1, lines => lines.take size :: sheets size bound (lines.drop size)

def balanced (columns count : Nat) : List Nat :=
  (List.range columns).map fun index =>
    count / columns + (if index < count % columns then 1 else 0)

def downRows (columns : Nat) (cells : List Cell) : List (List Cell) :=
  let sizes := balanced columns cells.length
  let parts := sizes.foldl (fun (parts, rest) size => (rest.take size :: parts, rest.drop size))
    (([], cells) : List (List Cell) × List Cell)
  let columns := parts.1.reverse
  (List.range (sizes.headD 0)).map fun row => columns.filterMap (·[row]?)

def rowsOf (layout : Layout) (lines : List Bytes) : List (List Cell) :=
  let cells := lines.map (fit layout 0 [])
  if layout.several then downRows layout.columns cells else cells.map ([·])

def headText (layout : Layout) (date name : Bytes) (page : Nat) : Bytes :=
  let number := ascii "Page " ++ Bytes.ofNat page
  let room := layout.width - date.length - name.length - number.length
  let left := room / 2
  let blanks := fun (count : Nat) => List.replicate (max count 1) Ascii.space
  ascii "\n\n" ++ date ++ blanks left ++ name ++ blanks (room - left) ++ number ++ ascii "\n\n\n"

def pageText (layout : Layout) (head : Bytes) (rows : List (List Cell)) : Bytes :=
  let body := rows.flatMap fun cells => Bytes.line (rowText layout cells)
  if layout.framed then
    head ++ body ++ List.replicate (layout.body - rows.length + 5) Ascii.newline
  else body

/-! Options. -/

structure Wish where
  layout : Layout := {}
  length : Nat := 66
  columns : Option Nat := none
  digits : Bytes := []

def readSetting (complaint : String) (text : Bytes) : Run Nat := do
  match (Bytes.toNat? text).filter (0 < ·) with
  | some value => return value
  | none => Run.fail (ascii complaint ++ ascii ": " ++ Quoting.always text)

def takeOption (wish : Wish) (given : Given) : Run Wish := do
  let layout := wish.layout
  let value := given.argument.getD []
  match given.name with
  | "columns" =>
      return { wish with columns := some (← readSetting "invalid number of columns" value) }
  | "h" => return { wish with layout := { layout with heading := some value } }
  | "l" =>
      return { wish with
        length := ← readSetting "'-l PAGE_LENGTH' invalid number of lines" value }
  | "t" => return { wish with layout := { layout with framed := false } }
  | "w" =>
      let width ← readSetting "'-w PAGE_WIDTH' invalid number of characters" value
      return { wish with layout := { layout with width } }
  | _ => return wish

/-- Take all options.  Digits that follow each other make up one number. -/
def takeOptions : Wish → List Given → Run Wish
  | wish, [] => settleDigits wish
  | wish, given :: rest => do
      let digit := ascii given.name
      if digit.length = 1 ∧ digit.all isDigit then
        takeOptions { wish with digits := wish.digits ++ digit } rest
      else
        let wish ← settleDigits wish
        takeOptions (← takeOption wish given) rest
where
  settleDigits (wish : Wish) : Run Wish := do
    if wish.digits = [] then return wish
    else
      let count ← readSetting "invalid number of columns" wish.digits
      return { wish with columns := some count, digits := [] }

def layoutFor (wish : Wish) : Run Layout := do
  let layout := wish.layout
  let framed := layout.framed && decide (10 < wish.length)
  let body := if framed then wish.length - 10 else wish.length
  let columns := wish.columns.getD 1
  let columnWidth := (layout.width - (columns - 1)) / columns
  if columnWidth = 0 then Run.fail (ascii "page width too narrow")
  return { layout with columns, framed, body, columnWidth }

def choices : List Choice :=
  [valued ["columns"], flag ["b"], valued ["h", "header"], valued ["l", "length"],
    flag ["t", "T", "omit-header", "omit-pagination"], valued ["w", "width"]] ++
    (List.range 10).map fun digit => flag [toString digit]

def dateOf (name : Option Bytes) : Run Bytes := do
  let time ← match name with
    | none => currentTime
    | some name =>
        match ← node? name with
        | some (_, node) => pure node.modified
        | none => currentTime
  return Calendar.format (Moment.ofNanoseconds time) (ascii "%Y-%m-%d %H:%M")

end Page

def paginate : Main := fun arguments => do
  let parsed ← Run.options Page.choices arguments
  let layout ← Page.layoutFor (← Page.takeOptions {} parsed.given)
  for name in (if parsed.operands = [] then [[Ascii.minus]] else parsed.operands) do
    match ← readInput name with
    | .error fault => Run.worry (Quoting.whenNeeded name ++ ascii ": " ++ fault.message)
    | .ok text =>
        let lines := text.splitOn Ascii.newline
        let lines := if lines.getLast? = some [] then lines.dropLast else lines
        let sheets := Page.sheets (layout.body * layout.columns) lines.length lines
        let date ← Page.dateOf (if isStandard name then none else some name)
        let title := layout.heading.getD (if isStandard name then [] else name)
        Run.say (sheets.zipIdx.flatMap fun (sheet, index) =>
          Page.pageText layout (Page.headText layout date title (index + 1))
            (Page.rowsOf layout sheet))
  Run.status

end Rpn.Tool
