import Rpn.Tool.Fields

/-! A tool that fills paragraphs: lines are broken where it costs least.  Only serves the test
environment. -/

namespace Rpn.Tool

open Host Text

namespace Paragraph

/-- A word, the blanks after it, and what it tells about a break: whether it opens a parenthesis,
ends with a mark or a full stop, and ends a sentence. -/
structure Word where
  text : Bytes
  space : Nat := 1
  opens : Bool := false
  stops : Bool := false
  marked : Bool := false
  final : Bool := false

structure Manner where
  width : Nat := 75
  goal : Nat := 70
  splitOnly : Bool := false
  uniform : Bool := false

/-! Where lines are broken. -/

/-- The best way on from a word that begins a line: its cost, the word that begins the next line,
and the length of the line. -/
structure Plan where
  cost : Int := 0
  next : Nat
  length : Nat := 0

def shortCost (difference : Int) : Int :=
  Int.pow (difference * 10) 2

def raggedCost (difference : Int) : Int :=
  shortCost difference / 2

def lineCost : Int := 4900

def sentenceBonus : Int := 2500

def noBreakCost : Int := 360000

def markBonus : Int := 1600

def widowCost (length : Nat) : Int :=
  40000 / (length + 2 : Int)

def orphanCost (length : Nat) : Int :=
  22500 / (length + 2 : Int)

def baseCost (words : Array Word) (index : Nat) : Int :=
  let none : Word := { text := [] }
  let word := words.getD index none
  let before := words.getD (index - 1) none
  let cost := if index = 0 then lineCost
    else if before.stops then
      (if before.final then lineCost - sentenceBonus else lineCost + noBreakCost)
    else if before.marked then lineCost - markBonus
    else if 1 < index ∧ (words.getD (index - 2) none).final then
      lineCost + widowCost before.text.length
    else lineCost
  if word.opens then cost - markBonus
  else if word.final then cost + orphanCost word.text.length
  else cost

def breakCost (goal count : Nat) (plans : Array Plan) (next length : Nat) : Int :=
  if next = count then 0
  else
    let plan := plans.getD next { next := count }
    let cost := shortCost ((goal : Int) - length)
    if plan.next = count then cost else cost + raggedCost ((length : Int) - plan.length)

/-- The best end of a line.  `length` is the length of the line before the word `next`, and `best`
the best plan so far.  The number bounds how many words there are. -/
def bestEnd (manner : Manner) (words : Array Word) (plans : Array Plan) :
    Nat → Nat → Nat → Option Plan → Option Plan
  | 0, _, _, best => best
  | bound + 1, next, length, best =>
      let count := words.size
      let after := plans.getD next { next := count }
      let cost := breakCost manner.goal count plans next length + after.cost
      let best := match best with
        | some plan => if cost < plan.cost then some { cost, next, length } else best
        | none => some { cost, next, length }
      if next = count then best
      else
        let space := (words.getD (next - 1) { text := [] }).space
        let longer := length + space + (words.getD next { text := [] }).text.length
        if longer < manner.width then
          bestEnd manner words plans bound (next + 1) longer best
        else best

/-- The plans for all words, from the last one on. -/
def plansFor (manner : Manner) (words : Array Word) (first other : Nat) : Array Plan :=
  let count := words.size
  let start : Array Plan := Array.replicate (count + 1) { next := count }
  (List.range count).reverse.foldl (fun plans index =>
    let indent := if index = 0 then first else other
    let length := indent + (words.getD index { text := [] }).text.length
    match bestEnd manner words plans (count + 1) (index + 1) length none with
    | some plan =>
        plans.setIfInBounds index { plan with cost := plan.cost + baseCost words index }
    | none => plans) start

/-! Printing. -/

def blanks (tabs : Bool) (column count : Nat) : Bytes :=
  let target := column + count
  let stop := target / 8 * 8
  if tabs ∧ column + 1 < stop then
    List.replicate (stop / 8 - column / 8) Ascii.tab ++ List.replicate (target - stop) Ascii.space
  else List.replicate count Ascii.space

def lineText (tabs : Bool) (indent : Nat) (words : List Word) : Bytes :=
  go (blanks tabs 0 indent) indent words
where
  go (text : Bytes) (column : Nat) : List Word → Bytes
    | [] => text
    | [word] => text ++ word.text
    | word :: rest =>
        let after := column + word.text.length
        go (text ++ word.text ++ blanks tabs after word.space) (after + word.space) rest

structure Progress where
  tabs : Bool := false
  other : Nat := 0

abbrev Work := StateT Progress Run

def putLines (words : Array Word) (plans : Array Plan) : Nat → Nat → Nat → Work Unit
  | 0, _, _ => return ()
  | bound + 1, index, indent => do
      if index < words.size then
        let next := (plans.getD index { next := words.size }).next
        let text := lineText (← get).tabs indent (words.extract index next).toList
        (Run.sayLine text : Run Unit)
        putLines words plans bound next (← get).other

def putParagraph (manner : Manner) (first : Nat) (words : Array Word) : Work Unit := do
  let plans := plansFor manner words first (← get).other
  putLines words plans (words.size + 1) 0 first

/-! Reading. -/

/-- A line by its blanks: the column of its first word, and the text from there on.  `tabs` says
that there was a tab. -/
structure Line where
  column : Nat
  rest : Bytes
  tabs : Bool

def skipBlanks : Nat → Bytes → Nat × Bytes × Bool
  | column, Ascii.space :: rest => skipBlanks (column + 1) rest
  | column, Ascii.tab :: rest =>
      let (column, rest, _) := skipBlanks ((column / 8 + 1) * 8) rest
      (column, rest, true)
  | column, rest => (column, rest, false)

def readLine (text : Bytes) : Line :=
  let (column, rest, tabs) := skipBlanks 0 text
  { column, rest, tabs }

def wordOf (text : Bytes) : Word :=
  let last := text.getLastD 0
  let inner := text.reverse.dropWhile fun byte => (ascii ")]'\"").contains byte
  let stop := inner.headD (text.headD 0)
  { text, opens := (ascii "(['\x60\"").contains (text.headD 0)
    marked := (ByteSet.classRanges? (ascii "punct")).any fun ranges =>
      ({ ranges } : ByteSet).contains last
    stops := (ascii ".?!").contains stop }

def wordsOf (manner : Manner) (ended : Bool) : Nat → Nat → Bytes → List Word × Bool
  | 0, _, _ => ([], false)
  | _, _, [] => ([], false)
  | bound + 1, column, byte :: rest =>
      let text := byte :: rest.takeWhile (!isSpace ·)
      let after := column + text.length
      let (next, rest, tabs) := skipBlanks after ((byte :: rest).drop text.length)
      let word := wordOf text
      let isLast := rest.isEmpty
      let space := next - after
      let final := (isLast && !ended) || (word.stops && (isLast || 1 < space))
      let space := if isLast || manner.uniform then (if final then 2 else 1) else space
      let (others, more) := wordsOf manner ended bound next rest
      ({ word with space, final } :: others, tabs || more)

def noteTabs (tabs : Bool) : Work Unit :=
  if tabs then modify fun progress => { progress with tabs := true } else return ()

def takeLines (manner : Manner) :
    Array Word → List (Bytes × Bool) → Work (Array Word × List (Bytes × Bool))
  | words, [] => return (words, [])
  | words, (text, ended) :: rest => do
      let line := readLine text
      if line.rest ≠ [] ∧ line.column = (← get).other then
        noteTabs line.tabs
        let (more, tabs) := wordsOf manner ended (text.length + 1) line.column line.rest
        noteTabs tabs
        takeLines manner (words ++ more.toArray) rest
      else return (words, (text, ended) :: rest)

def fillLines (manner : Manner) : Nat → List (Bytes × Bool) → Work Unit
  | 0, _ => return ()
  | _, [] => return ()
  | bound + 1, (text, ended) :: rest => do
      let line := readLine text
      noteTabs line.tabs
      if line.rest = [] then
        if ended then (Run.say [Ascii.newline] : Run Unit)
        fillLines manner bound rest
      else
        let first := line.column
        modify fun progress => { progress with other := first }
        let (words, tabs) := wordsOf manner ended (text.length + 1) line.column line.rest
        noteTabs tabs
        let (words, rest) ← if manner.splitOnly then pure (words.toArray, rest)
          else takeLines manner words.toArray rest
        let words := words.modify (words.size - 1) fun word =>
          { word with stops := true, final := true }
        noteTabs (rest.head?.any fun (text, _) => (readLine text).tabs)
        putParagraph manner first words
        fillLines manner bound rest

end Paragraph

open Paragraph in
def fmt : Main := fun arguments => do
  let arguments := match arguments with
    | (Ascii.minus :: digit :: rest) :: others =>
        if isDigit digit then ascii "-w" :: (digit :: rest) :: others else arguments
    | _ => arguments
  let misplaced := ((arguments.drop 1).takeWhile (· ≠ ascii "--")).findSome? fun
    | Ascii.minus :: digit :: _ => if isDigit digit then some digit else none
    | _ => none
  if let some digit := misplaced then
    Run.failWithHint (ascii "invalid option -- " ++ digit ::
      ascii "; -WIDTH is recognized only when it is the first\noption; use -w N instead")
  let parsed ← Run.options
    [flag ["s", "split-only"], flag ["u", "uniform-spacing"], valued ["w", "width"],
      valued ["g", "goal"]] arguments
  let number := fun (text : Bytes) (limit : Nat) => do
    match Bytes.toNat? text with
    | some value =>
        if value ≤ limit then pure value
        else Run.fail (ascii "invalid width: " ++ Quoting.plain text ++
          ascii ": Numerical result out of range")
    | none => Run.fail (ascii "invalid width: " ++ Quoting.plain text)
  let width ← match parsed.value? "w" with
    | some text => number text 2500
    | none => pure 75
  let (width, goal) ← match parsed.value? "g" with
    | some text => do
        let goal ← number text width
        pure (if parsed.has "w" then width else goal + 10, goal)
    | none => pure (width, width * 187 / 200)
  let manner : Paragraph.Manner :=
    { width, goal, splitOnly := parsed.has "s", uniform := parsed.has "u" }
  let files := if parsed.operands = [] then [[Ascii.minus]] else parsed.operands
  for file in files do
    match ← openInput file with
    | .error fault =>
        Run.worry (ascii "cannot open " ++ Quoting.always file ++ ascii " for reading: " ++
          fault.message)
    | .ok handle =>
        match ← Act.readAll handle with
        | .error _ => Run.worry (ascii "read error")
        | .ok text =>
            let parts := text.splitOn Ascii.newline
            let last := parts.getLastD []
            let lines := (parts.dropLast.map fun line => (line, true)) ++
              (if last = [] then [] else [(last, false)])
            let _ ← (fillLines manner (lines.length + 1) lines).run {}
        if handle ≠ 0 then Act.close handle
  Run.status

end Rpn.Tool
