import Rpn.Bytes
import Std.Data.HashMap

/-! What has to go from one text, and what has to come, to get another.  The lines of both texts are
numbers, so that lines that count as the same have the same number.  A shortest way between two
texts is searched from both of their ends at once.  Only serves the test environment. -/

namespace Rpn.Text.Difference

/-- Before line `second` of the second text stand `added` lines in the place of `removed` lines from
line `first` on.  Lines count from zero. -/
structure Change where
  first : Nat
  second : Nat
  removed : Nat
  added : Nat
  deriving DecidableEq, Repr

def classes (first second : List Bytes) : Array Nat × Array Nat :=
  let step := fun (state : Std.HashMap Bytes Nat × Array Nat) (key : Bytes) =>
    let (known, numbers) := state
    match known[key]? with
    | some number => (known, numbers.push number)
    | none => (known.insert key known.size, numbers.push known.size)
  let (known, left) := first.foldl step (∅, #[])
  (left, (second.foldl step (known, #[])).2)

/-! Lines that need no search. -/

/-- What becomes of a line before the search: it takes part, or it has no match and is left out, or
it has so many that it may be left out among lines that are. -/
inductive Fate where
  | kept
  | doubtful
  | unmatched
  deriving DecidableEq, Repr

namespace Fate

def doubled : Nat → Nat → Nat → Nat
  | 0, _, value => value
  | bound + 1, size, value => if size / 4 = 0 then value else doubled bound (size / 4) (value * 2)

def many (size : Nat) : Nat :=
  doubled size (size / 64) 5

def ofCount (limit found : Nat) : Fate :=
  if found = 0 then .unmatched else if limit < found then .doubtful else .kept

def keepDoubtful : Fate → Fate
  | .doubtful => .kept
  | fate => fate

/-- Keep every row of at least `least` doubtful lines.  `row` is how many stand right before. -/
def keepRows (least : Nat) : Nat → List Fate → List Fate
  | row, [] => List.replicate row (if least ≤ row then .kept else .doubtful)
  | row, .doubtful :: rest => keepRows least (row + 1) rest
  | row, fate :: rest =>
      List.replicate row (if least ≤ row then .kept else .doubtful) ++
        fate :: keepRows least 0 rest

/-- Keep doubtful lines near the start, until three unmatched lines follow each other or one comes
after eight lines. -/
def keepStart (place inRow : Nat) : List Fate → List Fate
  | [] => []
  | fate :: rest =>
      if 8 ≤ place ∧ fate = .unmatched then fate :: rest
      else
        match fate with
        | .unmatched =>
            if inRow + 1 = 3 then .unmatched :: rest
            else .unmatched :: keepStart (place + 1) (inRow + 1) rest
        | _ => .kept :: keepStart (place + 1) 0 rest

/-- Decide about a run of lines that may be left out, the first and the last of which are
unmatched. -/
def settleRun (run : List Fate) : List Fate :=
  let length := run.length
  if length < 4 * run.count .doubtful then run.map keepDoubtful
  else
    let least := doubled length (length / 4) 1 + 1
    let run := keepStart 0 0 (keepRows least 0 run)
    (keepStart 0 0 run.reverse).reverse

/-- Decide about all lines.  `run` are those right before that may be left out, in reverse. -/
def settle (run : List Fate) : List Fate → List Fate
  | [] => finish run
  | .kept :: rest => finish run ++ .kept :: settle [] rest
  | .doubtful :: rest => if run = [] then .kept :: settle [] rest else settle (.doubtful :: run) rest
  | .unmatched :: rest => settle (.unmatched :: run) rest
where
  finish (run : List Fate) : List Fate :=
    let ends := run.takeWhile (· = .doubtful)
    settleRun (run.drop ends.length).reverse ++ ends.map keepDoubtful

end Fate

def fates (own other : Array Nat) : List Fate :=
  let counts : Std.HashMap Nat Nat := other.foldl
    (fun counts line => counts.insert line (counts.getD line 0 + 1)) ∅
  let limit := Fate.many own.size
  Fate.settle [] (own.toList.map fun line => Fate.ofCount limit (counts.getD line 0))

/-! The search. -/

/-- The lines from `left` up to `leftEnd` of the first text and from `right` up to `rightEnd` of the
second. -/
structure Region where
  left : Nat
  leftEnd : Nat
  right : Nat
  rightEnd : Nat

/-- How far the ways from one end lead on each diagonal, the difference of two line numbers.
`reach` begins one diagonal before `least`. -/
structure Frontier where
  least : Int
  greatest : Int
  low : Int
  high : Int
  reach : Array Int

namespace Frontier

def get (frontier : Frontier) (diagonal : Int) : Int :=
  frontier.reach.getD (diagonal - frontier.least + 1).toNat 0

def put (frontier : Frontier) (diagonal line : Int) : Frontier :=
  let { least, greatest, low, high, reach } := frontier
  { least, greatest, low, high,
    reach := reach.setIfInBounds (diagonal - least + 1).toNat line }

def start (region : Region) (diagonal line : Int) : Frontier :=
  let least := (region.left : Int) - region.rightEnd
  let greatest := (region.leftEnd : Int) - region.right
  let reach := Array.replicate (greatest - least + 3).toNat 0
  put { least, greatest, low := diagonal, high := diagonal, reach } diagonal line

/-- One step more: there is one more diagonal at each side, unless that side has no more.  `beyond`
is a line that no way reaches. -/
def widen (frontier : Frontier) (beyond : Int) : Frontier :=
  let frontier := if frontier.least < frontier.low then
      let frontier := frontier.put (frontier.low - 2) beyond
      { frontier with low := frontier.low - 1 }
    else { frontier with low := frontier.low + 1 }
  if frontier.high < frontier.greatest then
    let frontier := frontier.put (frontier.high + 2) beyond
    { frontier with high := frontier.high + 1 }
  else { frontier with high := frontier.high - 1 }

def has (frontier : Frontier) (diagonal : Int) : Bool :=
  frontier.low ≤ diagonal && diagonal ≤ frontier.high

end Frontier

section

variable (first second : Array Nat)

def same (left right : Int) : Bool :=
  match first[left.toNat]?, second[right.toNat]? with
  | some line, some other => line == other
  | _, _ => false

def slideOn (region : Region) : Nat → Int → Int → Int
  | 0, left, _ => left
  | bound + 1, left, right =>
      if left < region.leftEnd ∧ right < region.rightEnd ∧ same first second left right then
        slideOn region bound (left + 1) (right + 1)
      else left

def slideBack (region : Region) : Nat → Int → Int → Int
  | 0, left, _ => left
  | bound + 1, left, right =>
      if region.left < left ∧ region.right < right ∧ same first second (left - 1) (right - 1) then
        slideBack region bound (left - 1) (right - 1)
      else left

/-- Extend the ways from the start on every second diagonal, downward.  The answer is where one
meets a way from the end, if `meets`. -/
def sweepOn (region : Region) (meets : Bool) (back : Frontier) :
    Nat → Int → Frontier → Frontier × Option (Int × Int)
  | 0, _, forth => (forth, none)
  | bound + 1, diagonal, forth =>
      if diagonal < forth.low then (forth, none)
      else
        let below := forth.get (diagonal - 1)
        let above := forth.get (diagonal + 1)
        let begun := if below < above then above else below + 1
        let left := slideOn first second region (region.leftEnd - region.left) begun
          (begun - diagonal)
        let forth := forth.put diagonal left
        if meets && back.has diagonal && back.get diagonal ≤ left then
          (forth, some (left, left - diagonal))
        else sweepOn region meets back bound (diagonal - 2) forth

def sweepBack (region : Region) (meets : Bool) (forth : Frontier) :
    Nat → Int → Frontier → Frontier × Option (Int × Int)
  | 0, _, back => (back, none)
  | bound + 1, diagonal, back =>
      if diagonal < back.low then (back, none)
      else
        let below := back.get (diagonal - 1)
        let above := back.get (diagonal + 1)
        let begun := if below < above then below else above - 1
        let left := slideBack first second region (region.leftEnd - region.left) begun
          (begun - diagonal)
        let back := back.put diagonal left
        if meets && forth.has diagonal && left ≤ forth.get diagonal then
          (back, some (left, left - diagonal))
        else sweepBack region meets forth bound (diagonal - 2) back

/-- A point on a shortest way through a region, where the ways from its ends meet. -/
def meeting (region : Region) (odd : Bool) : Nat → Frontier → Frontier → Int × Int
  | 0, _, _ => (region.leftEnd, region.right)
  | bound + 1, forth, back =>
      let size := region.leftEnd - region.left + (region.rightEnd - region.right) + 1
      let forth := forth.widen (-1)
      let (forth, found) := sweepOn first second region odd back size forth.high forth
      match found with
      | some point => point
      | none =>
          let back := back.widen (first.size + second.size + 2)
          let (back, found) := sweepBack first second region (!odd) forth size back.high back
          match found with
          | some point => point
          | none => meeting region odd bound forth back

def middle (region : Region) : Int × Int :=
  let forth := (region.left : Int) - region.right
  let back := (region.leftEnd : Int) - region.rightEnd
  let size := region.leftEnd - region.left + (region.rightEnd - region.right) + 1
  meeting first second region ((forth - back) % 2 ≠ 0) size
    (.start region forth region.left) (.start region back region.leftEnd)

def trimStart : Nat → Region → Region
  | 0, region => region
  | bound + 1, region =>
      if region.left < region.leftEnd ∧ region.right < region.rightEnd ∧
          same first second region.left region.right then
        trimStart bound { region with left := region.left + 1, right := region.right + 1 }
      else region

def trimEnd : Nat → Region → Region
  | 0, region => region
  | bound + 1, region =>
      if region.left < region.leftEnd ∧ region.right < region.rightEnd ∧
          same first second (region.leftEnd - 1 : Nat) (region.rightEnd - 1 : Nat) then
        trimEnd bound { region with leftEnd := region.leftEnd - 1, rightEnd := region.rightEnd - 1 }
      else region

/-- The lines of both texts that a shortest way through a region changes, added to those that are
known. -/
def changedLines : Nat → Region → List Nat × List Nat → List Nat × List Nat
  | 0, _, known => known
  | bound + 1, region, known =>
      let region := trimStart first second (region.leftEnd - region.left) region
      let region := trimEnd first second (region.leftEnd - region.left) region
      let lefts := List.range' region.left (region.leftEnd - region.left)
      let rights := List.range' region.right (region.rightEnd - region.right)
      if region.left = region.leftEnd then (known.1, rights ++ known.2)
      else if region.right = region.rightEnd then (lefts ++ known.1, known.2)
      else
        let (left, right) := middle first second region
        let known := changedLines bound
          { region with leftEnd := left.toNat, rightEnd := right.toNat } known
        changedLines bound { region with left := left.toNat, right := right.toNat } known

end

/-! Runs of changed lines. -/

/-- A run of changed lines, from `start` up to `stop`, and the line of the other text at which it
stands. -/
structure Slide where
  own : Array Bool
  start : Nat
  stop : Nat
  place : Nat

section

variable (lines : Array Nat) (other : Array Bool)

def isMarked (marks : Array Bool) (place : Nat) : Bool :=
  marks.getD place false

def runEnd (marks : Array Bool) : Nat → Nat → Nat
  | 0, place => place
  | bound + 1, place => if isMarked marks place then runEnd marks bound (place + 1) else place

def runStart (marks : Array Bool) : Nat → Nat
  | 0 => 0
  | place + 1 => if isMarked marks place then runStart marks place else place + 1

def placeBefore (place : Nat) : Nat :=
  runStart other place - 1

/-- Move a run back as long as the line before it is the same as its last one; it takes in the runs
that it meets. -/
def slideUp : Nat → Slide → Slide
  | 0, slide => slide
  | bound + 1, slide =>
      if 0 < slide.start ∧ lines.getD (slide.start - 1) 0 = lines.getD (slide.stop - 1) 0 then
        let own := (slide.own.setIfInBounds (slide.start - 1) true).setIfInBounds
          (slide.stop - 1) false
        slideUp bound
          { own, start := runStart own (slide.start - 1), stop := slide.stop - 1
            place := placeBefore other slide.place }
      else slide

/-- Move a run on as long as the line after it is the same as its first one.  `met` is the last end
of the run at which the other text has a run too. -/
def slideDown : Nat → Slide → Nat → Slide × Nat
  | 0, slide, met => (slide, met)
  | bound + 1, slide, met =>
      if slide.stop < lines.size ∧ lines.getD slide.start 0 = lines.getD slide.stop 0 then
        let own := (slide.own.setIfInBounds slide.start false).setIfInBounds slide.stop true
        let stop := runEnd own own.size (slide.stop + 1)
        let place := runEnd other other.size (slide.place + 1)
        slideDown bound { own, start := slide.start + 1, stop, place }
          (if slide.place + 1 < place then stop else met)
      else (slide, met)

def slideFar : Nat → Slide → Slide × Nat
  | 0, slide => (slide, lines.size)
  | bound + 1, slide =>
      let size := slide.stop - slide.start
      let slide := slideUp lines other (slide.start + slide.stop) slide
      let met := if 0 < slide.place ∧ isMarked other (slide.place - 1) then slide.stop
        else lines.size
      let (slide, met) := slideDown lines other lines.size slide met
      if slide.stop - slide.start = size then (slide, met) else slideFar bound slide

def slideBackTo (met : Nat) : Nat → Slide → Slide
  | 0, slide => slide
  | bound + 1, slide =>
      if met < slide.stop then
        let own := (slide.own.setIfInBounds (slide.start - 1) true).setIfInBounds
          (slide.stop - 1) false
        slideBackTo met bound
          { own, start := slide.start - 1, stop := slide.stop - 1
            place := placeBefore other slide.place }
      else slide

/-- Move all runs of a text from a line on.  `place` is the line of the other text at which that
line stands. -/
def slideAll : Nat → Nat → Nat → Array Bool → Array Bool
  | 0, _, _, own => own
  | bound + 1, line, place, own =>
      if lines.size ≤ line then own
      else if isMarked own line then
        let slide : Slide :=
          { own, start := line, stop := runEnd own own.size line
            place := runEnd other other.size place }
        let (slide, met) := slideFar lines other (lines.size + 1) slide
        let slide := slideBackTo other met lines.size slide
        slideAll bound slide.stop slide.place slide.own
      else slideAll bound (line + 1) (runEnd other other.size place + 1) own

end

def changesOf : Nat → Nat → Nat → List Bool → List Bool → List Change
  | 0, _, _, _, _ => []
  | bound + 1, first, second, left, right =>
      let removed := (left.takeWhile (·)).length
      let added := (right.takeWhile (·)).length
      let rest := match left.drop removed, right.drop added with
        | _ :: left, _ :: right =>
            changesOf bound (first + removed + 1) (second + added + 1) left right
        | _, _ => []
      if removed = 0 ∧ added = 0 then rest else { first, second, removed, added } :: rest

/-- The changes that lead from one text to another.  With `minimal` no line is left out of the
search. -/
def changes (minimal : Bool) (first second : Array Nat) : List Change :=
  let searched := fun (own other : Array Nat) =>
    let indices := Array.range own.size
    if minimal then indices
    else
      let fates := (fates own other).toArray
      indices.filter fun index => fates.getD index .kept = .kept
  let lefts := searched first second
  let rights := searched second first
  let (goneLefts, goneRights) := changedLines
    (lefts.map fun index => first.getD index 0) (rights.map fun index => second.getD index 0)
    (lefts.size + rights.size + 1)
    { left := 0, leftEnd := lefts.size, right := 0, rightEnd := rights.size } ([], [])
  let marked := fun (size : Nat) (searched : Array Nat) (gone : List Nat) =>
    let marks := searched.foldl (fun marks index => marks.setIfInBounds index false)
      (Array.replicate size true)
    gone.foldl (fun marks place => marks.setIfInBounds (searched.getD place 0) true) marks
  let left := marked first.size lefts goneLefts
  let right := marked second.size rights goneRights
  let left := slideAll first right (first.size + 1) 0 0 left
  let right := slideAll second left (second.size + 1) 0 0 right
  changesOf (first.size + second.size + 1) 0 0 left.toList right.toList

def commonStart {α : Type} [BEq α] : List α → List α → Nat
  | line :: first, other :: second => if line == other then commonStart first second + 1 else 0
  | _, _ => 0

end Rpn.Text.Difference
