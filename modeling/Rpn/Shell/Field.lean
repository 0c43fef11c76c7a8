import Rpn.Shell.Pattern

/-! Dividing expanded words into fields.  Part of the test environment. -/

namespace Rpn.Shell

/-- What expansion makes of a word: bytes, signs that something quoted stands there though it may
be empty, and boundaries between parameters that stay apart. -/
inductive Item where
  | mark (mark : Mark)
  | quote
  | boundary
  deriving DecidableEq, Repr

namespace Item

def ofText (quoted divisible : Bool) (text : Bytes) : List Item :=
  let marks := (Mark.ofText quoted text (divisible && !quoted)).map Item.mark
  if quoted then .quote :: marks else marks

/-- The marks of items that form a single text.  A joiner stands for each boundary. -/
def marks (joiner : Bytes) (items : List Item) : List Mark :=
  items.flatMap fun
    | .mark found => [found]
    | .quote => []
    | .boundary => Mark.ofText true joiner

end Item

/-- A field while it is built, in reverse.  It is `present` when it stays even if it is empty.
After blanks that end a field, one other separator `joins` them. -/
structure Field.Split where
  done : List (List Mark) := []
  current : List Mark := []
  present : Bool := false
  joins : Bool := false

namespace Field.Split

def close (state : Split) : Split :=
  { done := state.current.reverse :: state.done, current := [], present := false, joins := false }

def closeIfPresent (state : Split) : Split :=
  if state.present then state.close else { state with joins := false }

def isGap (byte : UInt8) : Bool :=
  byte == Ascii.space || byte == Ascii.tab || byte == Ascii.newline

def step (separators : Bytes) (state : Split) : Item → Split
  | .quote => { state with present := true, joins := false }
  | .boundary => state.closeIfPresent
  | .mark mark =>
      if mark.divisible && separators.contains mark.byte then
        if isGap mark.byte then
          if state.present then { state.close with joins := true } else state
        else if state.present then state.close
        else if state.joins then { state with joins := false }
        else state.close
      else { state with current := mark :: state.current, present := true, joins := false }

end Field.Split

/-- The fields of an expanded word.  Blanks among the separators around a field do not count, and
every other separator ends one. -/
def fields (separators : Bytes) (items : List Item) : List (List Mark) :=
  (items.foldl (Field.Split.step separators) {}).closeIfPresent.done.reverse

end Rpn.Shell
