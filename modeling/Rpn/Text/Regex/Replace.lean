import Rpn.Text.Regex

/-! Texts with matches of a regular expression replaced.  Only serves the test environment. -/

namespace Rpn.Text.Regex

/-- Which matches are replaced: those from a number on, or only the one with that number. -/
structure Choice where
  number : Nat := 1
  all : Bool := false

/-- Replace matches from a place on.  `count` is the number of the next match, and `stop` where the
last one ended: an empty match does not follow another directly.  The answer is the text in reverse
pieces and how many matches were replaced.  The first number bounds how many there are. -/
def replaceFrom (matcher : Matcher) (choice : Choice) (make : Match → Bytes) (text : ByteArray) :
    Nat → Nat → Nat → Option Nat → List Bytes → Nat → List Bytes × Nat
  | 0, _, _, _, pieces, replaced => (pieces, replaced)
  | bound + 1, start, count, stop, pieces, replaced =>
      let piece := fun (first last : Nat) => (text.extract first last).toList
      if text.size < start then (pieces, replaced)
      else
        match matcher.search text start with
        | none => (piece start text.size :: pieces, replaced)
        | some found =>
            let before := piece start found.start :: pieces
            let isEmpty := found.start == found.stop
            if isEmpty ∧ stop = some found.start then
              replaceFrom matcher choice make text bound (found.start + 1) count none
                (piece found.start (found.start + 1) :: before) replaced
            else
              let chosen := choice.number ≤ count
              let middle := if chosen then make found else piece found.start found.stop
              let replaced := if chosen then replaced + 1 else replaced
              if chosen ∧ !choice.all then
                (piece found.stop text.size :: middle :: before, replaced)
              else if isEmpty then
                replaceFrom matcher choice make text bound (found.stop + 1) (count + 1) none
                  (piece found.stop (found.stop + 1) :: middle :: before) replaced
              else
                replaceFrom matcher choice make text bound found.stop (count + 1)
                  (some found.stop) (middle :: before) replaced

def Matcher.replace (matcher : Matcher) (choice : Choice) (make : Match → Bytes)
    (text : ByteArray) : Bytes × Nat :=
  let (pieces, replaced) := replaceFrom matcher choice make text (text.size + 2) 0 1 none [] 0
  (pieces.reverse.flatten, replaced)

end Rpn.Text.Regex
