import Rpn.Host.Request
import Rpn.Shell.Pattern

/-! File names that match patterns.  Part of the test environment. -/

namespace Rpn.Shell.Glob

open Host

/-- A part of a pattern for file names: slashes, or what stands between them. -/
inductive Part where
  | slashes (text : Bytes)
  | name (marks : List Mark)

def parts : Nat → List Mark → List Part
  | 0, _ => []
  | _, [] => []
  | bound + 1, marks =>
      let isSlash := fun (mark : Mark) => mark.byte == Ascii.slash
      match marks.takeWhile isSlash with
      | [] =>
          let name := marks.takeWhile (!isSlash ·)
          .name name :: parts bound (marks.drop name.length)
      | slashes => .slashes (Mark.text slashes) :: parts bound (marks.drop slashes.length)

def literal (pattern : Pattern) : Bytes :=
  pattern.filterMap fun
    | .byte byte => some byte
    | _ => none

/-- How names are found.  With `hidden` those that begin with a dot are like all others, with `links`
the folder itself and the one above it can be found, and with `deep` two asterisks stand for folders
of any depth. -/
structure Manner where
  dialect : Pattern.Dialect := {}
  hidden : Bool := false
  links : Bool := true
  deep : Bool := false

def asksForDot (pattern : Pattern) : Bool :=
  match pattern.head? with
  | some (.byte byte) => byte == Ascii.dot
  | _ => false

/-- The names in a folder that match a pattern.  A name that begins with a dot is matched by a
pattern that does so. -/
def namesIn (world : World) (process : Nat) (manner : Manner) (folder : Bytes)
    (pattern : Pattern) : List Bytes :=
  let place := if folder = [] then [Ascii.dot] else folder
  match world.examine process place with
  | .ok (some id, { content := .folder _ entries, .. }) =>
      let entries := if world.files.permits id User.reading then entries else []
      let dotted := asksForDot pattern
      let names := if dotted ∧ manner.links then ascii "." :: ascii ".." :: entries.map (·.1)
        else entries.map (·.1)
      (names.filter fun name =>
        (dotted || manner.hidden || name.head? != some Ascii.dot) &&
          pattern.matchesWhole name).mergeSort
  | .ok (none, { content := .folder _ _, .. }) => shownNames world process place pattern
  | .ok (some _, { content := .processes, .. }) => shownNames world process place pattern
  | _ => []
where
  shownNames (world : World) (process : Nat) (place : Bytes) (pattern : Pattern) : List Bytes :=
    match world.locate process place with
    | .ok (.process _) =>
        let numbers := (world.process process).descriptors.map fun entry => Bytes.ofNat entry.1
        (numbers.filter pattern.matchesWhole).mergeSort
    | _ =>
        let numbers := world.processes.map fun entry => Bytes.ofNat entry.1
        (numbers.filter pattern.matchesWhole).mergeSort

def isFolder (world : World) (process : Nat) (text : Bytes) : Bool :=
  match world.examine process text with
  | .ok (_, { content := .folder _ _, .. }) | .ok (_, { content := .processes, .. }) => true
  | _ => false

def isPlainFolder (world : World) (process : Nat) (text : Bytes) : Bool :=
  match world.examine process text false with
  | .ok (_, { content := .folder _ _, .. }) => true
  | _ => false

/-- Everything below a folder whose text ends with a slash or is empty. -/
def below (world : World) (process : Nat) (manner : Manner) : Nat → Bytes → List Bytes
  | 0, _ => []
  | bound + 1, folder =>
      (namesIn world process manner folder [.any]).flatMap fun name =>
        let path := folder ++ name
        if isPlainFolder world process path then
          path :: below world process manner bound (path ++ ascii "/")
        else [path]

def isDeep (manner : Manner) (marks : List Mark) : Bool :=
  manner.deep && marks.length == 2 && marks.all (·.stands Ascii.asterisk)

/-- Follow the parts of a pattern from the texts found so far.  `matched` says whether a name was
chosen by a pattern, so that what follows must be there, and `certain` that the last name was. -/
def follow (world : World) (process : Nat) (manner : Manner) :
    List Part → Bool → Bool → List Bytes → List Bytes
  | [], matched, certain, found =>
      if matched ∧ !certain then
        found.filter fun text => (world.examine process text false).toOption.isSome
      else found
  | .slashes text :: rest, matched, _, found =>
      let found := if matched then
          found.filter fun folder => isFolder world process (folder ++ ascii "/")
        else found
      follow world process manner rest matched false (found.map (· ++ text))
  | .name marks :: rest, matched, _, found =>
      let pattern := Pattern.ofMarks marks manner.dialect
      if isDeep manner marks then
        let all := found.flatMap fun folder =>
          (if folder = [] then [] else [folder]) ++
            below world process manner Files.maximalPath folder
        match rest with
        | .slashes text :: rest =>
            let folders := found ++ (found.flatMap fun folder =>
              (below world process manner Files.maximalPath folder).filterMap fun path =>
                if isPlainFolder world process path then some (path ++ text) else none)
            if rest.isEmpty then folders.filter (· ≠ [])
            else follow world process manner rest true false folders
        | rest => follow world process manner rest true true all
      else if pattern.isOpen then
        follow world process manner rest true true (found.flatMap fun folder =>
          (namesIn world process manner folder pattern).map (folder ++ ·))
      else
        follow world process manner rest matched false (found.map (· ++ literal pattern))

def hasPatternMark (dialect : Pattern.Dialect) (marks : List Mark) : Bool :=
  (marks.any fun mark =>
    mark.stands Ascii.asterisk || mark.stands Ascii.question || mark.stands Ascii.openBracket) ||
    (dialect.groups && marks.any fun mark => mark.stands Ascii.openParenthesis)

/-- The names that match a field, in order.  There are none if it is no pattern. -/
def find (world : World) (process : Nat) (manner : Manner) (marks : List Mark) : List Bytes :=
  if hasPatternMark manner.dialect marks then
    let parts := parts (marks.length + 1) marks
    let chosen := parts.any fun
      | .name marks => (Pattern.ofMarks marks manner.dialect).isOpen
      | _ => false
    if chosen then (follow world process manner parts false false [[]]).mergeSort else []
  else []

end Rpn.Shell.Glob
