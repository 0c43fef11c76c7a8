import Rpn.Shell.Arithmetic
import Rpn.Shell.Field
import Rpn.Shell.Printer
import Rpn.Shell.State

/-! The values of parameters and what can be done with them.  Part of the test environment. -/

namespace Rpn.Shell

open Host

/-- The value of a parameter.  Several values that are `joined` form one text where they are
quoted. -/
inductive Parameter where
  | unset
  | one (text : Bytes)
  | many (joined : Bool) (texts : List Bytes)

namespace Parameter

/-- Options that have a letter.  The last one comes first in `$-`. -/
def optionLetters : List (String × UInt8) :=
  [("errexit", 101), ("noglob", 102), ("ignoreeof", 73), ("interactive", 105), ("monitor", 109),
    ("noexec", 110), ("stdin", 115), ("xtrace", 120), ("verbose", 118), ("vi", 86),
    ("emacs", 69), ("noclobber", 67), ("allexport", 97), ("notify", 98), ("nounset", 117)]

/-- Those of the extended language, in the order in which `$-` shows them. -/
def extendedLetters : List (String × UInt8) :=
  [("allexport", 97), ("notify", 98), ("errexit", 101), ("noglob", 102), ("hashall", 104),
    ("interactive", 105), ("keyword", 107), ("monitor", 109), ("noexec", 110),
    ("privileged", 112), ("onecmd", 116), ("nounset", 117), ("verbose", 118), ("xtrace", 120),
    ("braceexpand", 66), ("noclobber", 67), ("errtrace", 69), ("histexpand", 72),
    ("physical", 80), ("functrace", 84), ("commands", 99), ("stdin", 115)]

def flags (shell : State) : Bytes :=
  let letters := if shell.extended then extendedLetters else optionLetters.reverse
  letters.filterMap fun (name, letter) =>
    if shell.options.contains (ascii name) then some letter else none

def optionTexts (names : List Bytes) : Bytes :=
  ((names.mergeSort).intersperse [Ascii.colon]).flatten

def isInternalOption (name : Bytes) : Bool :=
  name == ascii "commands" || name == ascii "stdin" || name == ascii "interactive"

def isScript (shell : State) : Bool :=
  shell.sourced < shell.sources.length

def sourcesOf : List Bytes → List Bytes → List Bytes
  | [], sources => sources.take 1
  | caller :: callers, sources =>
      sources.headD (ascii "environment") ::
        sourcesOf callers (if caller = ascii "source" then sources.tail else sources)

def momentary? (shell : State) (name : Bytes) : Option Value :=
  if !shell.extended then none
  else
    let numbers := fun (values : List Nat) => Value.ofTexts (values.map .ofNat)
    if name = ascii "LINENO" then some (.text (.ofNat shell.line))
    else if name = ascii "PIPESTATUS" then some (numbers shell.statuses)
    else if name = ascii "FUNCNAME" then
      if shell.callers = [] then none
      else
        some (.ofTexts (shell.callers ++ (if isScript shell then [ascii "main"] else [])))
    else if name = ascii "BASH_LINENO" then
      some (numbers (shell.lines ++ (if isScript shell then [0] else [])))
    else if name = ascii "BASH_SOURCE" then
      some (.ofTexts (sourcesOf shell.callers shell.sources))
    else if name = ascii "GROUPS" then some (numbers [shell.group])
    else if name = ascii "BASH_COMMAND" then
      some (.text (Printer.command Printer.maximalNesting 0 shell.current))
    else if name = ascii "BASH_SUBSHELL" then some (.text (.ofNat shell.level))
    else if name = ascii "RANDOM" then
      some (.text (.ofNat ((shell.number * 7919 + shell.line * 31 + shell.fresh * 17) % 32768)))
    else if name = ascii "DIRSTACK" then some (.ofTexts (shell.folder :: shell.folders))
    else if name = ascii "SHELLOPTS" then
      some (.text (optionTexts (shell.options.filter (!isInternalOption ·))))
    else if name = ascii "BASHOPTS" then some (.text (optionTexts shell.settings))
    else none

def valueOf? (shell : State) (name : Bytes) : Option Value :=
  (momentary? shell name).or (shell.known.value? name)

def ofName (shell : State) (name : Bytes) : Parameter :=
  match name with
  | [mark] =>
      if mark = Ascii.atSign then .many false shell.arguments
      else if mark = Ascii.asterisk then .many true shell.arguments
      else if mark = Ascii.hash then .one (.ofNat shell.arguments.length)
      else if mark = Ascii.question then .one (.ofNat shell.status)
      else if mark = Ascii.minus then .one (flags shell)
      else if mark = Ascii.dollar then .one (.ofNat shell.number)
      else if mark = Ascii.exclamation then
        match shell.lastBackground with
        | some number => .one (.ofNat number)
        | none => .unset
      else named [mark]
  | name => named name
where
  named (name : Bytes) : Parameter :=
    match Bytes.toNat? name with
    | some 0 => .one shell.name
    | some number =>
        match shell.arguments[number - 1]? with
        | some text => .one text
        | none => .unset
    | none =>
        match (valueOf? shell name).bind Value.text? with
        | some text => .one text
        | none => .unset

def ofArray (shell : State) (name : Bytes) (joined : Bool) : Parameter :=
  match valueOf? shell name with
  | some value => .many joined value.texts
  | none => .unset

def ofElement (value : Option Value) (index : Int) : Parameter :=
  match value with
  | none => .unset
  | some value =>
      let elements := value.asList
      let last := ((elements.map (·.1)).getLast?).getD 0
      let index := if index < 0 then index + last + 1 else index
      if index < 0 then .unset
      else
        match elements.lookup index.toNat with
        | some text => .one text
        | none => .unset

/-- Whether a parameter has no value, or with `colon` only an empty one. -/
def isMissing (colon : Bool) : Parameter → Bool
  | unset => true
  | one text => colon && text.isEmpty
  | many _ [] => true
  | many _ texts => colon && texts.all (·.isEmpty)

def map (change : Bytes → Bytes) : Parameter → Parameter
  | unset => unset
  | one text => .one (change text)
  | many joined texts => .many joined (texts.map change)

/-! Changes of a text. -/

def replaceIn (pattern : Pattern) (replacement : Bytes → Bytes) (all : Bool) :
    Nat → Bytes → Bytes
  | 0, text => text
  | bound + 1, text =>
      match text with
      | [] => []
      | byte :: rest =>
          match pattern.longestFront? text with
          | some (length + 1) =>
              let rest := text.drop (length + 1)
              replacement (text.take (length + 1)) ++ (if all then replaceIn pattern replacement all bound rest else rest)
          | _ => byte :: replaceIn pattern replacement all bound rest

def replace (pattern : Pattern) (replacement : Bytes → Bytes) (all front back : Bool)
    (text : Bytes) : Bytes :=
  if front then
    match pattern.longestFront? text with
    | some length => replacement (text.take length) ++ text.drop length
    | none => text
  else if back then
    match (List.range (text.length + 1)).find? fun length =>
        pattern.matchesWhole (text.drop length) with
    | some length => text.take length ++ replacement (text.drop length)
    | none => text
  else replaceIn pattern replacement all (text.length + 1) text

def recase (pattern : Pattern) (casing : Casing) (all : Bool) (text : Bytes) : Bytes :=
  let change := fun byte =>
    if pattern.isEmpty || pattern.matchesWhole [byte] then
      match casing with
      | .upper => Text.toUpper byte
      | .lower => Text.toLower byte
      | .swapped =>
          if Text.toUpper byte = byte then Text.toLower byte else Text.toUpper byte
    else byte
  match text with
  | [] => []
  | first :: rest => change first :: (if all then rest.map change else rest)

/-- A part of a list from an offset on, with at most `length` members.  A negative length counts
from the end; there is no answer if it lies before the offset. -/
def slice? {α : Type} (offset : Int) (length : Option Int) (values : List α) :
    Option (List α) :=
  let size : Int := values.length
  let start := if offset < 0 then offset + size else offset
  if start < 0 ∨ size < start then some []
  else
    let rest := values.drop start.toNat
    match length with
    | none => some rest
    | some length =>
        if 0 ≤ length then some (rest.take length.toNat)
        else
          let stop := size + length - start
          if stop < 0 then none else some (rest.take stop.toNat)

def isPrintable (byte : UInt8) : Bool :=
  32 ≤ byte && byte ≤ 126

def octal (width number : Nat) : Bytes :=
  let digits := (Nat.toDigits 8 number).map Char.toUInt8
  List.replicate (width - digits.length) Ascii.zero ++ digits

/-- A byte between `$'` and `'`. -/
def escapedByte (byte : UInt8) : Bytes :=
  match ([7, 8, 9, 10, 11, 12, 13, 27, 39, 92] : Bytes).zip (ascii "abtnvfrE'\\") |>.lookup byte with
  | some letter => [Ascii.backslash, letter]
  | none => if isPrintable byte then [byte] else Ascii.backslash :: octal 3 byte.toNat

def quotedForm (text : Bytes) : Bytes :=
  if text.all isPrintable then
    Ascii.singleQuote :: (text.flatMap fun byte =>
      if byte = Ascii.singleQuote then ascii "'\\''" else [byte]) ++ [Ascii.singleQuote]
  else ascii "$'" ++ text.flatMap escapedByte ++ ascii "'"

end Parameter

end Rpn.Shell
