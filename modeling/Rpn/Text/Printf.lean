import Rpn.Text.Directive
import Rpn.Text.Escape

/-! Writing arguments by a format, which is used again until all arguments are written.  Only serves
the test environment. -/

namespace Rpn.Text.Printf

inductive Concern where
  | notNumber (text : Bytes)
  | incomplete (text : Bytes)
  | outOfRange (text : Bytes)
  | trailing (text : Bytes)

inductive Refusal where
  | directive (text : Bytes)
  | unfinished (text : Bytes)
  | escape
  | width (text : Bytes)

/-- What differs between printers: the escapes of formats and of arguments that ask for them, the
kind of floating numbers, the letters of directives, whether lengths may stand before a letter,
and whether quoted forms and times can be asked for. -/
structure Manner where
  format : Escape.Manner
  argument : Escape.Manner
  binary : Binary.Format
  lead : Nat
  lengths : Bool
  quote : Option (Bytes → Bytes)
  time : Option (Bytes → Option Int → Bytes) := none

/-- The state of a printer: the arguments that are left, what is printed in reverse, the concerns
in reverse and whether an argument was used. -/
structure State where
  arguments : List Bytes
  used : Bool := false
  printed : List Bytes := []
  concerns : List Concern := []

/-- How printing ended: whether it was asked to stop, or why it was refused. -/
inductive Ending where
  | done
  | stopped
  | refused (refusal : Refusal)

def State.print (state : State) (text : Bytes) : State :=
  { state with printed := text :: state.printed }

def State.take (state : State) : Option Bytes × State :=
  match state.arguments with
  | [] => (none, state)
  | first :: rest => (some first, { state with arguments := rest, used := true })

def State.worry (state : State) (concern : Concern) : State :=
  { state with concerns := concern :: state.concerns }

/-! Numbers. -/

def readInteger? (text : Bytes) : Option (Int × Bytes) :=
  let text := text.dropWhile isSpace
  let (negative, digits) := match text with
    | Ascii.minus :: rest => (true, rest)
    | Ascii.plus :: rest => (false, rest)
    | rest => (false, rest)
  let inBase := fun (base : Nat) (digits : Bytes) =>
    let isOne := fun byte => ((Binary.hexValue? byte).filter (· < base)).isSome
    let found := digits.takeWhile isOne
    let value : Int := found.foldl
      (fun number byte => number * base + (Binary.hexValue? byte).getD 0) (0 : Nat)
    if found = [] then none
    else some (if negative then -value else value, digits.drop found.length)
  if Binary.beginsWith "0x" digits then
    match inBase 16 (digits.drop 2) with
    | some found => some found
    | none => some (0, digits.drop 1)
  else if digits.head? = some Ascii.zero then inBase 8 digits
  else inBase 10 digits

/-- The number that an argument stands for.  After a quote it is the next byte. -/
def integer (signed : Bool) (state : State) : Int × State :=
  match state.take with
  | (none, state) => (0, state)
  | (some text, state) =>
      match text with
      | Ascii.singleQuote :: rest | Ascii.doubleQuote :: rest =>
          match rest with
          | [] => (0, state)
          | byte :: after =>
              (byte.toNat, if after = [] then state else state.worry (.trailing after))
      | text =>
          match readInteger? text with
          | none => (0, state.worry (.notNumber text))
          | some (value, rest) =>
              let low : Int := if signed then -9223372036854775808 else -18446744073709551615
              let high : Int := if signed then 9223372036854775807 else 18446744073709551615
              let state := if rest ≠ [] then state.worry (.incomplete text)
                else if value < low ∨ high < value then state.worry (.outOfRange text)
                else state
              let value := if signed then max low (min high value)
                else if value < low ∨ high < value then high
                else value
              (value, state)

def floating (manner : Manner) (state : State) : Binary × State :=
  match state.take with
  | (none, state) => (.finite false 0 0, state)
  | (some text, state) =>
      match text with
      | Ascii.singleQuote :: rest | Ascii.doubleQuote :: rest =>
          match rest with
          | [] => (.finite false 0 0, state)
          | byte :: after =>
              (.finite false byte.toNat 0,
                if after = [] then state else state.worry (.trailing after))
      | text =>
          match Binary.readPrefix? manner.binary text with
          | none => (.finite false 0 0, state.worry (.notNumber text))
          | some (value, rest) =>
              (value, if rest = [] then state else state.worry (.incomplete text))

/-! Directives. -/

def readCount (input : Bytes) (state : State) : Option Int × Bytes × State :=
  match input with
  | Ascii.asterisk :: rest =>
      let (value, state) := integer true state
      (some value, rest, state)
  | input =>
      let digits := input.takeWhile isDigit
      (if digits = [] then none else some (Bytes.valueOf digits), input.drop digits.length, state)

def readDirective (manner : Manner) (input : Bytes) (state : State) :
    Directive × Bytes × State :=
  let (directive, rest) := Directive.readFlags {} input
  let (width, rest, state) := readCount rest state
  let directive := match width with
    | some width =>
        if width < 0 then { directive with left := true, width := width.natAbs }
        else { directive with width := width.toNat }
    | none => directive
  let (directive, rest, state) := match rest with
    | Ascii.dot :: rest =>
        let (precision, rest, state) := readCount rest state
        let directive := match precision with
          | some precision =>
              if precision < 0 then directive
              else { directive with precision := some precision.toNat }
          | none => { directive with precision := some 0 }
        (directive, rest, state)
    | rest => (directive, rest, state)
  let rest := if manner.lengths then rest.dropWhile ((ascii "lhjztL").contains ·) else rest
  (directive, rest, state)

def perform (manner : Manner) (directive : Directive) (state : State) : Option (State × Bool) :=
  let plain := fun state => some (state, false)
  match Char.ofNat directive.letter.toNat with
  | 's' =>
      let (text, state) := state.take
      plain (state.print (directive.text (text.getD [])))
  | 'c' =>
      let (text, state) := state.take
      let shown := match text with
        | some (first :: _) => [first]
        | _ => [0]
      plain (state.print ({ directive with precision := none }.text shown))
  | 'b' =>
      let (text, state) := state.take
      let (shown, stopped) := Escape.replace manner.argument (text.getD [])
      some (state.print (directive.text shown), stopped)
  | 'q' =>
      manner.quote.map fun quote =>
        let (text, state) := state.take
        (state.print (directive.text (quote (text.getD []))), false)
  | 'd' | 'i' =>
      let (value, state) := integer true state
      plain (state.print (directive.signed value))
  | 'o' | 'u' | 'x' | 'X' =>
      let (value, state) := integer false state
      plain (state.print (directive.unsigned (value % 18446744073709551616).toNat))
  | 'e' | 'E' | 'f' | 'F' | 'g' | 'G' | 'a' | 'A' =>
      let (value, state) := floating manner state
      plain (state.print (directive.binary manner.binary manner.lead value))
  | _ => none

def timeFormat? : Nat → Bytes → Option (Bytes × Bytes)
  | _, [] => none
  | depth, byte :: rest =>
      if byte = Ascii.closeParenthesis ∧ depth = 0 then some ([], rest)
      else
        let depth := if byte = Ascii.openParenthesis then depth + 1
          else if byte = Ascii.closeParenthesis then depth - 1 else depth
        (timeFormat? depth rest).map fun (text, rest) => (byte :: text, rest)

def performTime (manner : Manner) (directive : Directive) (input : Bytes) (state : State) :
    Option (State × Bytes) := do
  let time ← manner.time
  let (format, rest) ← timeFormat? 0 input
  match rest with
  | 84 :: rest =>
      let isMissing := state.arguments.isEmpty
      let (value, state) := integer true state
      let text := time format (if isMissing then none else some value)
      return (state.print (directive.text text), rest)
  | _ => none

def runOnce (manner : Manner) : Nat → Bytes → State → Ending × State
  | 0, _, state => (.done, state)
  | _, [], state => (.done, state)
  | bound + 1, byte :: rest, state =>
      if byte = Ascii.backslash then
        match Escape.read manner.format rest with
        | .bytes shown rest => runOnce manner bound rest (state.print shown)
        | .stop => (.stopped, state)
        | .invalid => (.refused .escape, state)
      else if byte = Ascii.percent then
        if rest.head? = some Ascii.percent then
          runOnce manner bound rest.tail (state.print [Ascii.percent])
        else
          let (directive, after, state) := readDirective manner rest state
          let shown := Ascii.percent :: rest.take (rest.length - after.length + 1)
          match after with
          | [] => (.refused (.unfinished shown), state)
          | letter :: after =>
              let timed := if letter = Ascii.openParenthesis then
                  performTime manner directive after state
                else none
              match timed with
              | some (state, after) => runOnce manner bound after state
              | none =>
                  match perform manner { directive with letter } state with
                  | none => (.refused (.directive shown), state)
                  | some (state, true) => (.stopped, state)
                  | some (state, false) => runOnce manner bound after state
      else
        let plain := (byte :: rest).takeWhile fun byte =>
          byte != Ascii.backslash && byte != Ascii.percent
        runOnce manner bound ((byte :: rest).drop plain.length) (state.print plain)

def runAll (manner : Manner) (format : Bytes) : Nat → State → Ending × State
  | 0, state => (.done, state)
  | bound + 1, state =>
      match runOnce manner (format.length + 1) format { state with used := false } with
      | (.done, state) =>
          if state.used ∧ state.arguments ≠ [] then runAll manner format bound state
          else (.done, state)
      | ended => ended

structure Result where
  text : Bytes
  concerns : List Concern
  ending : Ending
  left : List Bytes

def run (manner : Manner) (format : Bytes) (arguments : List Bytes) : Result :=
  let (ending, state) := runAll manner format (arguments.length + 1) { arguments }
  { text := state.printed.reverse.flatten, concerns := state.concerns.reverse, ending
    left := state.arguments }

end Rpn.Text.Printf
