import Rpn.Tool.About
import Rpn.Tool.Quoting

/-! Options among the arguments of tools.  Only serves the test environment. -/

namespace Rpn.Tool

inductive Arity where
  | none
  | required
  | optional
  deriving DecidableEq, Repr

/-- An option by its spellings, single letters and words.  The first one is its name. -/
structure Choice where
  spellings : List String
  arity : Arity := .none

def flag (spellings : List String) : Choice :=
  { spellings }

def valued (spellings : List String) : Choice :=
  { spellings, arity := .required }

def perhapsValued (spellings : List String) : Choice :=
  { spellings, arity := .optional }

structure Given where
  name : String
  argument : Option Bytes := none

structure Parsed where
  given : List Given := []
  operands : List Bytes := []

namespace Parsed

def has (parsed : Parsed) (name : String) : Bool :=
  parsed.given.any (·.name == name)

def value? (parsed : Parsed) (name : String) : Option Bytes :=
  ((parsed.given.filter (·.name == name)).getLast?).bind (·.argument)

def values (parsed : Parsed) (name : String) : List Bytes :=
  (parsed.given.filter (·.name == name)).filterMap (·.argument)

def last? (parsed : Parsed) (names : List String) : Option String :=
  ((parsed.given.filter fun given => names.contains given.name).getLast?).map (·.name)

end Parsed

namespace Choice

def name (choice : Choice) : String :=
  choice.spellings.headD ""

def isShort (spelling : String) : Bool :=
  spelling.length == 1

def ofLetter? (choices : List Choice) (letter : UInt8) : Option Choice :=
  choices.find? fun choice => choice.spellings.any fun spelling =>
    isShort spelling && ascii spelling == [letter]

def ofWord (choices : List Choice) (word : Bytes) : List (Bytes × Choice) :=
  let known := choices.flatMap fun choice =>
    (choice.spellings.filter (!isShort ·)).map fun spelling => (ascii spelling, choice)
  match known.find? (·.1 == word) with
  | some found => [found]
  | none => known.filter fun (spelling, _) => word.isPrefixOf spelling

end Choice

namespace Options

/-- Take the letters of one argument.  A letter with an argument takes the rest or the next
word. -/
def takeLetters (choices : List Choice) :
    Bytes → List Bytes → Except Bytes (List Given × List Bytes)
  | [], rest => .ok ([], rest)
  | letter :: letters, rest => do
      match Choice.ofLetter? choices letter with
      | none => .error (ascii "invalid option -- '" ++ letter :: ascii "'")
      | some choice =>
          match choice.arity, letters, rest with
          | .none, _, _ =>
              let (given, rest) ← takeLetters choices letters rest
              return ({ name := choice.name } :: given, rest)
          | .optional, [], _ => return ([{ name := choice.name }], rest)
          | .optional, argument, _ | .required, argument@(_ :: _), _ =>
              return ([{ name := choice.name, argument := some argument }], rest)
          | .required, [], argument :: rest =>
              return ([{ name := choice.name, argument := some argument }], rest)
          | .required, [], [] =>
              .error (ascii "option requires an argument -- '" ++ letter :: ascii "'")

def takeWord (choices : List Choice) (word : Bytes) (rest : List Bytes) :
    Except Bytes (Given × List Bytes) :=
  let name := word.takeWhile (· != Ascii.equals)
  let argument? := if name.length < word.length then some (word.drop (name.length + 1)) else none
  match Choice.ofWord choices name with
  | [] => .error (ascii "unrecognized option '--" ++ word ++ ascii "'")
  | (spelling, choice) :: others =>
      if others.any fun (_, other) => other.name != choice.name then
        .error (ascii "option '--" ++ word ++ ascii "' is ambiguous; possibilities:" ++
          (((spelling, choice) :: others).flatMap fun (spelling, _) =>
            ascii " '--" ++ spelling ++ ascii "'"))
      else
        match choice.arity, argument?, rest with
        | .none, some _, _ =>
            .error (ascii "option '--" ++ spelling ++ ascii "' doesn't allow an argument")
        | .none, none, _ | .optional, none, _ => .ok ({ name := choice.name }, rest)
        | _, some argument, _ => .ok ({ name := choice.name, argument := some argument }, rest)
        | .required, none, argument :: rest =>
            .ok ({ name := choice.name, argument := some argument }, rest)
        | .required, none, [] =>
            .error (ascii "option '--" ++ spelling ++ ascii "' requires an argument")

/-- Find the options among arguments.  With `early` the first other argument ends them.  The number
bounds how many arguments there are. -/
def parseFrom (choices : List Choice) (early : Bool) : Nat → List Bytes → Except Bytes Parsed
  | 0, _ => .ok {}
  | _, [] => .ok {}
  | bound + 1, word :: rest => do
      if word = ascii "--" then return { operands := rest }
      else
        match word with
        | Ascii.minus :: Ascii.minus :: text =>
            let (given, rest) ← takeWord choices text rest
            let parsed ← parseFrom choices early bound rest
            return { parsed with given := given :: parsed.given }
        | Ascii.minus :: letter :: letters =>
            let (given, rest) ← takeLetters choices (letter :: letters) rest
            let parsed ← parseFrom choices early bound rest
            return { parsed with given := given ++ parsed.given }
        | _ =>
            if early then return { operands := word :: rest }
            else
              let parsed ← parseFrom choices early bound rest
              return { parsed with operands := word :: parsed.operands }

def parse (choices : List Choice) (arguments : List Bytes) (early : Bool := false) :
    Except Bytes Parsed :=
  parseFrom choices early (arguments.length + 1) arguments

def optionWordsFrom (choices : List Choice) : Nat → List Bytes → List Bytes
  | 0, _ => []
  | _, [] => []
  | bound + 1, word :: rest =>
      let taken : Except Bytes (List Bytes) := match word with
        | Ascii.minus :: Ascii.minus :: text => (takeWord choices text rest).map Prod.snd
        | Ascii.minus :: letter :: letters =>
            (takeLetters choices (letter :: letters) rest).map Prod.snd
        | _ => .error []
      if word = ascii "--" then [word]
      else
        match taken with
        | .ok after =>
            (word :: rest).take (rest.length + 1 - after.length) ++
              optionWordsFrom choices bound after
        | .error _ => optionWordsFrom choices bound rest

def optionWords (choices : List Choice) (arguments : List Bytes) : List Bytes :=
  optionWordsFrom choices (arguments.length + 1) arguments

end Options

namespace Run

/-- Find the options of a tool.  Help and the version end it. -/
def parse (choices : List Choice) (arguments : List Bytes) (early : Bool := false) :
    Run (Except Bytes Parsed) := do
  let all := choices ++ [flag ["help"], flag ["version"]]
  match Options.parse all arguments early with
  | .error message => return .error message
  | .ok parsed =>
      match parsed.last? ["help", "version"] with
      | none => return .ok parsed
      | some asked =>
          let name := (← get).name
          sayLine (if asked = "help" then About.usage name else About.version name)
          throw 0

def options (choices : List Choice) (arguments : List Bytes) (early : Bool := false)
    (status : Nat := 1) : Run Parsed := do
  match ← parse choices arguments early with
  | .ok parsed => return parsed
  | .error message => failWithHint message status

/-- The word that an argument of an option stands for.  Words of one group mean the same; an
abbreviation of only one of them stands for it.  The answer is the first word of the group. -/
def choose (option : String) (groups : List (List String)) (text : Bytes) (status : Nat := 1) :
    Run String := do
  let found := fun (isFound : Bytes → Bool) =>
    groups.filter fun group => group.any fun word => isFound (ascii word)
  let refused := fun (kind : String) => do
    complain (ascii kind ++ ascii " argument " ++ Quoting.plain text ++ ascii " for " ++
      Quoting.plain (ascii option))
    note (Bytes.line (ascii "Valid arguments are:") ++ groups.flatMap fun group =>
      let words := group.map fun word => Quoting.plain (ascii word)
      Bytes.line (ascii "  - " ++ (ascii ", ").intercalate words))
    note (Bytes.line (ascii "Try '" ++ (← get).name ++ ascii " --help' for more information."))
    throw status
  match found (· == text), found (text.isPrefixOf ·) with
  | group :: _, _ => return group.headD ""
  | [], [group] => return group.headD ""
  | [], [] => refused "invalid"
  | [], _ => refused "ambiguous"

end Run

end Rpn.Tool
