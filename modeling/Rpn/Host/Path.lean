import Rpn.Bytes

/-! Places in a file tree.  Part of the test environment. -/

namespace Rpn.Host

abbrev Path := List Bytes

namespace Path

/-- The names in the text of a path.  A trailing slash asks for a folder; there is an empty name
after it. -/
def parts (text : Bytes) : List Bytes :=
  let names := (text.splitOn Ascii.slash).filter (· ≠ [])
  if text.getLast? = some Ascii.slash then names ++ [[]] else names

def isAbsolute (text : Bytes) : Bool :=
  text.head? == some Ascii.slash

def join : List Bytes → Bytes
  | [] => []
  | [name] => name
  | name :: rest => name ++ Ascii.slash :: join rest

def render (path : Path) : Bytes :=
  Ascii.slash :: join path

def baseName (text : Bytes) : Bytes :=
  match ((text.splitOn Ascii.slash).filter (· ≠ [])).getLast? with
  | some name => name
  | none => if text = [] then [] else [Ascii.slash]

def folderName (text : Bytes) : Bytes :=
  let names := ((text.splitOn Ascii.slash).filter (· ≠ [])).dropLast
  match names, isAbsolute text with
  | [], false => [Ascii.dot]
  | names, true => render names
  | names, false => join names

end Path

end Rpn.Host
