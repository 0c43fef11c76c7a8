import Rpn.Bytes

/-! What tools say about themselves.  Only serves the test environment. -/

namespace Rpn.Tool.About

def usage (name : Bytes) : Bytes :=
  ascii "Usage: " ++ name ++ ascii " [OPTION]... [FILE]..."

def collections : List (String × String) :=
  [ ("grep", "(GNU grep) 3.8"), ("egrep", "(GNU grep) 3.8"), ("fgrep", "(GNU grep) 3.8"),
    ("rgrep", "(GNU grep) 3.8"), ("sed", "(GNU sed) 4.9"), ("find", "(GNU findutils) 4.9.0"),
    ("xargs", "(GNU findutils) 4.9.0"), ("diff", "(GNU diffutils) 3.8"),
    ("cmp", "(GNU diffutils) 3.8"),
    ("more", "from util-linux 2.38.1"), ("rev", "from util-linux 2.38.1"),
    ("setsid", "from util-linux 2.38.1") ]

def version (name : Bytes) : Bytes :=
  let base := (name.splitOn Ascii.slash).getLastD []
  let found := (collections.find? fun entry => ascii entry.1 == base).map (·.2)
  base ++ Ascii.space :: ascii (found.getD "(GNU coreutils) 9.1")

end Rpn.Tool.About
