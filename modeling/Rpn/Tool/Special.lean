import Rpn.Tool.Dump
import Rpn.Tool.Entry
import Rpn.Tool.Grep
import Rpn.Tool.Listing

/-! Tools that are little more than a call of another one, and tools around the system.  Only serves
the test environment. -/

namespace Rpn.Tool

open Host Text

def rgrep : Main := fun arguments => grep (ascii "-r" :: arguments)

def dir : Main := fun arguments => ls (ascii "-C" :: ascii "-b" :: arguments)

def vdir : Main := fun arguments => ls (ascii "-l" :: ascii "-b" :: arguments)

/-! Showing page by page. -/

def more : Main := fun arguments => do
  let parsed ← Run.options
    [flag ["d"], flag ["f"], flag ["l"], flag ["c"], flag ["p"], flag ["s"], flag ["u"],
      valued ["n", "lines"]] arguments
  let names := if parsed.operands = [] then [[Ascii.minus]] else parsed.operands
  let bar := List.replicate 14 Ascii.colon
  for name in names do
    match ← readInput name with
    | .error fault =>
        Run.worry (ascii "cannot open " ++ name ++ ascii ": " ++ fault.message)
    | .ok text =>
        if !isStandard name then
          Run.say (Bytes.line bar ++ Bytes.line name ++ Bytes.line bar)
        Run.say text
  Run.status

end Rpn.Tool
