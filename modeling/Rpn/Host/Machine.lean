import Rpn.Host.Program

/-! Running processes side by side.  One process runs until it has to wait, ends or has used up its
share, and then it is the turn of the next.  When all wait, time goes on to the first moment for
which one of them waits.  Only serves the test environment. -/

namespace Rpn.Host

/-- The world and the processes that have not ended, the next one first. -/
structure Machine where
  world : World
  threads : List (Nat × Program) := []

namespace Machine

inductive Outcome where
  | ready (world : World) (program : Program)
  | forked (world : World) (program : Program) (child : Nat × Program)
  | waiting (world : World)
  | ended (world : World)

def stepTime : Nat := 2000

def tick (world : World) : World :=
  let { files, output, errors, pipes, descriptions, processes, fresh } := world
  let { nodes, now, user } := files
  { files := { nodes, now := now + stepTime, user }, output, errors, pipes, descriptions, processes,
    fresh }

/-- One step of a process.  A signal comes before what the process does itself. -/
def step (world : World) (number : Nat) (program : Program) : Outcome :=
  match world.deliver number with
  | (some signal, world) => .ended (world.endProcess number (.killed signal))
  | (none, world) =>
      if (world.process number).stopped then .waiting world
      else
        match program with
        | .finish ending => .ended (world.endProcess number ending)
        | .fork child next =>
            let (childNumber, world) := world.spawn number
            .forked world (next childNumber) (childNumber, child)
        | .access request =>
            match request number world with
            | some (world, program) => .ready (tick world) program
            | none => .waiting world

def nextWake (world : World) : Option Nat :=
  (world.processes.filterMap fun (_, process) => process.wake).min?

def share : Nat := 5000

/-- Run until a given process has ended.  The numbers bound the steps that are left, the steps of
the current process, and the processes that have not been found waiting in a row. -/
def runLoop (target : Nat) : Nat → Nat → Nat → World → List (Nat × Program) → Machine
  | 0, _, _, world, _ => { world := world.endProcess target (.killed Signal.kill) }
  | _, _, _, world, [] => { world }
  | bound + 1, left, idle, world, (number, program) :: rest =>
      match step world number program with
      | .ready world program =>
          if left = 0 then
            runLoop target bound share rest.length world (rest ++ [(number, program)])
          else runLoop target bound (left - 1) rest.length world ((number, program) :: rest)
      | .forked world program child =>
          runLoop target bound (left - 1) (rest.length + 1) world
            ((number, program) :: (rest ++ [child]))
      | .ended world =>
          if number = target then { world, threads := rest }
          else runLoop target bound share (rest.length - 1) world rest
      | .waiting world =>
          match idle with
          | idle + 1 => runLoop target bound share idle world (rest ++ [(number, program)])
          | 0 =>
              match nextWake world with
              | some moment =>
                  let files := { world.files with now := max moment world.now }
                  runLoop target bound share rest.length { world with files }
                    (rest ++ [(number, program)])
              | none => { world := world.endProcess target (.killed Signal.kill) }

/-- Let the processes that are left run on until a moment.  The numbers bound the steps that are left,
and the processes that have not been found waiting in a row. -/
def settle (deadline : Nat) : Nat → Nat → World → List (Nat × Program) → Machine
  | 0, _, world, threads => { world, threads }
  | _, _, world, [] => { world }
  | bound + 1, idle, world, (number, program) :: rest =>
      match step world number program with
      | .ready world program =>
          settle deadline bound rest.length world ((number, program) :: rest)
      | .forked world program child =>
          settle deadline bound (rest.length + 1) world ((number, program) :: (rest ++ [child]))
      | .ended world => settle deadline bound (rest.length - 1) world rest
      | .waiting world =>
          match idle with
          | idle + 1 => settle deadline bound idle world (rest ++ [(number, program)])
          | 0 =>
              match nextWake world with
              | some moment =>
                  if deadline < moment then { world, threads := (number, program) :: rest }
                  else
                    let files := { world.files with now := max moment world.now }
                    settle deadline bound rest.length { world with files }
                      (rest ++ [(number, program)])
              | none => { world, threads := (number, program) :: rest }

def settlingSteps : Nat := 2000

def settlingTime : Nat := 3000000

def maximalSteps : Nat := 100000000

def run (machine : Machine) (parent : Nat) (program : Program) : Ending × Machine :=
  let (number, world) := machine.world.spawn parent
  let threads := machine.threads ++ [(number, program)]
  let { world, threads } := runLoop number maximalSteps share threads.length world threads
  let machine :=
    settle (world.now + settlingTime) settlingSteps (threads.length - 1) world threads
  let ending := (machine.world.process number).ended.getD (.killed Signal.kill)
  (ending, { machine with world := machine.world.forget number })

end Machine

end Rpn.Host
