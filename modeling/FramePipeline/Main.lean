import FramePipeline.Config.Load
import FramePipeline.Program.Basic

/-!
# The command line

`main` loads the configuration from the file that the first argument names and from the environment,
and runs the pipeline with it.
-/

namespace FramePipeline

/-- The bytes of a file; none if there is no such file. -/
def readFile? (path : String) : IO (Option ByteArray) := do
  try
    return some (← IO.FS.readBinFile path)
  catch _ =>
    return none

/-- The files among some paths. -/
def readFiles (paths : List String) : IO (List (String × ByteArray)) := do
  paths.filterMapM fun path => do
    return (← readFile? path).map (path, ·)

/-- The assignments of an environment, as the system lists them: each ends with a zero character. -/
def assignmentsOf (text : String) : List (String × String) :=
  (text.splitOn (String.singleton (Char.ofNat 0))).filterMap fun line =>
    match line.splitOn "=" with
    | name :: value :: rest => some (name, "=".intercalate (value :: rest))
    | _ => none

/-- The environment of the process. -/
def readEnvironment : IO (List (String × String)) := do
  let bytes := (← readFile? "/proc/self/environ").getD .empty
  return assignmentsOf ((String.fromUTF8? bytes).getD "")

/-- Prints messages, one a line. -/
def say (messages : List String) : IO Unit := do
  for m in messages do
    IO.println m

/-- The time since `begun`. -/
def elapsedSince (begun : Nat) : IO Duration := do
  return ⟨(← IO.monoNanosNow) - begun⟩

/-- Runs the program until its time is over. -/
partial def runFrom (begun : Nat) (p : Program) : IO Program := do
  let now ← elapsedSince begun
  if p.isOver now then return p
  let (messages, p) := p.tick now
  say messages
  IO.sleep (UInt32.ofNat (max 1 (min p.config.pipeline.pollIntervalMs.toNat 1000)))
  runFrom begun p

/-- Ends with a failure. -/
def fail (e : ProgramError) : IO UInt32 := do
  IO.eprintln ("Error: " ++ e.message)
  return UInt32.ofNat e.exitCode

/-- The machine at this moment. No core is set aside for the render worker. -/
def readMachine : IO Machine := do
  return ⟨0, (← IO.monoNanosNow) / 1000000000⟩

/-- Runs the pipeline with a configuration. -/
def runWith (config : Config) : IO UInt32 := do
  let machine ← readMachine
  let opening := Transcript.opening machine config
  say (opening.main.drop 1 ++ opening.threads)
  match Program.ofConfig machine config with
  | .error e => fail e
  | .ok p =>
    let begun ← IO.monoNanosNow
    let p ← runFrom begun p
    let p := p.shutDown (← elapsedSince begun)
    say [RunEnd.elapsed.message, "Handoff stats: " ++ p.stats.structureText,
      Transcript.shuttingDown]
    return 0

end FramePipeline

open FramePipeline in
/-- Runs the pipeline with the configuration of the file that the first argument names. -/
def main (args : List String) : IO UInt32 := do
  say [Transcript.launching]
  let path := args.head?
  let files ← readFiles ((path.map ConfigFile.candidates).getD [])
  let vars := Environment.ofAssignments (← readEnvironment)
  match Config.load (fun p => files.lookup p) path vars with
  | .error e => fail (.ofLoad e)
  | .ok config => runWith config
