import Fiction.CommandLine.Run

/-!
# Fiction.Main

The program: reads files and lines, prints, and leaves all else to `Fiction.CommandLine`.
-/

open Fiction Fiction.CommandLine

/-- The text of a file, if it can be read. -/
def readText? (path : String) : IO (Option String) := do
  try
    return some (← IO.FS.readFile path)
  catch _ => return none

/-- The files under a directory, by their paths in it. -/
partial def filesUnder (path : String) : IO (List (List String)) := do
  let mut found := []
  for entry in ← (← IO.FS.realPath path).readDir do
    let inner := path ++ "/" ++ entry.fileName
    if ← entry.path.isDir then
      found := (← filesUnder inner).map (entry.fileName :: ·) ++ found
    else
      found := [entry.fileName] :: found
  return found

/-- The shelf with the files that an action and its settings name. -/
def gather (arguments : Arguments) : IO Shelf := do
  let (single, listed) ← match arguments.action with
    | .render story _ => pure ([story], [])
    | .play story => pure ([story], [])
    | .check path =>
        try
          let names ← filesUnder path
          let start := if path.endsWith "/" then path else path ++ "/"
          let files := (names.mergeSort precedes).map fun n => start ++ String.intercalate "/" n
          pure ([], files)
        catch _ => pure ([path], if (← readText? path).isSome then [path] else [])
  let mut texts := []
  for path in single ++ listed ++ arguments.settings.toList do
    match ← readText? path with
    | some text => texts := (path, text) :: texts
    | none => pure ()
  let known := texts
  return { read? := fun path => known.lookup path, under := fun _ => listed }

/-- Tells what went wrong. -/
def complain (faults : List Fault) : IO Unit :=
  faults.forM fun fault => IO.eprintln fault.message

/-- Draws a state of chance. -/
def drawChance : IO Chance := do
  let word : IO UInt64 := do
    return (← IO.getRandomBytes 8).foldl (fun n b => n * 256 + b.toUInt64) 0
  return ⟨← word, ← word, ← word, ← word⟩

/-- Plays on with lines as they come. -/
partial def playOn (game : Game) : IO Unit := do
  let out ← IO.getStdout
  out.putStr prompt
  out.flush
  let line ← (← IO.getStdin).getLine
  if line.isEmpty then return ()
  let a := game.answer (← drawChance) line
  out.putStr a.output
  complain a.fault.toList
  match a.game with
  | some game => playOn game
  | none => pure ()

/-- Prints a response and gives its exit code. -/
def respond (r : Response) : IO UInt32 := do
  (← IO.getStdout).putStr r.output
  complain r.faults
  return r.exit.toUInt32

/-- Carries out a command line. -/
def main (words : List String) : IO UInt32 := do
  match Request.ofWords words with
  | .run arguments =>
      let shelf ← gather arguments
      let drawn ← drawChance
      match arguments.action with
      | .play story =>
          let game := do
            let settings ← loadSettings shelf arguments.settings
            Game.begin (← openSession shelf settings drawn story)
          match game with
          | .ok game =>
              (← IO.getStdout).putStr game.shown.page
              playOn game
              return 0
          | .error fault => respond (.ofFault fault)
      | _ => respond (run shelf words (fun _ => drawn) [])
  | .invalid =>
      IO.eprint (Topic.text .program)
      return 2
  | _ => respond (run (.ofFiles []) words default [])
