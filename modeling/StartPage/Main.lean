import StartPage.Console

/-!
    The program: it reads the page from its directory, runs the words of the command line or the
    lines of the input, and writes the page back after every line. -/

namespace StartPage.Console

/-- The path of the file that keeps the folders. -/
def foldersPath (directory : String) : String := directory ++ "/folders.json"

/-- The path of the file that keeps the settings. -/
def configPath (directory : String) : String := directory ++ "/config.json"

/-- Looks at the place of a file. -/
def readCell (path : String) : IO Cell := do
  try
    let bytes ← IO.FS.readBinFile path
    return match String.fromUTF8? bytes with
      | some s => .text s
      | none => .garbled
  catch e =>
    return match e with
      | .noFileOrDirectory _ _ _ => .missing
      | _ => .directory

/-- Makes the directory of a home if need be, and looks at what is there. -/
def readHome (directory : String) : IO Home := do
  try
    IO.FS.createDirAll directory
    return ⟨true, ← readCell (foldersPath directory), ← readCell (configPath directory)⟩
  catch _ => return ⟨false, .missing, .missing⟩

/-- Writes a file, if it holds text and can be written. -/
def writeCell (path : String) : Cell → IO Unit
  | .text s => do try IO.FS.writeFile path s catch _ => pure ()
  | _ => pure ()

/-- Writes both files of a home. -/
def writeHome (directory : String) (h : Home) : IO Unit := do
  writeCell (foldersPath directory) h.folders
  writeCell (configPath directory) h.config

/-- Runs a line, prints what it says, and writes the page. -/
def runLine (directory : String) (s : Session) (line : String) : IO (Session × Response) := do
  let (s, r) := s.dispatch .full line
  if let some h := s.home then writeHome directory h
  IO.print (textOf r)
  return (s, r)

/-- Runs the lines of the input until it ends. -/
partial def runInput (directory : String) (input : IO.FS.Stream) (s : Session) : IO Unit := do
  let line ← input.getLine
  if line.isEmpty then return
  let (s, _) ← runLine directory s line
  runInput directory input s

/-- Runs the program on the page in a directory. -/
def start (directory : String) (words : List String) : IO UInt32 := do
  match Session.ofHome (← readHome directory) with
  | .error f =>
    IO.eprintln f.message
    return failureCode
  | .ok s =>
    if words.isEmpty then
      runInput directory (← IO.getStdin) s
      return 0
    else
      let (_, r) ← runLine directory s (" ".intercalate words)
      return exitCode r

end StartPage.Console

open StartPage.Console in
def main (args : List String) : IO UInt32 := do
  match Options.ofArgs? args with
  | none =>
    IO.eprintln "a value is required for '--data-dir <DATA_DIR>'"
    return 2
  | some options =>
    let fallback := defaultDirectory (← IO.getEnv "XDG_DATA_HOME") (← IO.getEnv "HOME")
    match options.directory <|> fallback with
    | some directory => start directory options.words
    | none =>
      IO.eprintln "storage error: Could not determine data directory"
      return failureCode
