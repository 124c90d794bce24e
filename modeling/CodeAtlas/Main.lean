import CodeAtlas.Workspace

/-!
# Command line

The server on standard input and output. The files below the working directory are read
anew for every line, so that a request sees what stands there at the time. Grammar tables
are not linked in: without them every text counts as one that the parser gives up on.
-/

namespace CodeAtlas.CommandLine

/-- A parser without grammar tables. -/
def blindParser : Parser where
  tree? _ _ := none
  knowsKind _ _ := true

/-- A variable as the system lists it: the name, an equals sign and the value. -/
def binding? (listed : String) : Option (String × String) :=
  match Text.splitAt '=' listed with
  | name :: value :: more => some (name, Text.join "=" (value :: more))
  | _ => none

/-- The variables that the system lists for a process, with a zero byte after each. -/
def environmentOf (content : ByteArray) : Environment :=
  let listed := (String.fromUTF8? content).getD ""
  ⟨(Text.splitAt (Char.ofNat 0) listed).filterMap binding?⟩

/-- The variables of this process. -/
def environment : IO Environment :=
  return environmentOf (← IO.FS.readBinFile "/proc/self/environ")

/-- The content of a file, if there is anything under its path. -/
def probe (path : String) : IO (Option (Except PathError ByteArray)) := do
  try return some (.ok (← IO.FS.readBinFile path))
  catch
    | .noFileOrDirectory .. => return none
    | _ => return some (.error .isDirectory)

/-- Adds what a directory entry stands for. Links and special files are left out. -/
partial def addEntry (above : Location) (files : FileSystem) (entry : IO.FS.DirEntry) :
    IO FileSystem := do
  let location := above ++ [entry.fileName]
  match (← entry.path.symlinkMetadata).type with
  | .file => return files.put location (.file (← IO.FS.readBinFile entry.path))
  | .dir =>
    let entries ← entry.path.readDir
    entries.foldlM (addEntry location) (files.put location (.directory []))
  | _ => return files

/-- The location of the working directory. -/
def locationHere : IO Location :=
  return (Text.splitAt '/' (← IO.currentDir).toString).filter (· ≠ "")

/-- The files below the working directory. -/
def filesHere : IO FileSystem := do
  let here ← locationHere
  (← (← IO.currentDir).readDir).foldlM (addEntry here) (.startingAt here)

/-- The bytes of the next line with its line feed; none are left at the end. -/
partial def nextLine (input : IO.FS.Stream) (begun : ByteArray) : IO ByteArray := do
  let byte ← input.read 1
  if byte.isEmpty then return begun
  let line := begun ++ byte
  if byte.data.toList = [10] then return line else nextLine input line

/-- Answers lines until the input ends, keeping the caches. -/
partial def answerLines (config : Config) (userOptions : UserOptions)
    (input output : IO.FS.Stream) (caches : Caches) : IO Unit := do
  let line :: _ := inputLines (← nextLine input .empty) | return
  let workspace : Workspace := { files := ← filesHere, userOptions, parser := blindParser }
  let (response, caches) := (Session.respond (workspace.engine config) line).run caches
  if let some response := response then
    output.write response.frame
    output.flush
  answerLines config userOptions input output caches

/-- Loads the settings files and answers the requests on standard input; gives the exit
code. -/
def run : IO UInt32 := do
  let given ← environment
  let settings ← given.settingsPaths.mapM probe
  match given.loadFirst? settings with
  | none => return UInt32.ofNat Run.givenUpCode
  | some settled =>
    let config := Config.ofEnvironment settled.get?
    let caches := Caches.fresh config.treeCacheSize
    answerLines config settled.userOptions (← IO.getStdin) (← IO.getStdout) caches
    return 0

end CodeAtlas.CommandLine

/-- Serves the working directory on standard input and output. -/
def main : IO UInt32 := CodeAtlas.CommandLine.run
