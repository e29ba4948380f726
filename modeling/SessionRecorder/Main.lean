import SessionRecorder.CommandLine
/-!
# The program

The command line carried out on a machine: what it may look at is loaded into a workspace, the
command line is run there, and what has changed is stored again. No browser is at hand here, so
that only saved logs are rendered; a recording ends with its failure to launch one.

## Main definitions

* `CommandLine.mentioned` — the paths that a command line may look at.
* `CommandLine.surroundings` — the workspace of a command line.
* `main` — the program.
-/

namespace SessionRecorder.CommandLine

/-! ### What is looked at -/

/-- The texts in a word that may name files: the word itself, and a value joined to it. -/
def namesIn (word : String) : List String :=
  match splitJoined word.toList with
  | (_, .equals value) => [word, String.ofList value]
  | _ => [word]

/-- The environment variables that are looked at. -/
def variableNames : List String :=
  "HOME" ::
    (["config_file", "root"] ++ Settings.defaults.map (·.1)).map Overrides.variableName

/-- The paths that a command line may look at, wherever its words and variables name them. -/
def mentioned (line : List String) (w : Workspace) : List Path :=
  let named := (line.flatMap namesIn ++ w.environment.map (·.2)).map Path.parse
  let home := named.filterMap fun p => (w.expandHome p).toOption
  named ++ home ++ (Overrides.candidates w w.environment.variables).toOption.getD []

/-- The locations that lead to a path, each before those below it. -/
def locationsTo (w : Workspace) (p : Path) : List Location :=
  let parts := (w.herePath.join p).plain.parts
  (List.range (parts.length + 1)).map parts.take

/-! ### Storage -/

/-- A location as the machine names it. -/
def locationText (l : Location) : String :=
  "/" ++ "/".intercalate l

/-- What stands at a location of the machine. -/
def nodeAt (l : Location) : IO (Option Node) := do
  let path := (← IO.currentDir) / locationText l
  if ← path.isDir then return some .directory
  match ← (IO.FS.readBinFile path).toBaseIO with
  | .ok content => return some (.file (.ofOctets content.toList))
  | .error _ => return none

/-- A workspace with what stands at a location of the machine. -/
def loadLocation (w : Workspace) (l : Location) : IO Workspace := do
  if l.isEmpty then return w
  match ← nodeAt l with
  | some n => return { w with disk := w.disk.put l n }
  | none => return w

/-- What has changed at a location is stored. -/
def storeNode (before : Disk) (entry : Location × Node) : IO Unit := do
  if before.node? entry.1 = some entry.2 then return
  match entry.2 with
  | .directory => IO.FS.createDirAll (locationText entry.1)
  | .file content =>
    IO.FS.writeBinFile (locationText entry.1) ⟨content.toOctets.toArray⟩

/-- The variables that are set. -/
def environment : IO Environment := do
  let mut found := []
  for name in variableNames do
    if let some value ← IO.getEnv name then found := found ++ [(name, value)]
  return found

/-- The workspace of a command line. -/
def surroundings (line : List String) : IO Workspace := do
  let here := (Path.parse (← IO.currentDir).toString).parts
  let w : Workspace :=
    { disk := ⟨[]⟩, here, environment := ← environment, accounts := [],
      commandResult := .missing, reportOpen := false, journal := [], ran := [], attached := [] }
  ((mentioned line w).flatMap (locationsTo w)).eraseDups.foldlM loadLocation w

end SessionRecorder.CommandLine

open SessionRecorder in
/-- The program: its status is that of the command line, or one if that ends with a fault. -/
def main (line : List String) : IO UInt32 := do
  let w ← CommandLine.surroundings line
  let r := CommandLine.run line .absent w
  r.workspace.disk.nodes.forM (CommandLine.storeNode w.disk)
  IO.print r.printed
  IO.eprint (r.diagnostics Fault.message Fault.message)
  match r.status with
  | .ok n => return UInt32.ofNat n
  | .error f =>
    IO.eprintln f.message
    return 1
