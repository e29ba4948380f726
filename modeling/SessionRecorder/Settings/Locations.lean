import SessionRecorder.Settings
import SessionRecorder.Snapshot.Store
import SessionRecorder.Value.Items
/-!
# Locations of a recording

Where a recording writes, as its settings say: relative directories are below a root, and the
directories are made.

## Main definitions

* `Locations` — the directories and the script of a recording.
* `Locations.make` — the locations that settings say, with their directories made.
-/

namespace SessionRecorder

/-- Where a recording writes. -/
structure Locations where
  outputDir : Path
  scriptPath : Path
  snapshotDir : Path

namespace Locations

/-- A path below a root, unless it starts at the root of all paths. -/
def below (root p : Path) : Path :=
  root.join p

/-- The directory that a value spells, the home directory in place of a tilde. -/
def directoryOf (w : Workspace) (v : Value) : Except Fault Path := do
  w.expandHome (← v.path)

/-- The locations that settings say. -/
def resolve (w : Workspace) (s : Settings) (root : Option Path) : Except Fault Locations := do
  let base := root.getD w.herePath
  let outputDir := below base (← directoryOf w s.outputDir)
  let snapshotDir ←
    if s.snapshotDir.truthy then directoryOf w s.snapshotDir
    else .ok (outputDir.child "snapshots")
  let scriptPath ← Snapshot.pathOf outputDir s.scriptName
  return { outputDir, scriptPath, snapshotDir := below base snapshotDir }

/-- The locations that settings say, with their directories made. -/
def make (s : Settings) (root : Option Path) : Procedure Workspace Locations := do
  let locations ← Procedure.ofExcept (resolve (← get) s root)
  Workspace.makeDirectories locations.outputDir
  Workspace.makeDirectories locations.snapshotDir
  return locations

end Locations

end SessionRecorder
