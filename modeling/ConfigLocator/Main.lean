import ConfigLocator.CommandLine
import Std.Data.HashMap

/-!
# The program

The outer layer of the command line. What a request can reach is read into a snapshot of the file
system (`Program.snapshot`), the command runs on that, and the lines and the exit code it gives are
handed over. Packages are looked for in the working directory.
-/

namespace ConfigLocator

namespace Program

/-! ## Help -/

def usage : List Text :=
  ["usage: configdata [-h] [--version] [-l LOCATION] [-p [PROFILES ...]]",
    "                  [-n NAMES [NAMES ...]] [-c PROPERTIES] [--load]"]

def help : List Text :=
  usage ++
    (["", "Resolve configuration data locations into resources", "", "options:",
    "  -h, --help            show this help message and exit",
    "  --version, -v         show program's version number and exit",
    "  -l LOCATION, --location LOCATION",
    "                        Location to resolve (default: the conventional search",
    "                        locations)",
    "  -p [PROFILES ...], --profile [PROFILES ...]",
    "                        Accepted profiles, enables the profile-specific pass",
    "  -n NAMES [NAMES ...], --name NAMES [NAMES ...]",
    "                        Base names probed in directories (overrides",
    "                        \x60config.name\x60)",
    "  -c PROPERTIES, --properties PROPERTIES",
    "                        Properties or YAML file providing the bound",
    "                        configuration",
    "  --load                Print the properties read from each resolved resource",
    "", "Examples:",
    "  configdata                                     Resolve the default search locations",
    "  configdata -l config/                          Scan a directory",
    "  configdata -l \"config/;optional:config/*/\" -p dev prod",
    "  configdata -l config/app[.yaml] --load         Resolve and read a file"] : List Text)

def rejection : Text := "configdata: error: the arguments are not understood"

/-! ## What a request can reach -/

/-- A place and the directories that it lies in, the outermost first. -/
def outward (place : Place) : List Place := (List.range (place.length + 1)).map place.take

/-- The directories that a path of the file system lies in, or that make up a package. -/
def directoriesOfHandle (workingDirectory : Place) : Handle → List Place
  | .file path =>
    [.ofPath (Path.absolute workingDirectory.toPath (Text.throughLast slash path))]
  | .package name _ => (outward (Text.split Path.dot name)).map (workingDirectory ++ ·)

/-- The directories that a resource location starts from; what follows a wildcard lies below. -/
def directoriesOfLocation (workingDirectory : Place) (location : Text) : List Place :=
  match Store.handle {} (location.takeWhile (· != wildcard)) with
  | .ok handle => directoriesOfHandle workingDirectory handle
  | .error _ => []

/-- The directories that a request starts from. -/
def directories (workingDirectory : Place) (options : CommandLine.Options) : List Place :=
  let locations := (Location.of? options.location none).toList.flatMap Location.parts
  workingDirectory ::
    (options.properties :: locations.map (·.withoutLead resourceMark)).flatMap
      (directoriesOfLocation workingDirectory)

/-- Levels of directories that are looked at below those that a request starts from: one for a
wildcard, one for the files of a directory, and one more. -/
def depth : Nat := 3

/-! ## Snapshots -/

abbrev Snapshot := Std.HashMap Place Entry

def pathString (place : Place) : String := (Text.toString? place.toPath).getD ""

/-- Whether some loader reads files of this name. -/
def isReadable (name : Text) : Bool :=
  let ends := fun extension : Text => Text.endsWith name.lower (Path.dot :: extension.lower)
  (Loader.findExtension? ends defaultLoaders).toOption.join.isSome

/-- The content of a file, as far as it can matter. -/
def content (place : Place) : IO (List UInt8) := do
  if isReadable (place.getLastD []) then
    match ← (IO.FS.readBinFile (pathString place)).toBaseIO with
    | .ok bytes => return bytes.toList
    | .error _ => return []
  else return []

/-- The names in a directory, none if there is no directory at this place. -/
def names? (place : Place) : IO (Option (List Text)) := do
  match ← ((← IO.currentDir) / pathString place).readDir.toBaseIO with
  | .ok entries => return some (entries.toList.map fun entry => Text.ofString entry.fileName)
  | .error _ => return none

/-- Adds what stands at a place and, down to some levels, what is below it. -/
def add (levels : Nat) (snapshot : Snapshot) (place : Place) : IO Snapshot := do
  match ← names? place with
  | none => return snapshot.insert place (.file (← content place))
  | some names =>
    let snapshot := snapshot.insert place .directory
    match levels with
    | 0 => return snapshot
    | levels + 1 => (names.map fun name => place ++ [name]).foldlM (add levels) snapshot

/-- Adds a directory, if it is one, with those that it lies in and what is below it. -/
def addDirectory (snapshot : Snapshot) (place : Place) : IO Snapshot := do
  if (← names? place).isSome then
    let snapshot := (outward place).foldl (fun found outer => found.insert outer .directory) snapshot
    add depth snapshot place
  else return snapshot

def snapshot (places : List Place) : IO FileTree := do
  let found ← places.foldlM addDirectory (∅ : Snapshot)
  return ⟨found.toList⟩

/-- The variable that names the files to look for. -/
def environment : IO (List (Text × Text)) := do
  let name := environmentName nameProperty
  match ← IO.getEnv ((Text.toString? name).getD "") with
  | some t => return [(name, t)]
  | none => return []

def hostFor (request : CommandLine.Request) : IO Host := do
  let workingDirectory := Place.ofPath (toString (← IO.currentDir))
  let tree ←
    match request with
    | .resolve options => snapshot (directories workingDirectory options)
    | _ => pure .empty
  let modules : ModuleDirectory := { place := workingDirectory }
  return { tree, workingDirectory, environment := ← environment, imports := modules.imports }

/-! ## Output -/

def write (stream : IO.FS.Stream) (t : Text) : IO Unit :=
  stream.write (ByteArray.mk t.toUtf8.toArray)

/-- The texts that a request is answered with besides those of the command itself. -/
def answer : CommandLine.Request → Text × Text
  | .showHelp => (CommandLine.asLines help, [])
  | .rejected => ([], CommandLine.asLines (usage ++ [rejection]))
  | _ => ([], [])

/-- Writes out what the command leaves behind. -/
def run (words : List Text) : IO UInt32 := do
  let request := CommandLine.read words
  let outcome := CommandLine.execute (← hostFor request) words
  let (output, errors) := answer request
  write (← IO.getStdout) (outcome.output ++ output)
  write (← IO.getStderr) (outcome.errors ++ errors)
  match outcome.exit with
  | .ok code => return code.toUInt32
  | .error fault =>
    write (← IO.getStderr) (CommandLine.asLines [fault.message?.getD "unexpected fault"])
    return 1

end Program

end ConfigLocator

def main (args : List String) : IO UInt32 :=
  ConfigLocator.Program.run (args.map ConfigLocator.Text.ofString)
