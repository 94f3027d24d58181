import ConfigLocator.Bootstrap
import ConfigLocator.CommandLine.Request
import ConfigLocator.Profiles

/-!
# The command line

The command resolves a location and prints one line for each result, with `--load` also the
properties of each resource. `CommandLine.run` gives what a resolution prints and the fault that ends
it, if any; `CommandLine.execute` does that for the words of a command and adds the exit code.
-/

namespace ConfigLocator

namespace CommandLine

def version : Text := "0.1.0"

def programName : Text := "configdata"

/-! ## Running -/

def commandOrigin : Text := "command line"

/-- The settings: those of the file, over which the names given on the command line are bound. -/
def binderFor (host : Host) (o : Options) : Except Fault Binder := do
  let binder ←
    if o.properties = [] then pure Binder.empty
    else Binder.ofFile host o.properties defaultLoaders none
  if o.names = [] then return binder
  else
    let properties := binder.properties.bind nameProperty (.list (o.names.map .text))
    return ⟨flatten [] (.map (properties.map fun (k, v) => (.text k, v))), binder.environment⟩

/-- The resolvers of a command, which are those that every configuration has. -/
def registryOf (host : Host) (binder : Binder) : Except Fault Registry :=
  Bootstrap.registry host Bootstrap.defaultResolverNames (some binder) none none []

def resolveFor (host : Host) (o : Options) : Except Fault (List Resolution) := do
  let binder ← binderFor host o
  let registry ← registryOf host binder
  let profiles := o.profiles.map fun names => (Profiles.ofNames names).accepted
  (registry.resolve ⟨host, some binder, none⟩ (Location.of? o.location (some commandOrigin))
    profiles).outcome

/-- The line for a result. -/
def describe (host : Host) (isProfileSpecific : Bool) (r : Resource) : Except Fault Text := do
  let line := r.display host
  let profile : Text := r.reference.profile.getD "None"
  let line := if isProfileSpecific then "[" ++ profile ++ "] " ++ line else line
  if r.isPlaceholder then return line ++ " (empty directory)"
  else if ← r.handle.exists? host then return line
  else return line ++ " (missing)"

def propertyLines (sources : List Source) : List Text :=
  sources.flatMap fun source =>
    source.properties.map fun (key, value) => "    " ++ key ++ " = " ++ value.toText

/-- The lines printed before a fault, if there is one. -/
structure Transcript where
  lines : List Text
  fault : Option Fault

namespace Transcript

def before (lines : List Text) (t : Transcript) : Transcript := ⟨lines ++ t.lines, t.fault⟩

/-- Goes on with what a step gives. -/
def step {α : Type} (e : Except Fault α) (next : α → Transcript) : Transcript :=
  match e with
  | .ok a => next a
  | .error fault => ⟨[], some fault⟩

end Transcript

/-- The properties of a resource that exists. -/
def loadedLines (host : Host) (result : Resolution) (r : Resource) : Except Fault (List Text) := do
  if ← r.handle.exists? host then
    return propertyLines (← r.load host (some result.location))
  else return []

def printResults (host : Host) (load : Bool) : List Resolution → Transcript
  | [] => ⟨[], none⟩
  | result :: rest =>
    match result.item with
    | .text t => (printResults host load rest).before [t]
    | .resource r =>
      .step (describe host result.isProfileSpecific r) fun line =>
        .before [line] <|
          .step (if load then loadedLines host result r else .ok []) fun lines =>
            (printResults host load rest).before lines

/-- What a resolution prints. -/
def run (host : Host) (o : Options) : Transcript :=
  .step (resolveFor host o) (printResults host o.load)

/-! ## Outcome -/

def asLines (lines : List Text) : Text := lines.flatMap (· ++ [lineFeed])

/-- What the command leaves behind; a fault that is not one of resolution has no exit code. -/
structure Outcome where
  exit : Except Fault Nat
  output : Text
  errors : Text

def outcomeOf (t : Transcript) : Outcome :=
  match t.fault with
  | none => ⟨.ok 0, asLines t.lines, []⟩
  | some fault =>
    if fault.isResolution then
      ⟨.ok 1, asLines t.lines, asLines ["Error: " ++ fault.message?.getD []]⟩
    else ⟨.error fault, asLines t.lines, []⟩

/-- The texts of help and of a rejection are left to the program. -/
def execute (host : Host) (words : List Text) : Outcome :=
  match read words with
  | .resolve options => outcomeOf (run host options)
  | .showVersion => ⟨.ok 0, asLines [programName ++ " " ++ version], []⟩
  | .showHelp => ⟨.ok 0, [], []⟩
  | .rejected => ⟨.ok 2, [], []⟩

end CommandLine

end ConfigLocator
