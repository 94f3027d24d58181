import ConfigLocator.Handle
import ConfigLocator.PropertyMap

/-!
# Format loaders

A format loader names the file extensions it reads and turns the content of a handle into property
sources. Loaders are told apart by their identity, not by what they say of themselves: two loaders
of one name are two loaders.
-/

namespace ConfigLocator

/-- A named set of properties, read from one document. -/
structure Source where
  name : Text
  properties : PropertyMap

structure Loader where
  id : Nat
  name : Text
  /-- Extensions without their dot, in order of priority; asking for them may fail. -/
  extensions : Except Fault (List Text)
  /-- Reads a handle under a name for the sources. -/
  load : Host → Text → Handle → Except Fault (List Source)

namespace Loader

def same (a b : Loader) : Bool := a.id == b.id

/-- A loader that reads nothing: no name and no extension of its own. -/
def undefined : Loader where
  id := 0
  name := []
  extensions := .ok []
  load := fun _ _ _ => .error .undefinedMember

/-- The first loader one of whose extensions satisfies a test, with that extension. -/
def findExtension? (test : Text → Bool) : List Loader → Except Fault (Option (Loader × Text))
  | [] => .ok none
  | loader :: rest => do
    match (← loader.extensions).find? test with
    | some extension => return some (loader, extension)
    | none => findExtension? test rest

/-- Every loader with each of its extensions, in order of registration. -/
def candidates : List Loader → Except Fault (List (Loader × Text))
  | [] => .ok []
  | loader :: rest => do
    let own ← loader.extensions
    return own.map (loader, ·) ++ (← candidates rest)

/-- The form in which a listing shows a loader of a type. -/
def display (typeName : Text) (extensions : List Text) : Text :=
  typeName ++ "([" ++ Text.join ", " (extensions.map Text.quoted) ++ "])"

end Loader

end ConfigLocator
