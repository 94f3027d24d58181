import ConfigLocator.Loader
import ConfigLocator.Location

/-!
# References

A reference is one place where configuration may live, known before the store is asked: the location
it comes from, a root with an optional profile and extension behind it, the loader that reads it, and
the directory when it was guessed by scanning one.
-/

namespace ConfigLocator

structure Reference where
  location : Location
  /-- The scanned directory, none for a file that was named. -/
  directory : Option Text
  root : Text
  profile : Option Text
  extension : Option Text
  loader : Loader

namespace Reference

def profileMark : Nat := '-'

/-- The root, `-` and the profile unless that is empty, then `.` and the extension. -/
def resourceLocation (r : Reference) : Text :=
  let suffix :=
    match r.profile with
    | none | some [] => []
    | some profile => profileMark :: profile
  let ending :=
    match r.extension with
    | none => []
    | some extension => Path.dot :: extension
  r.root ++ suffix ++ ending

/-- Missing data is no error: the location is optional, or the candidate was guessed. -/
def isSkippable (r : Reference) : Bool :=
  r.location.isOptional || r.directory.isSome || r.profile.isSome

/-- Scans a directory that has to exist. -/
def isMandatoryDirectory (r : Reference) : Bool := !r.location.isOptional && r.directory.isSome

def same (a b : Reference) : Bool :=
  a.location.same b.location && a.directory == b.directory && a.root == b.root &&
    a.profile == b.profile && a.extension == b.extension && a.loader.same b.loader

end Reference

end ConfigLocator
