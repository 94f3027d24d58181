import ConfigLocator.Reference

/-!
# Resolved resources

A resource ties a handle to the reference that produced it. A placeholder stands for a directory
that exists and has none of the candidate files. `Resource.load` reads a resource with the loader of
its reference.
-/

namespace ConfigLocator

structure Resource where
  reference : Reference
  handle : Handle
  isPlaceholder : Bool := false

namespace Resource

def display (host : Host) (r : Resource) : Text := r.handle.display host

/-- Resources are the same when they lead to one entry in one role, whatever produced them. -/
def same (host : Host) (a b : Resource) : Bool :=
  a.handle.same host b.handle && a.isPlaceholder == b.isPlaceholder

/-- The form in which a listing shows a resource. -/
def literal (r : Resource) : Text :=
  "StandardConfigDataResource(" ++ r.reference.resourceLocation ++ ", " ++ r.handle.literal ++
    ", empty_directory=" ++ (Value.bool r.isPlaceholder).toText ++ ")"

/-- The name of the sources read from a resource. -/
def sourceName (host : Host) (r : Resource) : Text :=
  "Config resource '" ++ r.display host ++ "' via location '" ++ r.reference.location.toText ++ "'"

/-- A placeholder has no sources; a resource that does not exist is a fault, which names the
location it was resolved from. -/
def load (host : Host) (r : Resource) (location : Option Location) : Except Fault (List Source) := do
  if r.isPlaceholder then return []
  if !(← r.handle.exists? host) then throw (.resourceNotFound (r.display host) location)
  r.reference.loader.load host (r.sourceName host) r.handle

end Resource

end ConfigLocator
