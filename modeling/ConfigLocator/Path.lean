import ConfigLocator.Location

/-!
# Paths

Paths are texts whose segments stand between slashes. `normalize` removes empty and `.` segments and
lets `..` take back the segment before it, by the text alone; `clean` also turns backslashes into
slashes and keeps a trailing slash, which marks a directory; `absolute` anchors a path in a working
directory.
-/

namespace ConfigLocator

namespace Path

def dot : Nat := '.'

def current : Text := [dot]

def parent : Text := [dot, dot]

def isAbsolute (p : Text) : Bool := Text.startsWith p [slash]

/-- Slashes at the root: two are kept apart from one, and three or more count as one. -/
def rootSlashes (p : Text) : Nat :=
  if Text.startsWith p "///" then 1
  else if Text.startsWith p "//" then 2
  else if Text.startsWith p "/" then 1
  else 0

/-- One segment more on a stack whose top comes first. -/
def pushSegment (rooted : Bool) (stack : List Text) (segment : Text) : List Text :=
  if segment = [] ∨ segment = current then stack
  else if segment = parent then
    match stack with
    | [] => if rooted then [] else [parent]
    | top :: below => if top = parent then parent :: top :: below else below
  else segment :: stack

def normalSegments (rooted : Bool) (segments : List Text) : List Text :=
  (segments.foldl (pushSegment rooted) []).reverse

/-- A path that leads nowhere else is `.`. -/
def normalize (p : Text) : Text :=
  let root := rootSlashes p
  let body := Text.join [slash] (normalSegments (0 < root) (Text.split slash p))
  let path := List.replicate root slash ++ body
  if path = [] then current else path

/-- The path `q` as seen from the directory `p`. -/
def append (p q : Text) : Text :=
  if isAbsolute q then q
  else if p = [] || Text.endsWith p [slash] then p ++ q
  else p ++ [slash] ++ q

def absolute (workingDirectory p : Text) : Text := normalize (append workingDirectory p)

/-- The last segment of the normalized path. -/
def fileName (p : Text) : Text := Text.afterLast slash (normalize p)

def isDirectoryText (p : Text) : Bool := Text.endsWith p [slash]

/-- The empty path stays empty. -/
def clean (p : Text) : Text :=
  if p = [] then []
  else
    let p := Text.replace '\\' slash p
    let cleaned := normalize p
    if isDirectoryText p && !isDirectoryText cleaned then cleaned ++ [slash] else cleaned

/-- What follows the last dot of the last segment; dots at the start of the segment do not count. -/
def extension (p : Text) : Text :=
  let name := Text.trimStart (· == dot) (Text.afterLast slash p)
  if name.contains dot then Text.afterLast dot name else []

end Path

end ConfigLocator
