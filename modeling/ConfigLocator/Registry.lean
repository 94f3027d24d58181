import ConfigLocator.Binder
import ConfigLocator.StandardResolver

/-!
# The resolver registry

A registry dispatches a location to the first resolver that accepts it. Resolvers keep the order in
which they were given, but the standard one, which accepts every location, comes last, and only one
of that kind is kept. `Registry.resolve` runs the default pass of the resolver and then, when
profiles are given, its pass for profiles.
-/

namespace ConfigLocator

/-- The rank of every resolver. Ranks are for information: a registry orders by kind alone. -/
def lowestPrecedence : Nat := 2147483647

/-- What a resolver finds: a resource of the standard kind, or anything else, known by its text. -/
inductive Item where
  | resource (r : Resource)
  | text (t : Text)

namespace Item

def resource? : Item → Option Resource
  | resource r => some r
  | text _ => none

def same (host : Host) : Item → Item → Bool
  | resource a, resource b => a.same host b
  | text a, text b => a == b
  | _, _ => false

/-- Only a resource of the standard kind can be read. -/
def load (host : Host) (location : Option Location) : Item → Except Fault (List Source)
  | resource r => r.load host location
  | text _ => .error (.blueprint .unsuitable)

end Item

/-- Where a resolution takes place: the settings, and the item that declared the location. -/
structure Context where
  host : Host
  binder : Option Binder := none
  parent : Option Item := none

namespace Context

/-- Only a resource of the standard kind anchors relative locations. -/
def parentReference? (c : Context) : Option Reference :=
  (c.parent.bind Item.resource?).map (·.reference)

end Context

/-- A resolver supplied from outside. Whatever it does not define for itself is a fault, except the
pass for profiles, which finds nothing. A pass may come to no list at all. -/
structure CustomResolver where
  typeName : Text
  name : Text
  /-- The leading piece of the locations it is meant for. -/
  lead : Option Text := none
  accepts : Context → Location → Except Fault Bool := fun _ _ => .error .undefinedMember
  resolve : Context → Location → Except Fault (Option (List Item)) :=
    fun _ _ => .error .undefinedMember
  resolveProfiles : Context → Location → List Text → Except Fault (Option (List Item)) :=
    fun _ _ _ => .ok (some [])

inductive Resolver where
  | standard (r : StandardResolver)
  | custom (r : CustomResolver)

namespace Resolver

def isStandard : Resolver → Bool
  | standard _ => true
  | custom _ => false

def accepts (c : Context) (location : Location) : Resolver → Except Fault Bool
  | standard _ => .ok true
  | custom r => r.accepts c location

def resolve (c : Context) (location : Location) : Resolver → Probe (List Item)
  | standard r => do return (← r.resolve c.host c.parentReference? location).map .resource
  | custom r => do return (← .ofExcept (r.resolve c location)).getD []

def resolveProfiles (c : Context) (location : Location) (profiles : List Text) :
    Resolver → Probe (List Item)
  | standard r => do
    return (← r.resolveProfiles c.host c.parentReference? location profiles).map .resource
  | custom r => do return (← .ofExcept (r.resolveProfiles c location profiles)).getD []

end Resolver

/-- What was found for a location, and in which pass. -/
structure Resolution where
  location : Location
  item : Item
  isProfileSpecific : Bool

/-- The sources of all that was found, in order. -/
def Resolution.loadAll (host : Host) : List Resolution → Except Fault (List Source)
  | [] => .ok []
  | result :: rest => do
    let sources ← result.item.load host (some result.location)
    return sources ++ (← loadAll host rest)

structure Registry where
  resolvers : List Resolver

namespace Registry

/-- The other resolvers in order, then the last standard one. -/
def ofList (resolvers : List Resolver) : Registry :=
  ⟨resolvers.filter (!·.isStandard) ++ (resolvers.filter (·.isStandard)).getLast?.toList⟩

def tag (location : Location) (isProfileSpecific : Bool) (items : List Item) : List Resolution :=
  items.map (⟨location, ·, isProfileSpecific⟩)

/-- Both passes of a resolver. -/
def resolveWith (c : Context) (location : Location) (profiles : Option (List Text))
    (r : Resolver) : Probe (List Resolution) := do
  let default := tag location false (← r.resolve c location)
  match profiles with
  | none => return default
  | some profiles => return default ++ tag location true (← r.resolveProfiles c location profiles)

def dispatch (c : Context) (location : Location) (profiles : Option (List Text)) :
    List Resolver → Probe (List Resolution)
  | [] => .fail (.unsupportedLocation (some location))
  | r :: rest => do
    if ← .ofExcept (r.accepts c location) then resolveWith c location profiles r
    else dispatch c location profiles rest

/-- Nothing is resolved for an absent location. -/
def resolve (registry : Registry) (c : Context) (location : Option Location)
    (profiles : Option (List Text)) : Probe (List Resolution) :=
  match location with
  | none => pure []
  | some location => dispatch c location profiles registry.resolvers

end Registry

end ConfigLocator
