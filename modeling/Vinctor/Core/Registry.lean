import Vinctor.Core.Models

/-!
# Boundary registry

The in-memory registry keeps boundaries by identifier.  Registration refuses
an unknown mode or status and a name that the workspace already uses; enabling
and disabling act on a boundary of the caller's workspace only.
-/

namespace Vinctor
namespace Registry

open Foundation

/-- Boundaries by identifier. -/
abbrev BoundaryRegistry := Dict String Boundary

def add (registry : BoundaryRegistry) (boundary : Boundary) : BoundaryRegistry :=
  registry.set boundary.boundaryId boundary

def listForWorkspace (registry : BoundaryRegistry) (workspaceId : String) : List Boundary :=
  registry.values.filter fun boundary => boundary.workspaceId == workspaceId

def hasBoundaryName (registry : BoundaryRegistry) (workspaceId name : String) : Bool :=
  (listForWorkspace registry workspaceId).any fun boundary => boundary.name == name

def parseMode (mode : String) : Option BoundaryMode :=
  if mode = "fail_closed" then some .failClosed else none

def parseStatus (status : String) : Option BoundaryStatus :=
  if status = "active" then some .active
  else if status = "disabled" then some .disabled
  else none

def newBoundaryId (token : String) : String := "bnd_" ++ token

def registerBoundary
    (registry : BoundaryRegistry)
    (registration : BoundaryRegistrationInput)
    (now : Instant)
    (boundaryId : Option String)
    (token : String) : Except String (Boundary × BoundaryRegistry) :=
  match parseMode registration.mode with
  | none => .error "boundary mode must be fail_closed"
  | some mode =>
      match parseStatus registration.status with
      | none => .error "boundary status must be active or disabled"
      | some status =>
          if hasBoundaryName registry registration.workspaceId registration.name then
            .error "boundary name must be unique within workspace"
          else
            let boundary : Boundary :=
              { boundaryId := (presentText boundaryId).getD (newBoundaryId token)
                workspaceId := registration.workspaceId
                name := registration.name
                runtime := registration.runtime
                boundaryType := registration.boundaryType
                mode := mode
                status := status
                createdAt := now
                updatedAt := now }
            .ok (boundary, add registry boundary)

def getBoundaryForWorkspace
    (registry : BoundaryRegistry)
    (boundaryId workspaceId : String) : Option Boundary :=
  (registry.get? boundaryId).filter fun boundary => boundary.workspaceId == workspaceId

def disableBoundary
    (registry : BoundaryRegistry)
    (boundaryId workspaceId : String)
    (now : Instant) : Option Boundary × BoundaryRegistry :=
  match getBoundaryForWorkspace registry boundaryId workspaceId with
  | none => (none, registry)
  | some boundary =>
      let disabled := boundary.withStatus .disabled now
      (some disabled, add registry disabled)

def enableBoundary
    (registry : BoundaryRegistry)
    (boundaryId workspaceId : String)
    (now : Instant) : Option Boundary × BoundaryRegistry :=
  match getBoundaryForWorkspace registry boundaryId workspaceId with
  | none => (none, registry)
  | some boundary =>
      if boundary.status = .active then (some boundary, add registry boundary)
      else
        let enabled := boundary.withStatus .active now
        (some enabled, add registry enabled)

end Registry
end Vinctor
