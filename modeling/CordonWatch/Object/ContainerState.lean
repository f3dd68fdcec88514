import CordonWatch.Object.Meta

/-!
# The states of a container

A container waits, runs or has ended. Its record has a part for each of the
three, of which any number may be there. The controller looks at none of them
and carries them along.
-/

namespace CordonWatch

/-- A container that runs. -/
structure RunningContainer where
  startedAt : Option Instant := none
  deriving DecidableEq, Repr, Inhabited

/-- A container that has ended. -/
structure EndedContainer where
  containerID : Option String := none
  /-- An integer of 32 bits with sign. -/
  exitCode : Int := 0
  finishedAt : Option Instant := none
  message : Option String := none
  reason : Option String := none
  /-- An integer of 32 bits with sign. -/
  signal : Option Int := none
  startedAt : Option Instant := none
  deriving DecidableEq, Repr, Inhabited

/-- A container that waits to be started. -/
structure WaitingContainer where
  message : Option String := none
  reason : Option String := none
  deriving DecidableEq, Repr, Inhabited

/-- The state of a container. -/
structure ContainerState where
  running : Option RunningContainer := none
  terminated : Option EndedContainer := none
  waiting : Option WaitingContainer := none
  deriving DecidableEq, Repr, Inhabited

/-! ### Reading -/

/-- Reads the part of a container that runs. -/
def RunningContainer.ofJson? (v : Json) : Option RunningContainer := do
  let fields ← v.open?
  return { startedAt := ← Json.entry? "startedAt" Instant.ofJson? fields }

/-- Reads the part of a container that has ended. -/
def EndedContainer.ofJson? (v : Json) : Option EndedContainer := do
  let fields ← v.open?
  return {
    containerID := ← Json.entry? "containerID" Json.asText fields
    exitCode := (← Json.entry? "exitCode" Json.asInt32 fields).getD 0
    finishedAt := ← Json.entry? "finishedAt" Instant.ofJson? fields
    message := ← Json.entry? "message" Json.asText fields
    reason := ← Json.entry? "reason" Json.asText fields
    signal := ← Json.entry? "signal" Json.asInt32 fields
    startedAt := ← Json.entry? "startedAt" Instant.ofJson? fields }

/-- Reads the part of a container that waits. -/
def WaitingContainer.ofJson? (v : Json) : Option WaitingContainer := do
  let fields ← v.open?
  return {
    message := ← Json.entry? "message" Json.asText fields
    reason := ← Json.entry? "reason" Json.asText fields }

/-- Reads the state of a container as an open record. -/
def ContainerState.ofJson? (v : Json) : Option ContainerState := do
  let fields ← v.open?
  return {
    running := ← Json.entry? "running" RunningContainer.ofJson? fields
    terminated := ← Json.entry? "terminated" EndedContainer.ofJson? fields
    waiting := ← Json.entry? "waiting" WaitingContainer.ofJson? fields }

/-! ### Writing -/

/-- The part of a container that runs. -/
def RunningContainer.toJson (c : RunningContainer) : Json :=
  .object (Json.present "startedAt" Instant.toJson c.startedAt)

/-- The part of a container that has ended. The exit code is always written. -/
def EndedContainer.toJson (c : EndedContainer) : Json := .object <|
  Json.present "containerID" .text c.containerID
    ++ [("exitCode", .int c.exitCode)]
    ++ Json.present "finishedAt" Instant.toJson c.finishedAt
    ++ Json.present "message" .text c.message
    ++ Json.present "reason" .text c.reason
    ++ Json.present "signal" Json.int c.signal
    ++ Json.present "startedAt" Instant.toJson c.startedAt

/-- The part of a container that waits. -/
def WaitingContainer.toJson (c : WaitingContainer) : Json := .object <|
  Json.present "message" .text c.message
    ++ Json.present "reason" .text c.reason

/-- The state of a container as an object that lacks the absent parts. -/
def ContainerState.toJson (s : ContainerState) : Json := .object <|
  Json.present "running" RunningContainer.toJson s.running
    ++ Json.present "terminated" EndedContainer.toJson s.terminated
    ++ Json.present "waiting" WaitingContainer.toJson s.waiting

end CordonWatch
