import Mathlib.Data.List.Basic

/-!
# Queue of the OTLP export

Writers hand events to a bounded queue and never wait.  A worker takes them out in
batches and sends each batch, again after a failure that may pass.  The export is
closed by an item behind the events: the worker sends what it has in hand and ends.

A critical section is one step, and so is every call that may wait: a look at the
queue, a call of the sender, a nap between two attempts.  Deadlines pass between any
two steps.  Beside the fields of the export the state records what became of every
event and what was sent.
-/

namespace Vinctor
namespace AuditExport

universe u v

variable {ε : Type u} {π : Type v}

/-! ## Parts of the export -/

/-- What an export is made with; its constructor refuses other sizes. -/
structure Settings where
  endpoint : String
  queueSize : Int := 1024
  batchSize : Nat := 32
  maxAttempts : Nat := 3
  batchSize_pos : 0 < batchSize := by decide
  maxAttempts_pos : 0 < maxAttempts := by decide

/-- What the queue holds. -/
inductive Item (ε : Type u)
  | event (event : ε)
  | stop
  deriving DecidableEq, Repr

/-- An exception of the sender: an answer with an error status, a failure of the
connection, a time-out included, or any other. -/
inductive SendError
  | http (code : Int) (text : String)
  | connection (text : String)
  | other (text : String)
  deriving DecidableEq, Repr

namespace SendError

def text : SendError → String
  | .http _ text | .connection text | .other text => text

def isTransient : SendError → Bool
  | .http code _ => code = 408 || code = 429 || (500 ≤ code && code < 600)
  | .connection _ => true
  | .other _ => false

end SendError

/-- How a batch ends: it was taken, it was given up, the nap before the next attempt
failed, or an exception left the worker. -/
inductive Verdict
  | delivered
  | gaveUp (error : SendError)
  | waitFailed (text : String)
  | escaped
  deriving DecidableEq, Repr

/-- A batch on its way: the calls of the sender with it and the errors of those that
failed. -/
structure Shipment (ε : Type u) where
  batch : List ε
  stopAfterBatch : Bool
  calls : Nat := 0
  failures : List SendError := []
  deriving DecidableEq, Repr

/-- A batch that the worker is done with. -/
structure Handled (ε : Type u) where
  shipment : Shipment ε
  verdict : Verdict
  deriving DecidableEq, Repr

/-- Where the worker stands. -/
inductive Worker (ε : Type u)
  | waiting
  | collecting (batch : List ε)
  | encoding (shipment : Shipment ε)
  | sending (shipment : Shipment ε)
  | napping (shipment : Shipment ε)
  | finishing (shipment : Shipment ε) (verdict : Verdict)
  | stopped
  | died
  deriving DecidableEq, Repr

/-- Where the one call of `close` stands that found the export open. -/
inductive Closer
  | absent
  | stopping
  | joining
  | returned
  deriving DecidableEq, Repr

/-- Why an event was not queued. -/
inductive Refusal
  | closed
  | full
  deriving DecidableEq, Repr

/-- The export and, from `emissions` on, the record of what happened: every event with
its refusal, if any, the batches that were dealt with, and the data of every call of
the sender. -/
structure State (ε : Type u) (π : Type v) where
  queue : List (Item ε) := []
  unfinished : Nat := 0
  closed : Bool := false
  closer : Closer := .absent
  worker : Worker ε := .waiting
  reports : List String := []
  emissions : List (ε × Option Refusal) := []
  handled : List (Handled ε) := []
  requests : List π := []

/-- What the worker meets. -/
inductive Choice
  | goes
  | deadlinePasses
  | fails (error : SendError)
  | napFails (text : String)
  | escapes
  deriving DecidableEq, Repr

inductive Operation (ε : Type u)
  | emit (event : ε)
  | close
  | putStop
  | putTimesOut
  | joined
  | joinTimesOut
  | work (choice : Choice)
  deriving DecidableEq, Repr

/-! ## Reports -/

def Refusal.report : Refusal → String
  | .closed => "vinctor: audit export is closed (otlp-http); event dropped\n"
  | .full => "vinctor: audit export queue full (otlp-http); event dropped\n"

/-- What is written of a batch that was not taken; an exception that leaves the worker
is written by nobody. -/
def Verdict.report : Verdict → Option String
  | .delivered | .escaped => none
  | .gaveUp error => some ("vinctor: audit export emit failed (otlp-http): " ++ error.text ++ "\n")
  | .waitFailed text =>
      some ("vinctor: audit export retry wait failed (otlp-http): " ++ text ++ "\n")

def closeTimedOut : String := "vinctor: audit export close timed out (otlp-http)\n"

def flushTimedOut : String := "vinctor: audit export flush timed out (otlp-http)\n"

/-! ## Steps -/

namespace State

variable (state : State ε π)

/-- A queue without a positive bound is never full. -/
def isFull (settings : Settings) : Bool :=
  0 < settings.queueSize && settings.queueSize ≤ state.queue.length

def put (item : Item ε) : State ε π :=
  { state with queue := state.queue ++ [item], unfinished := state.unfinished + 1 }

def taskDone (count : Nat) : State ε π := { state with unfinished := state.unfinished - count }

def report (text : String) : State ε π := { state with reports := state.reports ++ [text] }

def refuse (event : ε) (refusal : Refusal) : State ε π :=
  { state.report refusal.report with
    emissions := state.emissions ++ [(event, some refusal)] }

def emit (settings : Settings) (event : ε) : State ε π :=
  if state.closed then state.refuse event .closed
  else if state.isFull settings then state.refuse event .full
  else { state.put (.event event) with emissions := state.emissions ++ [(event, none)] }

/-- The critical section of `close`.  Every call after the first returns at once. -/
def close : State ε π :=
  if state.closed then state else { state with closed := true, closer := .stopping }

def putStop (settings : Settings) : State ε π :=
  if state.closer = .stopping && !state.isFull settings then
    { state.put .stop with closer := .joining }
  else state

def putTimesOut (settings : Settings) : State ε π :=
  if state.closer = .stopping && state.isFull settings then
    { state.report closeTimedOut with closer := .returned }
  else state

end State

namespace Worker

def isAlive : Worker ε → Bool
  | .stopped | .died => false
  | _ => true

end Worker

namespace State

variable (state : State ε π)

def joined : State ε π :=
  if state.closer = .joining && !state.worker.isAlive then { state with closer := .returned }
  else state

def joinTimesOut : State ε π :=
  if state.closer = .joining && state.worker.isAlive then
    { state.report flushTimedOut with closer := .returned }
  else state

/-- The first item of a batch. -/
def takeFirst : State ε π :=
  match state.queue with
  | [] => state
  | .stop :: rest => { state.taskDone 1 with queue := rest, worker := .stopped }
  | .event event :: rest => { state with queue := rest, worker := .collecting [event] }

/-- A further item of a batch. -/
def takeNext (batch : List ε) : State ε π :=
  match state.queue with
  | [] => state
  | .stop :: rest => { state.taskDone 1 with queue := rest, worker := .encoding ⟨batch, true, 0, []⟩ }
  | .event event :: rest => { state with queue := rest, worker := .collecting (batch ++ [event]) }

def collect (settings : Settings) (batch : List ε) (choice : Choice) : State ε π :=
  if batch.length < settings.batchSize ∧ choice ≠ .deadlinePasses then state.takeNext batch
  else { state with worker := .encoding ⟨batch, false, 0, []⟩ }

/-- A batch ends, with its report. -/
def conclude (shipment : Shipment ε) (verdict : Verdict) : State ε π :=
  { state with
    worker := .finishing shipment verdict
    reports := state.reports ++ verdict.report.toList }

/-- The data is made outside of the reach of the handlers. -/
def encodeBatch (otlpJson : List ε → Option π) (shipment : Shipment ε) : State ε π :=
  match otlpJson shipment.batch with
  | none => state.conclude shipment .escaped
  | some _ => { state with worker := .sending shipment }

/-- One call of the sender. -/
def send
    (settings : Settings)
    (otlpJson : List ε → Option π)
    (shipment : Shipment ε)
    (choice : Choice) : State ε π :=
  let called := { shipment with calls := shipment.calls + 1 }
  let requested := { state with requests := state.requests ++ (otlpJson shipment.batch).toList }
  match choice with
  | .fails error =>
      let failed := { called with failures := shipment.failures ++ [error] }
      if settings.maxAttempts ≤ failed.failures.length ∨ error.isTransient = false then
        requested.conclude failed (.gaveUp error)
      else { requested with worker := .napping failed }
  | .escapes => requested.conclude called .escaped
  | _ => requested.conclude called .delivered

def nap (shipment : Shipment ε) : Choice → State ε π
  | .napFails text => state.conclude shipment (.waitFailed text)
  | .escapes => state.conclude shipment .escaped
  | _ => { state with worker := .sending shipment }

/-- The worker is done with a batch; an exception takes it away, and a batch before the
closing item was the last. -/
def finish (shipment : Shipment ε) (verdict : Verdict) : State ε π :=
  { state.taskDone shipment.batch.length with
    handled := state.handled ++ [⟨shipment, verdict⟩]
    worker :=
      if verdict = .escaped then .died
      else if shipment.stopAfterBatch then .stopped else .waiting }

/-- One step of the worker. -/
def work (settings : Settings) (otlpJson : List ε → Option π) (choice : Choice) : State ε π :=
  match state.worker with
  | .waiting => state.takeFirst
  | .collecting batch => state.collect settings batch choice
  | .encoding shipment => state.encodeBatch otlpJson shipment
  | .sending shipment => state.send settings otlpJson shipment choice
  | .napping shipment => state.nap shipment choice
  | .finishing shipment verdict => state.finish shipment verdict
  | .stopped | .died => state

/-- A step that is not enabled leaves the state. -/
def step (settings : Settings) (otlpJson : List ε → Option π) : Operation ε → State ε π
  | .emit event => state.emit settings event
  | .close => state.close
  | .putStop => state.putStop settings
  | .putTimesOut => state.putTimesOut settings
  | .joined => state.joined
  | .joinTimesOut => state.joinTimesOut
  | .work choice => state.work settings otlpJson choice

def run
    (settings : Settings)
    (otlpJson : List ε → Option π)
    (operations : List (Operation ε)) : State ε π :=
  operations.foldl (fun state operation => state.step settings otlpJson operation) state

end State

end AuditExport
end Vinctor
