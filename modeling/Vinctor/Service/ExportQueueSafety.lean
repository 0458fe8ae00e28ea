import Mathlib.Data.List.Perm.Basic
import Vinctor.Service.ExportQueue

/-!
# Safety of the export queue

Every event that was queued has been dealt with in one batch, is in the hands of the
worker, or is still queued, in the order in which it was queued.  The closing item is
the last one that ever enters the queue.
-/

namespace Vinctor
namespace AuditExport

universe u v

variable {ε : Type u} {π : Type v}

/-! ## What is in hand -/

def Item.event? : Item ε → Option ε
  | .event queued => some queued
  | .stop => none

/-- The events in a queue. -/
def events (queue : List (Item ε)) : List ε := queue.filterMap Item.event?

@[simp] theorem events_nil : events ([] : List (Item ε)) = [] := rfl

@[simp] theorem events_event (event : ε) (rest : List (Item ε)) :
    events (.event event :: rest) = event :: events rest := rfl

@[simp] theorem events_stop (rest : List (Item ε)) : events (.stop :: rest) = events rest := rfl

@[simp] theorem events_append (queue more : List (Item ε)) :
    events (queue ++ more) = events queue ++ events more := List.filterMap_append ..

@[simp] theorem events_map (batch : List ε) : events (batch.map Item.event) = batch := by
  induction batch with
  | nil => rfl
  | cons event rest inductionHypothesis =>
      rw [List.map_cons, events_event, inductionHypothesis]

namespace Worker

def inHand : Worker ε → List ε
  | .collecting batch => batch
  | .encoding shipment | .sending shipment | .napping shipment | .finishing shipment _ =>
      shipment.batch
  | .waiting | .stopped | .died => []

/-- The worker has taken the closing item. -/
def tookStop : Worker ε → Bool
  | .encoding shipment | .sending shipment | .napping shipment | .finishing shipment _ =>
      shipment.stopAfterBatch
  | .stopped => true
  | .waiting | .collecting _ | .died => false

def shipment? : Worker ε → Option (Shipment ε)
  | .encoding shipment | .sending shipment | .napping shipment | .finishing shipment _ =>
      some shipment
  | .waiting | .collecting _ | .stopped | .died => none

def verdict? : Worker ε → Option Verdict
  | .finishing _ verdict => some verdict
  | _ => none

end Worker

/-- The data of the calls of the sender with a batch. -/
def Shipment.requests (otlpJson : List ε → Option π) (shipment : Shipment ε) : List π :=
  (List.replicate shipment.calls (otlpJson shipment.batch)).filterMap id

namespace State

/-- The events that were queued, in order. -/
def accepted (state : State ε π) : List ε :=
  (state.emissions.filter fun emission => emission.2.isNone).map Prod.fst

/-- Why the other events were refused. -/
def refusals (state : State ε π) : List Refusal := state.emissions.filterMap Prod.snd

end State

/-! ## Batches -/

/-- A batch is not empty and within its bound. -/
def Sized (settings : Settings) (batch : List ε) : Prop :=
  batch ≠ [] ∧ batch.length ≤ settings.batchSize

/-- A batch between two attempts: every call failed with an error that may pass, and one
more is allowed. -/
structure Underway (settings : Settings) (otlpJson : List ε → Option π) (shipment : Shipment ε) :
    Prop where
  sized : Sized settings shipment.batch
  encodes : (otlpJson shipment.batch).isSome
  calls : shipment.calls = shipment.failures.length
  transient : ∀ error ∈ shipment.failures, error.isTransient = true
  within : shipment.calls < settings.maxAttempts

/-- What may be said of the calls of the sender with a batch, by its verdict.  A batch is
given up at an error that does not pass or after the last attempt. -/
def Ended (settings : Settings) (otlpJson : List ε → Option π) (shipment : Shipment ε) :
    Verdict → Prop
  | .delivered =>
      (otlpJson shipment.batch).isSome ∧ shipment.calls = shipment.failures.length + 1 ∧
        ∀ error ∈ shipment.failures, error.isTransient = true
  | .gaveUp error =>
      ∃ earlier, shipment.failures = earlier ++ [error] ∧
        shipment.calls = shipment.failures.length ∧
        (∀ error ∈ earlier, error.isTransient = true) ∧
        (error.isTransient = false ∨ shipment.calls = settings.maxAttempts)
  | .waitFailed _ =>
      shipment.calls = shipment.failures.length ∧ shipment.calls < settings.maxAttempts ∧
        ∀ error ∈ shipment.failures, error.isTransient = true
  | .escaped => ∀ error ∈ shipment.failures, error.isTransient = true

/-- A batch whose end is settled. -/
structure Settled
    (settings : Settings)
    (otlpJson : List ε → Option π)
    (shipment : Shipment ε)
    (verdict : Verdict) : Prop where
  sized : Sized settings shipment.batch
  calls : shipment.calls ≤ settings.maxAttempts
  encoded : 0 < shipment.calls → (otlpJson shipment.batch).isSome
  ended : Ended settings otlpJson shipment verdict

def Worker.Proper (settings : Settings) (otlpJson : List ε → Option π) : Worker ε → Prop
  | .collecting batch => Sized settings batch
  | .encoding shipment =>
      Sized settings shipment.batch ∧ shipment.calls = 0 ∧ shipment.failures = []
  | .sending shipment | .napping shipment => Underway settings otlpJson shipment
  | .finishing shipment verdict => Settled settings otlpJson shipment verdict
  | .waiting | .stopped | .died => True

/-! ## Invariant -/

/-- The closing item has not been queued, is the last in the queue, or was taken from a
queue that it left empty. -/
inductive Closing (state : State ε π) : Prop
  | unqueued
      (batch : List ε)
      (queue : state.queue = batch.map Item.event)
      (untaken : state.worker.tookStop = false)
  | queued
      (batch : List ε)
      (queue : state.queue = batch.map Item.event ++ [.stop])
      (untaken : state.worker.tookStop = false)
      (closed : state.closed = true)
      (closer : state.closer ≠ .stopping)
  | taken
      (queue : state.queue = [])
      (taken : state.worker.tookStop = true)
      (closed : state.closed = true)
      (closer : state.closer ≠ .stopping)

/-- What `close` has written: nothing before it returns, and nothing at all only where
it saw the end of the worker. -/
structure ClosingReport (state : State ε π) (reports : List String) : Prop where
  texts : reports = [] ∨ reports = [closeTimedOut] ∨ reports = [flushTimedOut]
  before : state.closer ≠ .returned → reports = []
  silent : state.closer = .returned → reports = [] → state.worker.isAlive = false

/-- The invariant of the export. -/
structure Sound
    (settings : Settings)
    (otlpJson : List ε → Option π)
    (state : State ε π) : Prop where
  accounted : state.accepted = state.handled.flatMap (fun handled => handled.shipment.batch) ++
    (state.worker.inHand ++ events state.queue)
  requested : state.requests =
    state.handled.flatMap (fun handled => handled.shipment.requests otlpJson) ++
      state.worker.shipment?.toList.flatMap (Shipment.requests otlpJson)
  reported : ∃ closing, ClosingReport state closing ∧
    state.reports.Perm (state.refusals.map Refusal.report ++
      (state.handled.filterMap (fun handled => handled.verdict.report) ++
        state.worker.verdict?.toList.filterMap Verdict.report) ++ closing)
  counted : state.unfinished = state.queue.length + state.worker.inHand.length
  bounded : 0 < settings.queueSize → (state.queue.length : Int) ≤ settings.queueSize
  proper : state.worker.Proper settings otlpJson
  settled : ∀ handled ∈ state.handled, Settled settings otlpJson handled.shipment handled.verdict
  escaped : ∀ handled ∈ state.handled, handled.verdict = .escaped →
    state.worker = .died ∧ state.handled.getLast? = some handled
  stopped : ∀ handled ∈ state.handled, handled.shipment.stopAfterBatch = true →
    state.worker.isAlive = false ∧ state.handled.getLast? = some handled
  died : state.worker = .died → ∃ handled ∈ state.handled, handled.verdict = .escaped
  closed : state.closed = true ↔ state.closer ≠ .absent
  closing : Closing state

section Steps

variable
    {settings : Settings}
    {otlpJson : List ε → Option π}
    {state : State ε π}

theorem Sound.initial : Sound settings otlpJson ({} : State ε π) where
  accounted := rfl
  requested := rfl
  reported := ⟨[], ⟨.inl rfl, fun _ => rfl, nofun⟩, .refl []⟩
  counted := rfl
  bounded := fun _ => by simp; omega
  proper := trivial
  settled := nofun
  escaped := nofun
  stopped := nofun
  died := nofun
  closed := by simp
  closing := .unqueued [] rfl rfl

/-! ## Writers -/

theorem Sound.refuse
    (sound : Sound settings otlpJson state)
    (event : ε)
    (refusal : Refusal) : Sound settings otlpJson (state.refuse event refusal) where
  accounted := by
    have queued := sound.accounted
    simpa [State.refuse, State.report, State.accepted] using queued
  requested := sound.requested
  reported := by
    obtain ⟨closing, report, reported⟩ := sound.reported
    refine ⟨closing, ⟨report.texts, report.before, report.silent⟩, ?_⟩
    have refused : (state.refuse event refusal).refusals = state.refusals ++ [refusal] := by
      simp [State.refuse, State.refusals]
    rw [refused, List.map_append, List.map_singleton]
    have moved : (state.reports ++ [refusal.report]).Perm (refusal.report :: state.reports) :=
      List.perm_append_singleton _ _
    refine moved.trans ?_
    refine (List.Perm.cons _ reported).trans ?_
    simp only [List.append_assoc, List.cons_append]
    exact List.perm_middle.symm
  counted := sound.counted
  bounded := sound.bounded
  proper := sound.proper
  settled := sound.settled
  escaped := sound.escaped
  stopped := sound.stopped
  died := sound.died
  closed := sound.closed
  closing := by
    cases sound.closing with
    | unqueued batch queue untaken => exact .unqueued batch queue untaken
    | queued batch queue untaken closed closer => exact .queued batch queue untaken closed closer
    | taken queue taken closed closer => exact .taken queue taken closed closer

theorem length_lt_of_not_full
    (roomy : state.isFull settings = false)
    (positive : 0 < settings.queueSize) : (state.queue.length : Int) < settings.queueSize := by
  simp only [State.isFull, Bool.and_eq_false_iff, decide_eq_false_iff_not] at roomy
  omega

theorem Sound.emit
    (sound : Sound settings otlpJson state)
    (event : ε) : Sound settings otlpJson (state.emit settings event) := by
  unfold State.emit
  split
  next => exact sound.refuse event .closed
  next isOpen =>
    split
    next => exact sound.refuse event .full
    next roomy =>
      simp only [Bool.not_eq_true] at isOpen roomy
      exact {
        accounted := by
          have queued := sound.accounted
          simp only [State.put, State.accepted, List.filter_append, List.map_append] at queued ⊢
          rw [queued]
          simp
        requested := sound.requested
        reported := by
          obtain ⟨closing, report, reported⟩ := sound.reported
          refine ⟨closing, ⟨report.texts, report.before, report.silent⟩, ?_⟩
          simpa [State.put, State.refusals] using reported
        counted := by
          have counted := sound.counted
          simp only [State.put, List.length_append, List.length_singleton]
          omega
        bounded := fun positive => by
          have room := length_lt_of_not_full roomy positive
          simp only [State.put, List.length_append, List.length_singleton]
          omega
        proper := sound.proper
        settled := sound.settled
        escaped := sound.escaped
        stopped := sound.stopped
        died := sound.died
        closed := sound.closed
        closing := by
          cases sound.closing with
          | unqueued batch queue untaken =>
              exact .unqueued (batch ++ [event]) (by simp [State.put, queue]) untaken
          | queued batch queue untaken closed closer => rw [isOpen] at closed; cases closed
          | taken queue taken closed closer => rw [isOpen] at closed; cases closed }

/-! ## The call of `close` -/

theorem Sound.close (sound : Sound settings otlpJson state) :
    Sound settings otlpJson state.close := by
  unfold State.close
  split
  next => exact sound
  next isOpen =>
    have absent : state.closer = .absent := by
      by_contra present
      exact isOpen (sound.closed.mpr present)
    exact { sound with
      reported := by
        obtain ⟨closing, report, reported⟩ := sound.reported
        exact ⟨closing, ⟨report.texts, fun _ => report.before (by simp [absent]), nofun⟩, reported⟩
      closed := by simp
      closing := by
        cases sound.closing with
        | unqueued batch queue untaken => exact .unqueued batch queue untaken
        | queued batch queue untaken closed closer => exact absurd closed isOpen
        | taken queue taken closed closer => exact absurd closed isOpen }

theorem Sound.putStop (sound : Sound settings otlpJson state) :
    Sound settings otlpJson (state.putStop settings) := by
  unfold State.putStop
  split
  next stopping =>
    simp only [Bool.and_eq_true, decide_eq_true_eq, Bool.not_eq_true'] at stopping
    obtain ⟨isStopping, roomy⟩ := stopping
    have closed : state.closed = true := sound.closed.mpr (by simp [isStopping])
    exact {
      accounted := by
        have accounted := sound.accounted
        simpa [State.put, State.accepted] using accounted
      requested := sound.requested
      reported := by
        obtain ⟨closing, report, reported⟩ := sound.reported
        exact ⟨closing, ⟨report.texts, fun _ => report.before (by simp [isStopping]), nofun⟩,
          reported⟩
      counted := by
        have counted := sound.counted
        simp only [State.put, List.length_append, List.length_singleton]
        omega
      bounded := fun positive => by
        have room := length_lt_of_not_full roomy positive
        simp only [State.put, List.length_append, List.length_singleton]
        omega
      proper := sound.proper
      settled := sound.settled
      escaped := sound.escaped
      stopped := sound.stopped
      died := sound.died
      closed := by simp [State.put, closed]
      closing := by
        cases sound.closing with
        | unqueued batch queue untaken =>
            exact .queued batch (by simp [State.put, queue]) untaken closed (by simp)
        | queued batch queue untaken closed closer => exact absurd isStopping closer
        | taken queue taken closed closer => exact absurd isStopping closer }
  next => exact sound

/-- `close` returns with a report, or because it saw the end of the worker. -/
theorem Sound.returned
    (sound : Sound settings otlpJson state)
    (calling : state.closer ≠ .absent)
    (calling' : state.closer ≠ .returned)
    {report : List String}
    (texts : report = [] ∨ report = [closeTimedOut] ∨ report = [flushTimedOut])
    (silent : report = [] → state.worker.isAlive = false) :
    Sound settings otlpJson
      { state with closer := .returned, reports := state.reports ++ report } :=
  { sound with
    reported := by
      obtain ⟨closing, before, reported⟩ := sound.reported
      refine ⟨report, ⟨texts, fun open_ => absurd rfl open_, fun _ => silent⟩, ?_⟩
      rw [before.before calling', List.append_nil] at reported
      exact reported.append_right report
    closed := by simpa using sound.closed.mpr calling
    closing := by
      cases sound.closing with
      | unqueued batch queue untaken => exact .unqueued batch queue untaken
      | queued batch queue untaken closed closer =>
          exact .queued batch queue untaken closed (by simp)
      | taken queue taken closed closer => exact .taken queue taken closed (by simp) }

theorem Sound.putTimesOut (sound : Sound settings otlpJson state) :
    Sound settings otlpJson (state.putTimesOut settings) := by
  unfold State.putTimesOut
  split
  next stopping =>
    simp only [Bool.and_eq_true, decide_eq_true_eq] at stopping
    exact sound.returned (by simp [stopping.1]) (by simp [stopping.1]) (.inr (.inl rfl)) nofun
  next => exact sound

theorem Sound.joined (sound : Sound settings otlpJson state) :
    Sound settings otlpJson state.joined := by
  unfold State.joined
  split
  next joining =>
    simp only [Bool.and_eq_true, decide_eq_true_eq, Bool.not_eq_true'] at joining
    have silent := sound.returned (by simp [joining.1]) (by simp [joining.1]) (.inl rfl)
      fun _ => joining.2
    simpa using silent
  next => exact sound

theorem Sound.joinTimesOut (sound : Sound settings otlpJson state) :
    Sound settings otlpJson state.joinTimesOut := by
  unfold State.joinTimesOut
  split
  next joining =>
    simp only [Bool.and_eq_true, decide_eq_true_eq] at joining
    exact sound.returned (by simp [joining.1]) (by simp [joining.1]) (.inr (.inr rfl)) nofun
  next => exact sound

/-! ## The worker -/

theorem ClosingReport.of_alive
    {reports : List String}
    (report : ClosingReport state reports)
    (alive : state.worker.isAlive = true)
    {after : State ε π}
    (closer : after.closer = state.closer) : ClosingReport after reports where
  texts := report.texts
  before := by rw [closer]; exact report.before
  silent := by
    rw [closer]
    intro isReturned isSilent
    rw [report.silent isReturned isSilent] at alive
    cases alive

/-- No batch was the last while the worker is alive. -/
theorem Sound.goesOn
    (sound : Sound settings otlpJson state)
    (alive : state.worker.isAlive = true)
    {handled : Handled ε}
    (present : handled ∈ state.handled) :
    handled.verdict ≠ .escaped ∧ handled.shipment.stopAfterBatch = false := by
  constructor
  · intro isEscaped
    rw [(sound.escaped handled present isEscaped).1] at alive
    cases alive
  · by_contra last
    rw [Bool.not_eq_false] at last
    rw [(sound.stopped handled present last).1] at alive
    cases alive

theorem filterMap_report_toList (verdict : Verdict) :
    (some verdict).toList.filterMap Verdict.report = verdict.report.toList := by
  cases verdict <;> rfl

/-- A step of the worker that takes nothing out of the queue. -/
theorem Sound.advance
    (sound : Sound settings otlpJson state)
    (alive : state.worker.isAlive = true)
    (undecided : state.worker.verdict? = none)
    (worker : Worker ε)
    (sent : List π)
    (stillAlive : worker.isAlive = true)
    (inHand : worker.inHand = state.worker.inHand)
    (tookStop : worker.tookStop = state.worker.tookStop)
    (requests : worker.shipment?.toList.flatMap (Shipment.requests otlpJson) =
      state.worker.shipment?.toList.flatMap (Shipment.requests otlpJson) ++ sent)
    (proper : worker.Proper settings otlpJson) :
    Sound settings otlpJson
      { state with
        worker
        requests := state.requests ++ sent
        reports := state.reports ++ worker.verdict?.toList.filterMap Verdict.report } where
  accounted := by
    rw [inHand]
    exact sound.accounted
  requested := by rw [sound.requested, requests, List.append_assoc]
  reported := by
    obtain ⟨closing, report, reported⟩ := sound.reported
    refine ⟨closing, report.of_alive alive rfl, ?_⟩
    rw [undecided, Option.toList_none, List.filterMap_nil, List.append_nil] at reported
    refine (reported.append_right _).trans ?_
    rw [List.append_assoc, List.append_assoc, List.append_assoc, List.append_assoc]
    exact (List.perm_append_comm.append_left _).append_left _
  counted := by rw [inHand]; exact sound.counted
  bounded := sound.bounded
  proper := proper
  settled := sound.settled
  escaped := fun handled present isEscaped =>
    absurd isEscaped (sound.goesOn alive present).1
  stopped := fun handled present last => by
    rw [(sound.goesOn alive present).2] at last
    cases last
  died := fun isDead => by
    dsimp only at isDead
    rw [isDead] at stillAlive
    cases stillAlive
  closed := sound.closed
  closing := by
    cases sound.closing with
    | unqueued batch queue untaken => exact .unqueued batch queue (tookStop.trans untaken)
    | queued batch queue untaken closed closer =>
        exact .queued batch queue (tookStop.trans untaken) closed closer
    | taken queue taken closed closer => exact .taken queue (tookStop.trans taken) closed closer

/-- The worker takes an event out of the queue. -/
theorem Sound.takeEvent
    (sound : Sound settings otlpJson state)
    (gathering : state.worker.shipment? = none)
    (alive : state.worker.isAlive = true)
    {event : ε}
    {rest : List (Item ε)}
    (queued : state.queue = .event event :: rest)
    (proper : Sized settings (state.worker.inHand ++ [event])) :
    Sound settings otlpJson
      { state with queue := rest, worker := .collecting (state.worker.inHand ++ [event]) } where
  accounted := by
    have accounted := sound.accounted
    rw [queued, events_event] at accounted
    simpa [Worker.inHand, State.accepted] using accounted
  requested := by
    have requested := sound.requested
    rw [gathering] at requested
    exact requested
  reported := by
    obtain ⟨closing, report, reported⟩ := sound.reported
    refine ⟨closing, report.of_alive alive rfl, ?_⟩
    have undecided : state.worker.verdict? = none := by
      cases holds : state.worker with
      | finishing shipment verdict => rw [holds] at gathering; cases gathering
      | _ => rfl
    rw [undecided] at reported
    exact reported
  counted := by
    have counted := sound.counted
    rw [queued, List.length_cons] at counted
    change state.unfinished = rest.length + (state.worker.inHand ++ [event]).length
    rw [List.length_append, List.length_singleton]
    omega
  bounded := fun positive => by
    have bounded := sound.bounded positive
    rw [queued, List.length_cons] at bounded
    dsimp only
    omega
  proper := proper
  settled := sound.settled
  escaped := fun handled present isEscaped =>
    absurd isEscaped (sound.goesOn alive present).1
  stopped := fun handled present last => by
    rw [(sound.goesOn alive present).2] at last
    cases last
  died := nofun
  closed := sound.closed
  closing := by
    cases sound.closing with
    | unqueued batch queue untaken =>
        rw [queued] at queue
        cases batch with
        | nil => cases queue
        | cons first batch => exact .unqueued batch (List.cons.inj queue).2 rfl
    | queued batch queue untaken closed closer =>
        rw [queued] at queue
        cases batch with
        | nil => cases queue
        | cons first batch => exact .queued batch (List.cons.inj queue).2 rfl closed closer
    | taken queue taken closed closer => rw [queued] at queue; cases queue

/-- The worker takes the closing item. -/
theorem Sound.takeStop
    (sound : Sound settings otlpJson state)
    (gathering : state.worker.shipment? = none)
    (alive : state.worker.isAlive = true)
    {rest : List (Item ε)}
    (queued : state.queue = .stop :: rest)
    {worker : Worker ε}
    (inHand : worker.inHand = state.worker.inHand)
    (tookStop : worker.tookStop = true)
    (undecided : worker.verdict? = none)
    (uncalled : worker.shipment?.toList.flatMap (Shipment.requests otlpJson) = [])
    (proper : worker.Proper settings otlpJson) :
    Sound settings otlpJson { state.taskDone 1 with queue := rest, worker } where
  accounted := by
    have accounted := sound.accounted
    rw [queued, events_stop] at accounted
    rw [inHand]
    exact accounted
  requested := by
    have requested := sound.requested
    rw [gathering] at requested
    rw [uncalled]
    exact requested
  reported := by
    obtain ⟨closing, report, reported⟩ := sound.reported
    refine ⟨closing, report.of_alive alive rfl, ?_⟩
    have before : state.worker.verdict? = none := by
      cases holds : state.worker with
      | finishing shipment verdict => rw [holds] at gathering; cases gathering
      | _ => rfl
    rw [before] at reported
    rw [undecided]
    exact reported
  counted := by
    have counted := sound.counted
    rw [queued, List.length_cons] at counted
    rw [inHand]
    simp only [State.taskDone]
    omega
  bounded := fun positive => by
    have bounded := sound.bounded positive
    rw [queued, List.length_cons] at bounded
    dsimp only
    omega
  proper := proper
  settled := sound.settled
  escaped := fun handled present isEscaped =>
    absurd isEscaped (sound.goesOn alive present).1
  stopped := fun handled present last => by
    rw [(sound.goesOn alive present).2] at last
    cases last
  died := fun isDead => by
    dsimp only at isDead
    rw [isDead] at tookStop
    cases tookStop
  closed := sound.closed
  closing := by
    cases sound.closing with
    | unqueued batch queue untaken =>
        rw [queued] at queue
        cases batch <;> cases queue
    | queued batch queue untaken closed closer =>
        rw [queued] at queue
        cases batch with
        | nil => exact .taken (List.cons.inj queue).2 tookStop closed closer
        | cons first batch => cases queue
    | taken queue taken closed closer => rw [queued] at queue; cases queue

theorem Sized.singleton (event : ε) : Sized settings [event] :=
  ⟨List.cons_ne_nil _ _, settings.batchSize_pos⟩

theorem Sound.takeFirst
    (sound : Sound settings otlpJson state)
    (waiting : state.worker = .waiting) : Sound settings otlpJson state.takeFirst := by
  unfold State.takeFirst
  split
  next => exact sound
  next rest queued =>
    exact sound.takeStop (by rw [waiting]; rfl) (by rw [waiting]; rfl) queued
      (by rw [waiting]; rfl) rfl rfl rfl trivial
  next event rest queued =>
    have taken := sound.takeEvent (by rw [waiting]; rfl) (by rw [waiting]; rfl) queued
      (by rw [waiting]; exact Sized.singleton event)
    rw [waiting] at taken
    exact taken

theorem Sound.takeNext
    (sound : Sound settings otlpJson state)
    {batch : List ε}
    (collecting : state.worker = .collecting batch)
    (room : batch.length < settings.batchSize) :
    Sound settings otlpJson (state.takeNext batch) := by
  have sized : Sized settings batch := by
    have proper := sound.proper
    rw [collecting] at proper
    exact proper
  unfold State.takeNext
  split
  next => exact sound
  next rest queued =>
    exact sound.takeStop (by rw [collecting]; rfl) (by rw [collecting]; rfl) queued
      (by rw [collecting]; rfl) rfl rfl rfl ⟨sized, rfl, rfl⟩
  next event rest queued =>
    have taken := sound.takeEvent (by rw [collecting]; rfl) (by rw [collecting]; rfl) queued
      (by
        rw [collecting]
        exact ⟨by simp, by simpa [Worker.inHand] using Nat.succ_le_of_lt room⟩)
    rw [collecting] at taken
    exact taken

theorem Sound.collect
    (sound : Sound settings otlpJson state)
    {batch : List ε}
    (collecting : state.worker = .collecting batch)
    (choice : Choice) : Sound settings otlpJson (state.collect settings batch choice) := by
  unfold State.collect
  split
  next room => exact sound.takeNext collecting room.1
  next =>
    have sized : Sized settings batch := by
      have proper := sound.proper
      rw [collecting] at proper
      exact proper
    have advanced := sound.advance (by rw [collecting]; rfl) (by rw [collecting]; rfl)
      (.encoding ⟨batch, false, 0, []⟩) [] rfl (by rw [collecting]; rfl)
      (by rw [collecting]; rfl) (by rw [collecting]; rfl) ⟨sized, rfl, rfl⟩
    simpa [Worker.verdict?] using advanced

theorem Sound.encodeBatch
    (sound : Sound settings otlpJson state)
    {shipment : Shipment ε}
    (encoding : state.worker = .encoding shipment) :
    Sound settings otlpJson (state.encodeBatch otlpJson shipment) := by
  have proper := sound.proper
  rw [encoding] at proper
  obtain ⟨sized, uncalled, unfailed⟩ := proper
  have alive : state.worker.isAlive = true := by rw [encoding]; rfl
  have undecided : state.worker.verdict? = none := by rw [encoding]; rfl
  unfold State.encodeBatch
  split
  next raised =>
    have advanced := sound.advance alive undecided (.finishing shipment .escaped) [] rfl
      (by rw [encoding]; rfl) (by rw [encoding]; rfl) (by rw [encoding]; simp [Worker.shipment?])
      ⟨sized, by omega, by omega, by simp [Ended, unfailed]⟩
    simpa only [State.conclude, Worker.verdict?, filterMap_report_toList, List.append_nil]
      using advanced
  next data encodes =>
    have advanced := sound.advance alive undecided (.sending shipment) [] rfl
      (by rw [encoding]; rfl) (by rw [encoding]; rfl) (by rw [encoding]; simp [Worker.shipment?])
      ⟨sized, by simp [encodes], by simp [uncalled, unfailed], by simp [unfailed],
        by rw [uncalled]; exact settings.maxAttempts_pos⟩
    simpa [Worker.verdict?] using advanced

theorem requests_call
    (otlpJson : List ε → Option π)
    (shipment : Shipment ε)
    (failures : List SendError) :
    Shipment.requests otlpJson { shipment with calls := shipment.calls + 1, failures } =
      shipment.requests otlpJson ++ (otlpJson shipment.batch).toList := by
  unfold Shipment.requests
  dsimp only
  rw [List.replicate_succ', List.filterMap_append]
  cases otlpJson shipment.batch <;> rfl

/-- A call of the sender that moves the worker on. -/
theorem Sound.called
    (sound : Sound settings otlpJson state)
    {shipment : Shipment ε}
    (sending : state.worker = .sending shipment)
    (failures : List SendError)
    (worker : Worker ε)
    (holds : worker.shipment? = some { shipment with calls := shipment.calls + 1, failures })
    (proper : worker.Proper settings otlpJson) :
    Sound settings otlpJson
      { state with
        worker
        requests := state.requests ++ (otlpJson shipment.batch).toList
        reports := state.reports ++ worker.verdict?.toList.filterMap Verdict.report } := by
  refine sound.advance (by rw [sending]; rfl) (by rw [sending]; rfl) worker _ ?_ ?_ ?_ ?_ proper
  · cases worker <;> cases holds <;> rfl
  · rw [sending]
    cases worker <;> cases holds <;> rfl
  · rw [sending]
    cases worker <;> cases holds <;> rfl
  · rw [sending, holds]
    simp [Worker.shipment?, requests_call]

theorem Sound.send
    (sound : Sound settings otlpJson state)
    {shipment : Shipment ε}
    (sending : state.worker = .sending shipment)
    (choice : Choice) :
    Sound settings otlpJson (state.send settings otlpJson shipment choice) := by
  have underway : Underway settings otlpJson shipment := by
    have proper := sound.proper
    rw [sending] at proper
    exact proper
  have within := underway.within
  have delivered : Sound settings otlpJson
      (State.conclude
        { state with requests := state.requests ++ (otlpJson shipment.batch).toList }
        { shipment with calls := shipment.calls + 1 } .delivered) := by
    have called := sound.called sending shipment.failures
      (.finishing { shipment with calls := shipment.calls + 1 } .delivered) rfl
      ⟨underway.sized, within, fun _ => underway.encodes, underway.encodes, by simp [underway.calls], underway.transient⟩
    simpa only [State.conclude, Worker.verdict?, filterMap_report_toList] using called
  unfold State.send
  cases choice with
  | goes => exact delivered
  | deadlinePasses => exact delivered
  | napFails text => exact delivered
  | escapes =>
      have called := sound.called sending shipment.failures
        (.finishing { shipment with calls := shipment.calls + 1 } .escaped) rfl
        ⟨underway.sized, within, fun _ => underway.encodes, underway.transient⟩
      simpa only [State.conclude, Worker.verdict?, filterMap_report_toList] using called
  | fails error =>
      have calls : shipment.calls + 1 = (shipment.failures ++ [error]).length := by
        simp [underway.calls]
      dsimp only
      split
      next final =>
        have called := sound.called sending (shipment.failures ++ [error])
          (.finishing ⟨shipment.batch, shipment.stopAfterBatch, shipment.calls + 1,
            shipment.failures ++ [error]⟩ (.gaveUp error)) rfl
          ⟨underway.sized, within, fun _ => underway.encodes, shipment.failures, rfl, calls, underway.transient, by
            rcases final with last | permanent
            · exact .inr (by dsimp only; omega)
            · exact .inl permanent⟩
        simpa only [State.conclude, Worker.verdict?, filterMap_report_toList] using called
      next again =>
        rw [not_or, Nat.not_le, Bool.not_eq_false] at again
        have called := sound.called sending (shipment.failures ++ [error])
          (.napping ⟨shipment.batch, shipment.stopAfterBatch, shipment.calls + 1,
            shipment.failures ++ [error]⟩) rfl
          ⟨underway.sized, underway.encodes, calls, by
            intro failure present
            rcases List.mem_append.mp present with earlier | last
            · exact underway.transient failure earlier
            · rw [List.mem_singleton.mp last]
              exact again.2, by dsimp only at calls ⊢; omega⟩
        simpa [Worker.verdict?] using called

theorem Sound.nap
    (sound : Sound settings otlpJson state)
    {shipment : Shipment ε}
    (napping : state.worker = .napping shipment)
    (choice : Choice) : Sound settings otlpJson (state.nap shipment choice) := by
  have underway : Underway settings otlpJson shipment := by
    have proper := sound.proper
    rw [napping] at proper
    exact proper
  have alive : state.worker.isAlive = true := by rw [napping]; rfl
  have undecided : state.worker.verdict? = none := by rw [napping]; rfl
  have resumed : Sound settings otlpJson { state with worker := .sending shipment } := by
    have advanced := sound.advance alive undecided (.sending shipment) [] rfl
      (by rw [napping]; rfl) (by rw [napping]; rfl) (by rw [napping]; simp [Worker.shipment?])
      underway
    simpa [Worker.verdict?] using advanced
  have concluded (verdict : Verdict) (ended : Ended settings otlpJson shipment verdict) :
      Sound settings otlpJson (state.conclude shipment verdict) := by
    have advanced := sound.advance alive undecided (.finishing shipment verdict) [] rfl
      (by rw [napping]; rfl) (by rw [napping]; rfl) (by rw [napping]; simp [Worker.shipment?])
      ⟨underway.sized, Nat.le_of_lt underway.within, fun _ => underway.encodes, ended⟩
    simpa only [State.conclude, Worker.verdict?, filterMap_report_toList, List.append_nil]
      using advanced
  unfold State.nap
  cases choice with
  | goes => exact resumed
  | deadlinePasses => exact resumed
  | fails error => exact resumed
  | napFails text =>
      exact concluded (.waitFailed text) ⟨underway.calls, underway.within, underway.transient⟩
  | escapes => exact concluded .escaped underway.transient

theorem Sound.finish
    (sound : Sound settings otlpJson state)
    {shipment : Shipment ε}
    {verdict : Verdict}
    (finishing : state.worker = .finishing shipment verdict) :
    Sound settings otlpJson (state.finish shipment verdict) := by
  have alive : state.worker.isAlive = true := by rw [finishing]; rfl
  have done : Settled settings otlpJson shipment verdict := by
    have proper := sound.proper
    rw [finishing] at proper
    exact proper
  have empty (after : Worker ε)
      (isAfter : after = if verdict = .escaped then .died
        else if shipment.stopAfterBatch then .stopped else .waiting) :
      after.inHand = [] ∧ after.shipment? = none ∧ after.verdict? = none ∧
        after.Proper settings otlpJson := by
    subst isAfter
    split
    · exact ⟨rfl, rfl, rfl, trivial⟩
    · split <;> exact ⟨rfl, rfl, rfl, trivial⟩
  obtain ⟨emptied, uncalled, undecided, proper⟩ := empty _ rfl
  exact {
    accounted := by
      have accounted := sound.accounted
      rw [finishing] at accounted
      simp only [State.finish, State.taskDone, emptied, List.flatMap_append,
        List.flatMap_singleton, List.nil_append, List.append_assoc]
      exact accounted
    requested := by
      have requested := sound.requested
      rw [finishing] at requested
      simp only [State.finish, State.taskDone, uncalled, List.flatMap_append,
        List.flatMap_singleton, Option.toList_none, List.flatMap_nil, List.append_nil]
      rw [requested]
      simp [Worker.shipment?]
    reported := by
      obtain ⟨closing, report, reported⟩ := sound.reported
      refine ⟨closing, report.of_alive alive rfl, ?_⟩
      rw [finishing] at reported
      simp only [State.finish, State.taskDone, undecided, List.filterMap_append,
        Option.toList_none, List.filterMap_nil, List.append_nil]
      simp only [Worker.verdict?, filterMap_report_toList] at reported
      cases holds : verdict.report <;> simpa [holds, State.refusals] using reported
    counted := by
      have counted := sound.counted
      rw [finishing] at counted
      simp only [Worker.inHand] at counted
      simp only [State.finish, State.taskDone, emptied, List.length_nil]
      omega
    bounded := sound.bounded
    proper := proper
    settled := by
      intro handled present
      rcases List.mem_append.mp present with earlier | last
      · exact sound.settled handled earlier
      · rw [List.mem_singleton.mp last]
        exact done
    escaped := by
      intro handled present isEscaped
      rcases List.mem_append.mp present with earlier | last
      · exact absurd isEscaped (sound.goesOn alive earlier).1
      · rw [List.mem_singleton.mp last] at isEscaped ⊢
        exact ⟨if_pos isEscaped, List.getLast?_concat⟩
    stopped := by
      intro handled present isLast
      rcases List.mem_append.mp present with earlier | last
      · rw [(sound.goesOn alive earlier).2] at isLast
        cases isLast
      · rw [List.mem_singleton.mp last] at isLast ⊢
        refine ⟨?_, List.getLast?_concat⟩
        simp only [State.finish]
        split <;> rfl
    died := by
      intro isDead
      simp only [State.finish] at isDead
      refine ⟨⟨shipment, verdict⟩, List.mem_append_right _ (List.mem_singleton_self _), ?_⟩
      by_contra survived
      rw [if_neg survived] at isDead
      split at isDead <;> cases isDead
    closed := sound.closed
    closing := by
      cases sound.closing with
      | unqueued batch queue untaken =>
          rw [finishing] at untaken
          refine .unqueued batch queue ?_
          simp only [State.finish]
          split
          · rfl
          · rw [show shipment.stopAfterBatch = false from untaken]
            rfl
      | queued batch queue untaken closed closer =>
          rw [finishing] at untaken
          refine .queued batch queue ?_ closed closer
          simp only [State.finish]
          split
          · rfl
          · rw [show shipment.stopAfterBatch = false from untaken]
            rfl
      | taken queue taken closed closer =>
          rw [finishing] at taken
          by_cases isEscaped : verdict = .escaped
          · refine .unqueued [] queue ?_
            simp only [State.finish, if_pos isEscaped]
            rfl
          · refine .taken queue ?_ closed closer
            simp only [State.finish, if_neg isEscaped]
            rw [show shipment.stopAfterBatch = true from taken]
            rfl }

theorem Sound.work (sound : Sound settings otlpJson state) (choice : Choice) :
    Sound settings otlpJson (state.work settings otlpJson choice) := by
  unfold State.work
  cases stands : state.worker with
  | waiting => exact sound.takeFirst stands
  | collecting batch => exact sound.collect stands choice
  | encoding shipment => exact sound.encodeBatch stands
  | sending shipment => exact sound.send stands choice
  | napping shipment => exact sound.nap stands choice
  | finishing shipment verdict => exact sound.finish stands
  | stopped => exact sound
  | died => exact sound

/-! ## Runs -/

theorem Sound.step (sound : Sound settings otlpJson state) (operation : Operation ε) :
    Sound settings otlpJson (state.step settings otlpJson operation) := by
  cases operation with
  | emit event => exact sound.emit event
  | close => exact sound.close
  | putStop => exact sound.putStop
  | putTimesOut => exact sound.putTimesOut
  | joined => exact sound.joined
  | joinTimesOut => exact sound.joinTimesOut
  | work choice => exact sound.work choice

theorem Sound.run (sound : Sound settings otlpJson state) (operations : List (Operation ε)) :
    Sound settings otlpJson (state.run settings otlpJson operations) := by
  induction operations generalizing state with
  | nil => exact sound
  | cons operation rest inductionHypothesis => exact inductionHypothesis (sound.step operation)

theorem Sound.emptied
    (sound : Sound settings otlpJson state)
    (stopped : state.worker = .stopped) : state.closed = true ∧ state.queue = [] := by
  cases sound.closing with
  | unqueued batch queue untaken => rw [stopped] at untaken; cases untaken
  | queued batch queue untaken closed closer => rw [stopped] at untaken; cases untaken
  | taken queue taken closed closer => exact ⟨closed, queue⟩

/-- A worker that stopped has dealt with everything that was queued. -/
theorem Sound.flushed
    (sound : Sound settings otlpJson state)
    (stopped : state.worker = .stopped) :
    state.accepted = state.handled.flatMap fun handled => handled.shipment.batch := by
  have accounted := sound.accounted
  rw [stopped, (sound.emptied stopped).2] at accounted
  simpa [Worker.inHand] using accounted

end Steps

/-! ## Guarantees -/

/-- What holds of the export after every run. -/
structure Conserved
    (settings : Settings)
    (otlpJson : List ε → Option π)
    (state : State ε π) : Prop where
  inOrder : state.accepted = state.handled.flatMap (fun handled => handled.shipment.batch) ++
    (state.worker.inHand ++ events state.queue)
  bounded : 0 < settings.queueSize → (state.queue.length : Int) ≤ settings.queueSize
  unfinished : state.unfinished = state.queue.length + state.worker.inHand.length
  settled : ∀ handled ∈ state.handled, Settled settings otlpJson handled.shipment handled.verdict
  requested : state.requests =
    state.handled.flatMap (fun handled => handled.shipment.requests otlpJson) ++
      state.worker.shipment?.toList.flatMap (Shipment.requests otlpJson)
  reported : ∃ closing, ClosingReport state closing ∧
    state.reports.Perm (state.refusals.map Refusal.report ++
      (state.handled.filterMap (fun handled => handled.verdict.report) ++
        state.worker.verdict?.toList.filterMap Verdict.report) ++ closing)
  survived : state.worker ≠ .died → ∀ handled ∈ state.handled, handled.verdict ≠ .escaped
  flushed : state.worker = .stopped →
    state.closed = true ∧ state.queue = [] ∧
      state.accepted = state.handled.flatMap fun handled => handled.shipment.batch

/-- Over every order of the steps of writers, of `close` and of the worker, every event
that was queued is in exactly one batch dealt with, in hand, or queued, in order; a
batch is within its bound and sent at most as often as allowed; everything refused or
given up is reported, once; and a worker that stopped has left nothing behind. -/
theorem exported_events_are_conserved
    (settings : Settings)
    (otlpJson : List ε → Option π)
    (operations : List (Operation ε)) :
    Conserved settings otlpJson (State.run {} settings otlpJson operations) := by
  have sound : Sound settings otlpJson (State.run {} settings otlpJson operations) :=
    Sound.initial.run operations
  exact {
    inOrder := sound.accounted
    bounded := sound.bounded
    unfinished := sound.counted
    settled := sound.settled
    requested := sound.requested
    reported := sound.reported
    survived := fun survived handled present isEscaped =>
      survived (sound.escaped handled present isEscaped).1
    flushed := fun stopped =>
      ⟨(sound.emptied stopped).1, (sound.emptied stopped).2, sound.flushed stopped⟩ }

end AuditExport
end Vinctor
