import Vinctor.Service.ExportQueueSafety

/-!
# Shutdown of the export

Once the closing item is queued nothing else enters the queue, and every step of the
worker uses up a part of the work that is left.  The worker therefore ends after a
bounded number of its steps, whatever the sender does.
-/

namespace Vinctor
namespace AuditExport

universe u v

variable
    {ε : Type u}
    {π : Type v}
    {settings : Settings}
    {otlpJson : List ε → Option π}
    {state : State ε π}

/-! ## Work that is left -/

/-- Most steps that the worker takes before it looks at the queue for the next batch. -/
def Worker.work (settings : Settings) : Worker ε → Nat
  | .collecting _ => 2 * settings.maxAttempts + 2
  | .encoding _ => 2 * settings.maxAttempts + 1
  | .sending shipment => 2 * (settings.maxAttempts - shipment.calls)
  | .napping shipment => 2 * (settings.maxAttempts - shipment.calls) + 1
  | .finishing _ _ => 1
  | .waiting | .stopped | .died => 0

/-- Most steps of the worker with what is queued and in hand. -/
def State.workLeft (settings : Settings) (state : State ε π) : Nat :=
  (2 * settings.maxAttempts + 3) * state.queue.length + state.worker.work settings

/-- The closing item is queued or taken, or the worker has ended. -/
def State.IsClosing (state : State ε π) : Prop :=
  .stop ∈ state.queue ∨ state.worker.tookStop = true ∨ state.worker.isAlive = false

/-- The worker finds the closing item or has taken it. -/
theorem State.IsClosing.finds
    (closing : state.IsClosing)
    (alive : state.worker.isAlive = true)
    (untaken : state.worker.tookStop = false) : ∃ item rest, state.queue = item :: rest := by
  rcases closing with queued | taken | ended
  · exact List.exists_cons_of_ne_nil (List.ne_nil_of_mem queued)
  · rw [taken] at untaken
    cases untaken
  · rw [ended] at alive
    cases alive

theorem workLeft_takeFirst_lt
    (waiting : state.worker = .waiting)
    {item : Item ε}
    {rest : List (Item ε)}
    (queue : state.queue = item :: rest) :
    state.takeFirst.workLeft settings < state.workLeft settings := by
  unfold State.takeFirst State.workLeft
  rw [queue, waiting]
  cases item <;> simp only [Worker.work, List.length_cons, Nat.mul_succ] <;> omega

theorem workLeft_collect_lt
    {batch : List ε}
    (collecting : state.worker = .collecting batch)
    {item : Item ε}
    {rest : List (Item ε)}
    (queue : state.queue = item :: rest)
    (choice : Choice) :
    (state.collect settings batch choice).workLeft settings < state.workLeft settings := by
  unfold State.collect
  split
  next =>
    unfold State.takeNext State.workLeft
    rw [queue, collecting]
    cases item <;> simp only [Worker.work, List.length_cons, Nat.mul_succ] <;> omega
  next =>
    unfold State.workLeft
    rw [collecting]
    simp only [Worker.work]
    omega

theorem workLeft_encodeBatch_lt
    {shipment : Shipment ε}
    (encoding : state.worker = .encoding shipment)
    (uncalled : shipment.calls = 0) :
    (state.encodeBatch otlpJson shipment).workLeft settings < state.workLeft settings := by
  have positive := settings.maxAttempts_pos
  unfold State.encodeBatch
  split
  all_goals
    unfold State.workLeft
    rw [encoding]
    simp only [State.conclude, Worker.work]
    omega

theorem workLeft_send_lt
    {shipment : Shipment ε}
    (sending : state.worker = .sending shipment)
    (underway : Underway settings otlpJson shipment)
    (choice : Choice) :
    (state.send settings otlpJson shipment choice).workLeft settings <
      state.workLeft settings := by
  have within := underway.within
  unfold State.send State.workLeft
  rw [sending]
  cases choice with
  | fails error =>
      dsimp only
      split
      all_goals
        simp only [State.conclude, Worker.work]
        omega
  | goes | deadlinePasses | napFails | escapes =>
      simp only [State.conclude, Worker.work]
      omega

theorem workLeft_nap_lt
    {shipment : Shipment ε}
    (napping : state.worker = .napping shipment)
    (underway : Underway settings otlpJson shipment)
    (choice : Choice) :
    (state.nap shipment choice).workLeft settings < state.workLeft settings := by
  have within := underway.within
  unfold State.nap State.workLeft
  rw [napping]
  cases choice with
  | goes | deadlinePasses | fails | napFails | escapes =>
      simp only [State.conclude, Worker.work]
      omega

theorem workLeft_finish_lt
    {shipment : Shipment ε}
    {verdict : Verdict}
    (finishing : state.worker = .finishing shipment verdict) :
    (state.finish shipment verdict).workLeft settings < state.workLeft settings := by
  unfold State.finish State.workLeft
  rw [finishing]
  simp only [State.taskDone]
  split
  · simp only [Worker.work]
    omega
  · split <;> simp only [Worker.work] <;> omega

/-- While the export is closing, every step of the worker uses up work. -/
theorem Sound.workLeft_work_lt
    (sound : Sound settings otlpJson state)
    (closing : state.IsClosing)
    (alive : state.worker.isAlive = true)
    (choice : Choice) :
    (state.work settings otlpJson choice).workLeft settings < state.workLeft settings := by
  have proper := sound.proper
  unfold State.work
  cases stands : state.worker with
  | waiting =>
      obtain ⟨item, rest, queue⟩ := closing.finds alive (by rw [stands]; rfl)
      exact workLeft_takeFirst_lt stands queue
  | collecting batch =>
      obtain ⟨item, rest, queue⟩ := closing.finds alive (by rw [stands]; rfl)
      exact workLeft_collect_lt stands queue choice
  | encoding shipment =>
      rw [stands] at proper
      exact workLeft_encodeBatch_lt stands proper.2.1
  | sending shipment =>
      rw [stands] at proper
      exact workLeft_send_lt stands proper choice
  | napping shipment =>
      rw [stands] at proper
      exact workLeft_nap_lt stands proper choice
  | finishing shipment verdict => exact workLeft_finish_lt stands
  | stopped => rw [stands] at alive; cases alive
  | died => rw [stands] at alive; cases alive

/-! ## The export stays closing -/

theorem State.IsClosing.of_kept
    (closing : state.IsClosing)
    (alive : state.worker.isAlive = true)
    {after : State ε π}
    (queue : after.queue = state.queue)
    (tookStop : after.worker.tookStop = state.worker.tookStop) : after.IsClosing := by
  rcases closing with queued | taken | ended
  · exact .inl (queue ▸ queued)
  · exact .inr (.inl (tookStop.trans taken))
  · rw [ended] at alive
    cases alive

/-- Without the closing item in hand, it is in the queue. -/
theorem State.IsClosing.queued
    (closing : state.IsClosing)
    (alive : state.worker.isAlive = true)
    (untaken : state.worker.tookStop = false) : .stop ∈ state.queue := by
  rcases closing with queued | taken | ended
  · exact queued
  · rw [taken] at untaken
    cases untaken
  · rw [ended] at alive
    cases alive

theorem State.IsClosing.takeFirst
    (closing : state.IsClosing)
    (waiting : state.worker = .waiting) : state.takeFirst.IsClosing := by
  have queued := closing.queued (by rw [waiting]; rfl) (by rw [waiting]; rfl)
  unfold State.takeFirst
  split
  next empty => exact closing
  next rest queue => exact .inr (.inr rfl)
  next event rest queue =>
    rw [queue] at queued
    exact .inl (by simpa using queued)

theorem State.IsClosing.collect
    (closing : state.IsClosing)
    {batch : List ε}
    (collecting : state.worker = .collecting batch)
    (choice : Choice) : (state.collect settings batch choice).IsClosing := by
  have queued := closing.queued (by rw [collecting]; rfl) (by rw [collecting]; rfl)
  unfold State.collect
  split
  next =>
    unfold State.takeNext
    split
    next empty => exact closing
    next rest queue => exact .inr (.inl rfl)
    next event rest queue =>
      rw [queue] at queued
      exact .inl (by simpa using queued)
  next => exact .inl queued

theorem State.IsClosing.finish
    (closing : state.IsClosing)
    {shipment : Shipment ε}
    {verdict : Verdict}
    (finishing : state.worker = .finishing shipment verdict) :
    (state.finish shipment verdict).IsClosing := by
  unfold State.finish State.IsClosing
  dsimp only
  split
  next => exact .inr (.inr rfl)
  next =>
    split
    next => exact .inr (.inr rfl)
    next between =>
      rw [Bool.not_eq_true] at between
      exact .inl (closing.queued (by rw [finishing]; rfl) (by rw [finishing]; exact between))

theorem State.IsClosing.work
    (closing : state.IsClosing)
    (choice : Choice) : (state.work settings otlpJson choice).IsClosing := by
  unfold State.work
  cases stands : state.worker with
  | waiting => exact closing.takeFirst stands
  | collecting batch => exact closing.collect stands choice
  | encoding shipment =>
      dsimp only [State.encodeBatch]
      split <;> exact closing.of_kept (by rw [stands]; rfl) rfl (by rw [stands]; rfl)
  | sending shipment =>
      unfold State.send
      cases choice with
      | fails error =>
          dsimp only
          split <;> exact closing.of_kept (by rw [stands]; rfl) rfl (by rw [stands]; rfl)
      | goes | deadlinePasses | napFails | escapes =>
          exact closing.of_kept (by rw [stands]; rfl) rfl (by rw [stands]; rfl)
  | napping shipment =>
      unfold State.nap
      cases choice with
      | goes | deadlinePasses | fails | napFails | escapes =>
          exact closing.of_kept (by rw [stands]; rfl) rfl (by rw [stands]; rfl)
  | finishing shipment verdict => exact closing.finish stands
  | stopped => exact closing
  | died => exact closing

/-- The closing item has been queued, so no event is any more. -/
structure Shutting (state : State ε π) : Prop where
  closed : state.closed = true
  put : state.closer = .joining ∨ state.closer = .returned
  closing : state.IsClosing

/-- Steps of the worker change neither the call of `close` nor what was queued. -/
theorem work_kept
    (state : State ε π)
    (settings : Settings)
    (otlpJson : List ε → Option π)
    (choice : Choice) :
    (state.work settings otlpJson choice).closed = state.closed ∧
      (state.work settings otlpJson choice).closer = state.closer ∧
      (state.work settings otlpJson choice).emissions = state.emissions := by
  unfold State.work
  cases state.worker with
  | waiting => dsimp only [State.takeFirst]; split <;> exact ⟨rfl, rfl, rfl⟩
  | collecting batch =>
      dsimp only [State.collect, State.takeNext]
      split
      · split <;> exact ⟨rfl, rfl, rfl⟩
      · exact ⟨rfl, rfl, rfl⟩
  | encoding shipment => dsimp only [State.encodeBatch]; split <;> exact ⟨rfl, rfl, rfl⟩
  | sending shipment =>
      unfold State.send
      cases choice with
      | fails error => dsimp only; split <;> exact ⟨rfl, rfl, rfl⟩
      | goes | deadlinePasses | napFails | escapes => exact ⟨rfl, rfl, rfl⟩
  | napping shipment =>
      unfold State.nap
      cases choice with
      | goes | deadlinePasses | fails | napFails | escapes => exact ⟨rfl, rfl, rfl⟩
  | finishing shipment verdict => exact ⟨rfl, rfl, rfl⟩
  | stopped => exact ⟨rfl, rfl, rfl⟩
  | died => exact ⟨rfl, rfl, rfl⟩

def Operation.isWork : Operation ε → Bool
  | .work _ => true
  | _ => false

/-- A step that is not the worker's leaves a closing export's queue and worker. -/
theorem Shutting.other
    (shutting : Shutting state)
    (settings : Settings)
    (otlpJson : List ε → Option π)
    {operation : Operation ε}
    (other : operation.isWork = false) :
    (state.step settings otlpJson operation).queue = state.queue ∧
      (state.step settings otlpJson operation).worker = state.worker ∧
      (state.step settings otlpJson operation).accepted = state.accepted ∧
      (state.step settings otlpJson operation).closed = true ∧
      ((state.step settings otlpJson operation).closer = .joining ∨
        (state.step settings otlpJson operation).closer = .returned) := by
  have closed := shutting.closed
  have put := shutting.put
  cases operation with
  | work choice => cases other
  | emit event =>
      have refused : state.emit settings event = state.refuse event .closed := if_pos closed
      rw [State.step, refused]
      refine ⟨rfl, rfl, ?_, closed, put⟩
      simp [State.refuse, State.report, State.accepted]
  | close =>
      have same : state.close = state := if_pos closed
      rw [State.step, same]
      exact ⟨rfl, rfl, rfl, closed, put⟩
  | putStop =>
      have same : state.putStop settings = state :=
        if_neg (by rcases put with isPut | isPut <;> simp [isPut])
      rw [State.step, same]
      exact ⟨rfl, rfl, rfl, closed, put⟩
  | putTimesOut =>
      have same : state.putTimesOut settings = state :=
        if_neg (by rcases put with isPut | isPut <;> simp [isPut])
      rw [State.step, same]
      exact ⟨rfl, rfl, rfl, closed, put⟩
  | joined =>
      dsimp only [State.step, State.joined]
      split
      · exact ⟨rfl, rfl, rfl, closed, .inr rfl⟩
      · exact ⟨rfl, rfl, rfl, closed, put⟩
  | joinTimesOut =>
      dsimp only [State.step, State.joinTimesOut]
      split
      · exact ⟨rfl, rfl, rfl, closed, .inr rfl⟩
      · exact ⟨rfl, rfl, rfl, closed, put⟩

theorem work_of_not_alive
    (ended : state.worker.isAlive = false)
    (choice : Choice) : state.work settings otlpJson choice = state := by
  unfold State.work
  cases stands : state.worker with
  | stopped | died => rfl
  | _ => rw [stands] at ended; cases ended

theorem Shutting.step
    (shutting : Shutting state)
    (settings : Settings)
    (otlpJson : List ε → Option π)
    (operation : Operation ε) :
    Shutting (state.step settings otlpJson operation) ∧
      (state.step settings otlpJson operation).accepted = state.accepted := by
  cases isWork : operation.isWork with
  | false =>
      obtain ⟨queue, worker, accepted, closed, put⟩ :=
        shutting.other settings otlpJson isWork
      refine ⟨⟨closed, put, ?_⟩, accepted⟩
      have closing := shutting.closing
      unfold State.IsClosing at closing ⊢
      rwa [queue, worker]
  | true =>
      cases operation with
      | work choice =>
          have kept := work_kept state settings otlpJson choice
          refine ⟨⟨kept.1.trans shutting.closed, ?_, shutting.closing.work choice⟩, ?_⟩
          · dsimp only [State.step]
            rw [kept.2.1]
            exact shutting.put
          · dsimp only [State.step, State.accepted]
            rw [kept.2.2]
      | _ => cases isWork

/-- A worker that has ended stays ended. -/
theorem Shutting.ended_run
    (shutting : Shutting state)
    (settings : Settings)
    (otlpJson : List ε → Option π)
    (ended : state.worker.isAlive = false)
    (operations : List (Operation ε)) :
    (state.run settings otlpJson operations).worker.isAlive = false := by
  induction operations generalizing state with
  | nil => exact ended
  | cons operation rest inductionHypothesis =>
      have next := (shutting.step settings otlpJson operation).1
      refine inductionHypothesis next ?_
      cases isWork : operation.isWork with
      | false =>
          rw [(shutting.other settings otlpJson isWork).2.1]
          exact ended
      | true =>
          cases operation with
          | work choice =>
              change (state.work settings otlpJson choice).worker.isAlive = false
              rw [work_of_not_alive ended]
              exact ended
          | _ => cases isWork

/-- A worker with less work left than steps before it ends. -/
theorem Shutting.run
    (shutting : Shutting state)
    (sound : Sound settings otlpJson state)
    (operations : List (Operation ε)) :
    (state.run settings otlpJson operations).accepted = state.accepted ∧
      ((state.run settings otlpJson operations).worker.isAlive = true →
        (state.run settings otlpJson operations).workLeft settings +
          operations.countP Operation.isWork ≤ state.workLeft settings) := by
  induction operations generalizing state with
  | nil => exact ⟨rfl, fun _ => Nat.le_refl _⟩
  | cons operation rest inductionHypothesis =>
      obtain ⟨next, accepted⟩ :=
        shutting.step settings otlpJson operation
      have later := inductionHypothesis next (sound.step operation)
      refine ⟨later.1.trans accepted, fun alive => ?_⟩
      have bounded := later.2 alive
      rw [List.countP_cons]
      change State.workLeft settings
        (State.run (state.step settings otlpJson operation) settings otlpJson rest) + _ ≤ _
      cases isWork : operation.isWork with
      | false =>
          obtain ⟨queue, worker, -⟩ :=
            shutting.other settings otlpJson isWork
          have same : (state.step settings otlpJson operation).workLeft settings =
              state.workLeft settings := by
            unfold State.workLeft
            rw [queue, worker]
          simp only [Bool.false_eq_true, if_false]
          omega
      | true =>
          cases operation with
          | work choice =>
              cases standing : state.worker.isAlive with
              | true =>
                  have less := sound.workLeft_work_lt shutting.closing standing choice
                  simp only [if_true]
                  simp only [State.step] at bounded ⊢
                  omega
              | false =>
                  have ended := shutting.ended_run settings otlpJson standing (.work choice :: rest)
                  rw [ended] at alive
                  cases alive
          | _ => cases isWork

theorem workLeft_lt (settings : Settings) (state : State ε π) :
    state.workLeft settings < (2 * settings.maxAttempts + 3) * (state.queue.length + 1) := by
  have within : state.worker.work settings ≤ 2 * settings.maxAttempts + 2 := by
    cases state.worker <;> simp only [Worker.work] <;> omega
  unfold State.workLeft
  rw [Nat.mul_succ]
  omega

theorem Sound.shutting
    (sound : Sound settings otlpJson state)
    (queued : .stop ∈ state.queue) : Shutting state := by
  cases sound.closing with
  | unqueued batch queue untaken =>
      rw [queue] at queued
      obtain ⟨event, -, same⟩ := List.mem_map.mp queued
      cases same
  | queued batch queue untaken closed closer =>
      refine ⟨closed, ?_, .inl queued⟩
      have present := sound.closed.mp closed
      cases stands : state.closer with
      | absent => exact absurd stands present
      | stopping => exact absurd stands closer
      | joining => exact .inl rfl
      | returned => exact .inr rfl
  | taken queue taken closed closer =>
      rw [queue] at queued
      cases queued

/-- Once the closing item is queued, the worker ends within a bounded number of its own
steps, whatever the sender and the other threads do; no event is queued any more, and
a worker that no exception took away has dealt with every event that was. -/
theorem closing_export_ends
    (settings : Settings)
    (otlpJson : List ε → Option π)
    (operations continuation : List (Operation ε))
    (queued : .stop ∈ (State.run {} settings otlpJson operations).queue)
    (enough : (2 * settings.maxAttempts + 3) *
        ((State.run {} settings otlpJson operations).queue.length + 1) ≤
      continuation.countP Operation.isWork) :
    (State.run {} settings otlpJson (operations ++ continuation)).worker.isAlive = false ∧
      (State.run {} settings otlpJson (operations ++ continuation)).accepted =
        (State.run {} settings otlpJson operations).accepted ∧
      ((∀ handled ∈ (State.run {} settings otlpJson (operations ++ continuation)).handled,
          handled.verdict ≠ .escaped) →
        (State.run {} settings otlpJson (operations ++ continuation)).handled.flatMap
            (fun handled => handled.shipment.batch) =
          (State.run {} settings otlpJson operations).accepted) := by
  have before : Sound settings otlpJson (State.run {} settings otlpJson operations) :=
    Sound.initial.run operations
  have shutting := before.shutting queued
  have after := before.run continuation
  have joined : State.run {} settings otlpJson (operations ++ continuation) =
      (State.run {} settings otlpJson operations).run settings otlpJson continuation :=
    List.foldl_append ..
  rw [joined]
  generalize State.run {} settings otlpJson operations = state at *
  obtain ⟨accepted, spent⟩ := shutting.run before continuation
  have ended : (state.run settings otlpJson continuation).worker.isAlive = false := by
    by_contra alive
    rw [Bool.not_eq_false] at alive
    have bound := workLeft_lt settings state
    have left := spent alive
    omega
  refine ⟨ended, accepted, fun survived => ?_⟩
  cases stands : (state.run settings otlpJson continuation).worker with
  | stopped => rw [← accepted, after.flushed stands]
  | died =>
      obtain ⟨handled, present, isEscaped⟩ := after.died stands
      exact absurd isEscaped (survived handled present)
  | _ => rw [stands] at ended; cases ended

/-- One attempt for each batch. -/
def impatient : Settings := { endpoint := "http://collector", maxAttempts := 1 }

/-- An event is queued and the export is closed. -/
def closedExport : List (Operation Nat) := [.emit 7, .close, .putStop]

def refusedSteps : List (Operation Nat) :=
  List.replicate 15 (.work (.fails (.connection "refused")))

/-- The worker ends although the only attempt fails. -/
theorem closed_export_gives_up :
    (State.run {} impatient List.head? (closedExport ++ refusedSteps)).worker.isAlive = false ∧
      (State.run {} impatient List.head? (closedExport ++ refusedSteps)).accepted =
        (State.run {} impatient List.head? closedExport).accepted ∧
      ((∀ handled ∈ (State.run {} impatient List.head? (closedExport ++ refusedSteps)).handled,
          handled.verdict ≠ .escaped) →
        (State.run {} impatient List.head? (closedExport ++ refusedSteps)).handled.flatMap
            (fun handled => handled.shipment.batch) =
          (State.run {} impatient List.head? closedExport).accepted) :=
  closing_export_ends impatient List.head? closedExport refusedSteps (by decide) (by decide)

end AuditExport
end Vinctor
