import Mathlib.Data.List.Basic

/-!
# Effects on a host that may go down

Code whose operations change the state of a host.  Each operation may fail with part of
its work done, and the host may go down during it.  From then on nothing changes: the
cleanup that the code has planned does not happen.

`Meets` is the rule for such code.  Besides what holds where the code returns and where it
raises, it says what holds wherever the host goes down.
-/

namespace Foundation

/-- What becomes of an operation. -/
inductive Fate
  | done
  | fails (progress : Nat)
  | crashes (progress : Nat)
  deriving DecidableEq, Repr

/-- A host: its state, the number of operations so far, and whether it went down. -/
structure Host (σ : Type) where
  state : σ
  clock : Nat
  down : Bool

/-- An effect keeps its changes when it raises. -/
abbrev Effect (σ ε : Type) := ExceptT ε (StateM (Host σ))

namespace Effect

variable {σ ε α β : Type}

/-- Run an effect. -/
def exec (effect : Effect σ ε α) (host : Host σ) : Except ε α × Host σ :=
  effect host

/-! ## Operations -/

/-- An operation.  Where it is cut short, `interrupted` is what it leaves behind. -/
def operation
    (fate : Nat → Fate)
    (failure : ε)
    (finish : σ → Except ε α × σ)
    (interrupted : Nat → σ → σ) : Effect σ ε α := fun host =>
  if host.down then (.error failure, host)
  else
    match fate host.clock with
    | .done =>
        ((finish host.state).1,
          { state := (finish host.state).2, clock := host.clock + 1, down := false })
    | .fails progress =>
        (.error failure,
          { state := interrupted progress host.state, clock := host.clock + 1, down := false })
    | .crashes progress =>
        (.error failure,
          { state := interrupted progress host.state, clock := host.clock + 1, down := true })

/-- Look at the state. -/
def look (read : σ → α) : Effect σ ε α := fun host => (.ok (read host.state), host)

/-- Run the cleanup on every exit.  An error of the cleanup replaces that of the body. -/
def ensuring (body : Effect σ ε α) (cleanup : Effect σ ε Unit) : Effect σ ε α := fun host =>
  let (result, after) := body.exec host
  match cleanup.exec after with
  | (.ok _, last) => (result, last)
  | (.error error, last) => (.error error, last)

/-- Handle an error of the body. -/
def handle (body : Effect σ ε α) (handler : ε → Effect σ ε α) : Effect σ ε α := fun host =>
  match body.exec host with
  | (.ok result, after) => (.ok result, after)
  | (.error error, after) => (handler error).exec after

theorem exec_bind
    (effect : Effect σ ε α)
    (continuation : α → Effect σ ε β)
    (host : Host σ) :
    (effect >>= continuation).exec host =
      match effect.exec host with
      | (.ok result, after) => (continuation result).exec after
      | (.error error, after) => (.error error, after) := by
  change (ExceptT.bind effect continuation) host = _
  simp only [ExceptT.bind, ExceptT.mk, bind, StateT.bind, exec]
  rcases effect host with ⟨result, after⟩
  cases result <;> rfl

theorem exec_look
    (read : σ → α)
    (host : Host σ) :
    (look read : Effect σ ε α).exec host = (.ok (read host.state), host) := rfl

theorem exec_handle
    (body : Effect σ ε α)
    (handler : ε → Effect σ ε α)
    (host : Host σ) :
    (handle body handler).exec host =
      match body.exec host with
      | (.ok result, after) => (.ok result, after)
      | (.error error, after) => (handler error).exec after := rfl

/-- An operation whose fate is known. -/
theorem exec_operation
    {fate : Nat → Fate}
    {failure : ε}
    {finish : σ → Except ε α × σ}
    {interrupted : Nat → σ → σ}
    (state : σ)
    (clock : Nat) :
    (operation fate failure finish interrupted).exec ⟨state, clock, false⟩ =
      match fate clock with
      | .done => ((finish state).1, ⟨(finish state).2, clock + 1, false⟩)
      | .fails progress => (.error failure, ⟨interrupted progress state, clock + 1, false⟩)
      | .crashes progress => (.error failure, ⟨interrupted progress state, clock + 1, true⟩) :=
  rfl

/-! ## The rule -/

/-- What a run ends in. -/
def Ends
    (post : α → σ → Prop)
    (raised : ε → σ → Prop)
    (lost : σ → Prop)
    (run : Except ε α × Host σ) : Prop :=
  if run.2.down then lost run.2.state
  else
    match run.1 with
    | .ok result => post result run.2.state
    | .error error => raised error run.2.state

/-- From a state with `pre`, an effect returns in `post`, raises in `raised`, or the host
goes down in `lost`.  A host that is down stays as it is. -/
structure Meets
    (pre : σ → Prop)
    (effect : Effect σ ε α)
    (post : α → σ → Prop)
    (raised : ε → σ → Prop)
    (lost : σ → Prop) : Prop where
  ends : ∀ host, host.down = false → pre host.state → Ends post raised lost (effect.exec host)
  stays : ∀ host, host.down = true → (effect.exec host).2 = host

variable {pre : σ → Prop} {post : α → σ → Prop} {raised : ε → σ → Prop} {lost : σ → Prop}

namespace Meets

theorem weaken
    {effect : Effect σ ε α}
    {pre' : σ → Prop}
    {post' : α → σ → Prop}
    {raised' : ε → σ → Prop}
    {lost' : σ → Prop}
    (meets : Meets pre' effect post' raised' lost')
    (before : ∀ state, pre state → pre' state)
    (after : ∀ result state, post' result state → post result state)
    (failed : ∀ error state, raised' error state → raised error state)
    (gone : ∀ state, lost' state → lost state) :
    Meets pre effect post raised lost where
  ends host up holds := by
    have ended := meets.ends host up (before _ holds)
    unfold Ends at ended ⊢
    split at ended
    · next isDown =>
        rw [if_pos isDown]
        exact gone _ ended
    · next isUp =>
        rw [if_neg isUp]
        split at ended
        · next result _ => exact after result _ ended
        · next error _ => exact failed error _ ended
  stays := meets.stays

/-- A fact that does not depend on the state still holds where the effect returns. -/
theorem framed
    (fact : Prop)
    {effect : Effect σ ε α}
    (meets : Meets pre effect post raised lost) :
    Meets (fun state => fact ∧ pre state) effect (fun result state => fact ∧ post result state)
      raised lost where
  ends host up holds := by
    have ended := meets.ends host up holds.2
    unfold Ends at ended ⊢
    split at ended
    · next isDown =>
        rw [if_pos isDown]
        exact ended
    · next isUp =>
        rw [if_neg isUp]
        split at ended
        · exact ⟨holds.1, ended⟩
        · exact ended
  stays := meets.stays

theorem pure
    (result : α)
    (holds : ∀ state, pre state → post result state) :
    Meets pre (Pure.pure result : Effect σ ε α) post raised lost where
  ends host up before := by
    change Ends post raised lost (.ok result, host)
    rw [Ends, if_neg (by simp [up])]
    exact holds _ before
  stays _ _ := by rfl

theorem throw
    (error : ε)
    (holds : ∀ state, pre state → raised error state) :
    Meets pre (MonadExcept.throw error : Effect σ ε α) post raised lost where
  ends host up before := by
    change Ends post raised lost (.error error, host)
    rw [Ends, if_neg (by simp [up])]
    exact holds _ before
  stays _ _ := by rfl

theorem look
    (read : σ → α)
    (holds : ∀ state, pre state → post (read state) state) :
    Meets pre (Effect.look read : Effect σ ε α) post raised lost where
  ends host up before := by
    change Ends post raised lost (.ok (read host.state), host)
    rw [Ends, if_neg (by simp [up])]
    exact holds _ before
  stays _ _ := by rfl

theorem operation
    {fate : Nat → Fate}
    {failure : ε}
    {finish : σ → Except ε α × σ}
    {interrupted : Nat → σ → σ}
    (finishes : ∀ state, pre state →
      match (finish state).1 with
      | .ok result => post result (finish state).2
      | .error error => raised error (finish state).2)
    (fails : ∀ state clock progress, pre state → fate clock = .fails progress →
      raised failure (interrupted progress state))
    (crashes : ∀ state progress, pre state → lost (interrupted progress state)) :
    Meets pre (Effect.operation fate failure finish interrupted) post raised lost where
  ends host up before := by
    unfold exec Effect.operation
    rw [if_neg (by simp [up])]
    cases decided : fate host.clock with
    | done => exact finishes _ before
    | fails progress => exact fails _ _ progress before decided
    | crashes progress => exact crashes _ progress before
  stays host down := by
    unfold exec Effect.operation
    rw [if_pos down]

theorem bind
    {effect : Effect σ ε α}
    {continuation : α → Effect σ ε β}
    {final : β → σ → Prop}
    (middle : α → σ → Prop)
    (first : Meets pre effect middle raised lost)
    (second : ∀ result, Meets (middle result) (continuation result) final raised lost) :
    Meets pre (effect >>= continuation) final raised lost where
  ends host up before := by
    have ended := first.ends host up before
    rw [exec_bind]
    rcases ran : effect.exec host with ⟨result, after⟩
    rw [ran] at ended
    rcases Bool.eq_false_or_eq_true after.down with isDown | isUp
    · rw [Ends, if_pos isDown] at ended
      cases result with
      | ok result =>
          have unchanged := (second result).stays after isDown
          rw [Ends, unchanged, if_pos isDown]
          exact ended
      | error error =>
          rw [Ends, if_pos isDown]
          exact ended
    · rw [Ends, if_neg (by simp [isUp])] at ended
      cases result with
      | ok result => exact (second result).ends after isUp ended
      | error error =>
          rw [Ends, if_neg (by simp [isUp])]
          exact ended
  stays host down := by
    have unchanged := first.stays host down
    rw [exec_bind]
    rcases ran : effect.exec host with ⟨result, after⟩
    rw [ran] at unchanged
    subst unchanged
    cases result with
    | ok result => exact (second result).stays after down
    | error error => rfl

/-- The cleanup has to work from what the body leaves on each of its exits. -/
theorem ensuring
    {body : Effect σ ε α}
    {cleanup : Effect σ ε Unit}
    (returned : α → σ → Prop)
    (broken : ε → σ → Prop)
    (first : Meets pre body returned broken lost)
    (returns : ∀ result, Meets (returned result) cleanup (fun _ => post result) raised lost)
    (raises : ∀ error, Meets (broken error) cleanup (fun _ => raised error) raised lost) :
    Meets pre (Effect.ensuring body cleanup) post raised lost where
  ends host up before := by
    have ended := first.ends host up before
    unfold exec Effect.ensuring
    rcases ran : body.exec host with ⟨result, after⟩
    rw [ran] at ended
    dsimp only
    rcases Bool.eq_false_or_eq_true after.down with isDown | isUp
    · rw [Ends, if_pos isDown] at ended
      rcases cleaned : cleanup.exec after with ⟨second, last⟩
      have unchanged : (cleanup.exec after).2 = after := by
        cases result with
        | ok result => exact (returns result).stays after isDown
        | error error => exact (raises error).stays after isDown
      rw [cleaned] at unchanged
      cases unchanged
      cases second <;> (rw [Ends, if_pos isDown]; exact ended)
    · rw [Ends, if_neg (by simp [isUp])] at ended
      cases result with
      | ok result =>
          have cleaned := (returns result).ends after isUp ended
          revert cleaned
          rcases cleanup.exec after with ⟨second, last⟩
          cases second <;> exact id
      | error error =>
          have cleaned := (raises error).ends after isUp ended
          revert cleaned
          rcases cleanup.exec after with ⟨second, last⟩
          cases second <;> exact id
  stays host down := by
    have unchanged := first.stays host down
    unfold exec Effect.ensuring
    rcases ran : body.exec host with ⟨result, after⟩
    rw [ran] at unchanged
    subst unchanged
    dsimp only
    have still : (cleanup.exec after).2 = after := by
      cases result with
      | ok result => exact (returns result).stays after down
      | error error => exact (raises error).stays after down
    rcases cleaned : cleanup.exec after with ⟨second, last⟩
    rw [cleaned] at still
    cases second <;> exact still

theorem handle
    {body : Effect σ ε α}
    {handler : ε → Effect σ ε α}
    (broken : ε → σ → Prop)
    (first : Meets pre body post broken lost)
    (handles : ∀ error, Meets (broken error) (handler error) post raised lost) :
    Meets pre (Effect.handle body handler) post raised lost where
  ends host up before := by
    have ended := first.ends host up before
    unfold exec Effect.handle
    rcases ran : body.exec host with ⟨result, after⟩
    rw [ran] at ended
    rcases Bool.eq_false_or_eq_true after.down with isDown | isUp
    · rw [Ends, if_pos isDown] at ended
      cases result with
      | ok result =>
          rw [Ends, if_pos isDown]
          exact ended
      | error error =>
          have unchanged := (handles error).stays after isDown
          rw [Ends, unchanged, if_pos isDown]
          exact ended
    · rw [Ends, if_neg (by simp [isUp])] at ended
      cases result with
      | ok result =>
          rw [Ends, if_neg (by simp [isUp])]
          exact ended
      | error error => exact (handles error).ends after isUp ended
  stays host down := by
    have unchanged := first.stays host down
    unfold exec Effect.handle
    rcases ran : body.exec host with ⟨result, after⟩
    rw [ran] at unchanged
    subst unchanged
    cases result with
    | ok result => rfl
    | error error => exact (handles error).stays after down

/-- A check that may raise. -/
theorem ite
    {condition : Prop}
    [Decidable condition]
    {first second : Effect σ ε α}
    (holds : condition → Meets pre first post raised lost)
    (fails : ¬ condition → Meets pre second post raised lost) :
    Meets pre (if condition then first else second) post raised lost := by
  split
  · next isTrue => exact holds isTrue
  · next isFalse => exact fails isFalse

end Meets

end Effect

end Foundation
