import Mathlib.Data.List.Basic
import Mathlib.Logic.Function.Basic

/-!
# A shared log guarded by a lock

Sessions append rows to a committed log inside transactions.  A transaction is
a stack of scopes: the outermost one is the transaction itself and the others
are savepoints.  One exclusive lock belongs to the scope in which it was taken
and goes with it: it is released when the scope is rolled back or the
transaction ends, and passes to the enclosing scope when the scope is released.

A statement that fails undoes the innermost scope, and the session runs no
other statement until it rolls back a scope.
-/

namespace Foundation
namespace GuardedLog

/-- A scope keeps the rows to go back to, and whether the lock was taken in it. -/
structure Scope (ρ : Type u) where
  saved : List ρ
  locked : Bool
  deriving DecidableEq, Repr

/-- Open scopes, innermost first, and the rows that are not yet committed. -/
structure Session (ρ : Type u) where
  scopes : List (Scope ρ)
  pending : List ρ
  failed : Bool
  deriving DecidableEq, Repr

/-- How a statement ends.  The session may be lost during the statement, and it
takes effect on the server or not. -/
inductive Ending
  | succeeds
  | fails
  | lost (takesEffect : Bool)
  deriving DecidableEq, Repr

/-- What changes the scopes of a session. -/
inductive ScopeChange
  | enter (ending : Ending)
  | leave (ending : Ending)
  | unwind (ending : Ending)
  | fail
  | lose
  deriving DecidableEq, Repr

namespace Session

variable {ρ : Type u}

/-- A session without a transaction. -/
def idle : Session ρ where
  scopes := []
  pending := []
  failed := false

def holdsLock (session : Session ρ) : Bool := session.scopes.any (·.locked)

/-- Start of a transaction, or of a savepoint in it. -/
def enter (session : Session ρ) : Session ρ :=
  { session with scopes := { saved := session.pending, locked := false } :: session.scopes }

/-- A statement failed. -/
def fail (session : Session ρ) : Session ρ :=
  match session.scopes with
  | [] => session
  | scope :: outer =>
      if session.failed then session
      else
        { scopes := { scope with locked := false } :: outer
          pending := scope.saved
          failed := true }

/-- The statement that ends a savepoint failed.  The savepoint is undone, unless
that happened before; nobody refers to it any more, and what it still holds is
held until an enclosing scope is rolled back. -/
def abandon (session : Session ρ) (scope parent : Scope ρ) (outer : List (Scope ρ)) :
    Session ρ :=
  if session.failed then
    { session with
      scopes := { parent with locked := parent.locked || scope.locked } :: outer }
  else
    { scopes := parent :: outer
      pending := scope.saved
      failed := true }

/-- End of the innermost scope without an error: the rows that are committed,
and the session.  The commit of a failed transaction is a rollback. -/
def leave (session : Session ρ) (ending : Ending) : List ρ × Session ρ :=
  match session.scopes with
  | [] => ([], session)
  | [_] =>
      if session.failed then ([], idle)
      else
        match ending with
        | .succeeds => (session.pending, idle)
        | .fails => ([], idle)
        | .lost takesEffect => (if takesEffect then session.pending else [], idle)
  | scope :: parent :: outer =>
      match ending with
      | .succeeds =>
          if session.failed then ([], session.abandon scope parent outer)
          else
            ([],
              { session with
                scopes := { parent with locked := parent.locked || scope.locked } :: outer })
      | .fails => ([], session.abandon scope parent outer)
      | .lost _ => ([], idle)

/-- End of the innermost scope with an error. -/
def unwind (session : Session ρ) (ending : Ending) : Session ρ :=
  match session.scopes with
  | [] => session
  | [_] => idle
  | scope :: parent :: outer =>
      match ending with
      | .succeeds => { scopes := parent :: outer, pending := scope.saved, failed := false }
      | .fails => session.abandon scope parent outer
      | .lost _ => idle

/-- Rows that a change of the scopes commits, and the session after it. -/
def cross (session : Session ρ) : ScopeChange → List ρ × Session ρ
  | .enter .succeeds => ([], if session.failed then session else session.enter)
  | .enter .fails => ([], session.fail)
  | .enter (.lost _) => ([], idle)
  | .leave ending => session.leave ending
  | .unwind ending => ([], session.unwind ending)
  | .fail => ([], session.fail)
  | .lose => ([], idle)

/-- The lock is taken in the innermost scope. -/
def lock (session : Session ρ) : Session ρ :=
  match session.scopes with
  | [] => session
  | scope :: outer => { session with scopes := { scope with locked := true } :: outer }

def append (session : Session ρ) (row : ρ) : Session ρ :=
  { session with pending := session.pending ++ [row] }

@[simp] theorem pending_lock (session : Session ρ) : session.lock.pending = session.pending := by
  unfold lock
  split <;> rfl

@[simp] theorem failed_lock (session : Session ρ) : session.lock.failed = session.failed := by
  unfold lock
  split <;> rfl

@[simp] theorem saved_scopes_lock (session : Session ρ) :
    session.lock.scopes.map (·.saved) = session.scopes.map (·.saved) := by
  unfold lock
  split
  · rfl
  · next scope outer scopes => simp [scopes]

/-! ## Rows are only held under the lock -/

/-- Rows that the scopes hold, with the lock taken at every level that has rows. -/
def Guarded : List (Scope ρ) → List ρ → Prop
  | [], rows => rows = []
  | scope :: outer, rows =>
      scope.saved <+: rows ∧ (rows ≠ [] → (scope :: outer).any (·.locked) = true) ∧
        Guarded outer scope.saved

/-- The rows that are not committed are held under the lock. -/
def IsGuarded (session : Session ρ) : Prop := Guarded session.scopes session.pending

theorem Guarded.locked
    {scopes : List (Scope ρ)}
    {rows : List ρ}
    (guarded : Guarded scopes rows)
    (nonempty : rows ≠ []) :
    scopes.any (·.locked) = true := by
  cases scopes with
  | nil => exact (nonempty guarded).elim
  | cons scope outer => exact guarded.2.1 nonempty

theorem IsGuarded.holdsLock
    {session : Session ρ}
    (guarded : session.IsGuarded)
    (nonempty : session.pending ≠ []) :
    session.holdsLock = true :=
  Guarded.locked guarded nonempty

@[simp] theorem isGuarded_idle : (idle : Session ρ).IsGuarded := rfl

@[simp] theorem holdsLock_idle : (idle : Session ρ).holdsLock = false := rfl

theorem IsGuarded.enter
    {session : Session ρ}
    (guarded : session.IsGuarded) :
    session.enter.IsGuarded := by
  refine ⟨List.prefix_rfl, ?_, guarded⟩
  intro nonempty
  rw [List.any_cons, Bool.false_or]
  exact guarded.holdsLock nonempty

theorem IsGuarded.lock
    {session : Session ρ}
    (guarded : session.IsGuarded) :
    session.lock.IsGuarded := by
  unfold Session.lock
  cases scopes : session.scopes with
  | nil => exact guarded
  | cons scope outer =>
      rw [IsGuarded, scopes] at guarded
      exact ⟨guarded.1, fun _ => by simp, guarded.2.2⟩

theorem IsGuarded.append
    {session : Session ρ}
    (guarded : session.IsGuarded)
    (holds : session.holdsLock = true)
    (row : ρ) :
    (session.append row).IsGuarded := by
  unfold IsGuarded Session.append
  unfold IsGuarded at guarded
  unfold Session.holdsLock at holds
  cases scopes : session.scopes with
  | nil => simp [scopes] at holds
  | cons scope outer =>
      rw [scopes] at guarded holds
      exact ⟨guarded.1.trans (List.prefix_append _ _), fun _ => holds, guarded.2.2⟩

theorem IsGuarded.fail
    {session : Session ρ}
    (guarded : session.IsGuarded) :
    session.fail.IsGuarded := by
  unfold Session.fail
  cases scopes : session.scopes with
  | nil => exact guarded
  | cons scope outer =>
      dsimp only
      split
      · exact guarded
      · rw [IsGuarded, scopes] at guarded
        refine ⟨List.prefix_rfl, ?_, guarded.2.2⟩
        intro nonempty
        simpa using guarded.2.2.locked nonempty

/-- Two scopes become one. -/
theorem Guarded.merge
    {scope parent : Scope ρ}
    {outer : List (Scope ρ)}
    {rows : List ρ}
    (guarded : Guarded (scope :: parent :: outer) rows) :
    Guarded ({ parent with locked := parent.locked || scope.locked } :: outer) rows := by
  obtain ⟨within, locked, parentWithin, -, outerGuarded⟩ := guarded
  refine ⟨parentWithin.trans within, ?_, outerGuarded⟩
  intro nonempty
  have taken := locked nonempty
  simp only [List.any_cons, Bool.or_eq_true] at taken ⊢
  tauto

theorem IsGuarded.abandon
    {session : Session ρ}
    {scope parent : Scope ρ}
    {outer : List (Scope ρ)}
    (guarded : Guarded (scope :: parent :: outer) session.pending) :
    (session.abandon scope parent outer).IsGuarded := by
  unfold Session.abandon
  split
  · exact guarded.merge
  · exact guarded.2.2

theorem IsGuarded.cross
    {session : Session ρ}
    (guarded : session.IsGuarded)
    (change : ScopeChange) :
    (session.cross change).2.IsGuarded := by
  have scopesGuarded := guarded
  unfold IsGuarded at scopesGuarded
  cases change with
  | enter ending =>
      cases ending with
      | succeeds =>
          dsimp only [Session.cross]
          split
          · exact guarded
          · exact guarded.enter
      | fails => exact guarded.fail
      | lost takesEffect => exact isGuarded_idle
  | leave ending =>
      dsimp only [Session.cross]
      unfold Session.leave
      rcases scopes : session.scopes with - | ⟨scope, - | ⟨parent, outer⟩⟩
      · exact guarded
      · dsimp only
        split
        · exact isGuarded_idle
        · cases ending <;> exact isGuarded_idle
      · rw [scopes] at scopesGuarded
        cases ending with
        | succeeds =>
            dsimp only
            split
            · exact IsGuarded.abandon scopesGuarded
            · exact scopesGuarded.merge
        | fails => exact IsGuarded.abandon scopesGuarded
        | lost takesEffect => exact isGuarded_idle
  | unwind ending =>
      dsimp only [Session.cross]
      unfold Session.unwind
      rcases scopes : session.scopes with - | ⟨scope, - | ⟨parent, outer⟩⟩
      · exact guarded
      · exact isGuarded_idle
      · rw [scopes] at scopesGuarded
        cases ending with
        | succeeds => exact scopesGuarded.2.2
        | fails => exact IsGuarded.abandon scopesGuarded
        | lost takesEffect => exact isGuarded_idle
  | fail => exact guarded.fail
  | lose => exact isGuarded_idle

/-- A change of the scopes does not take the lock. -/
theorem holdsLock_of_cross
    {session : Session ρ}
    {change : ScopeChange}
    (holds : (session.cross change).2.holdsLock = true) :
    session.holdsLock = true := by
  have abandoned : ∀ scope parent outer, session.scopes = scope :: parent :: outer →
      (session.abandon scope parent outer).holdsLock = true → session.holdsLock = true := by
    intro scope parent outer scopes
    unfold Session.abandon holdsLock
    split <;> simp only [scopes, List.any_cons, Bool.or_eq_true] <;> tauto
  have failing : session.fail.holdsLock = true → session.holdsLock = true := by
    unfold Session.fail holdsLock
    split
    · exact id
    · next scope outer scopes =>
        split <;> simp only [scopes, List.any_cons, Bool.or_eq_true] <;> tauto
  cases change with
  | enter ending =>
      cases ending with
      | succeeds =>
          dsimp only [cross] at holds
          split at holds
          · exact holds
          · simpa [Session.enter, holdsLock] using holds
      | fails => exact failing holds
      | lost takesEffect => simp [cross] at holds
  | leave ending =>
      dsimp only [cross] at holds
      unfold Session.leave at holds
      split at holds
      · exact holds
      · split at holds
        · simp at holds
        · cases ending <;> simp at holds
      · next scope parent outer scopes =>
          cases ending with
          | succeeds =>
              dsimp only at holds
              split at holds
              · exact abandoned scope parent outer scopes holds
              · simp only [holdsLock, scopes, List.any_cons, Bool.or_eq_true] at holds ⊢
                tauto
          | fails => exact abandoned scope parent outer scopes holds
          | lost takesEffect => simp at holds
  | unwind ending =>
      dsimp only [cross] at holds
      unfold Session.unwind at holds
      split at holds
      · exact holds
      · simp at holds
      · next scope parent outer scopes =>
          cases ending with
          | succeeds =>
              simp only [holdsLock, scopes, List.any_cons, Bool.or_eq_true] at holds ⊢
              tauto
          | fails => exact abandoned scope parent outer scopes holds
          | lost takesEffect => simp at holds
  | fail => exact failing holds
  | lose => simp [cross] at holds

/-- A change of the scopes commits nothing and keeps some first rows, or commits
all rows and keeps none. -/
theorem IsGuarded.cross_rows
    {session : Session ρ}
    (guarded : session.IsGuarded)
    (change : ScopeChange) :
    (session.cross change).1 = [] ∧ (session.cross change).2.pending <+: session.pending ∨
      (session.cross change).1 = session.pending ∧
        (session.cross change).2.pending = [] := by
  unfold IsGuarded at guarded
  have abandoned : ∀ scope parent outer, session.scopes = scope :: parent :: outer →
      (session.abandon scope parent outer).pending <+: session.pending := by
    intro scope parent outer scopes
    rw [scopes] at guarded
    unfold Session.abandon
    split
    · exact List.prefix_rfl
    · exact guarded.1
  have failing : session.fail.pending <+: session.pending := by
    unfold Session.fail
    split
    · exact List.prefix_rfl
    · next scope outer scopes =>
        rw [scopes] at guarded
        split
        · exact List.prefix_rfl
        · exact guarded.1
  cases change with
  | enter ending =>
      left
      cases ending with
      | succeeds =>
          refine ⟨rfl, ?_⟩
          dsimp only [Session.cross]
          split <;> exact List.prefix_rfl
      | fails => exact ⟨rfl, failing⟩
      | lost takesEffect => exact ⟨rfl, List.nil_prefix⟩
  | leave ending =>
      dsimp only [Session.cross]
      unfold Session.leave
      split
      · exact .inl ⟨rfl, List.prefix_rfl⟩
      · split
        · exact .inl ⟨rfl, List.nil_prefix⟩
        · rcases ending with - | - | (- | -)
          · exact .inr ⟨rfl, rfl⟩
          · exact .inl ⟨rfl, List.nil_prefix⟩
          · exact .inl ⟨rfl, List.nil_prefix⟩
          · exact .inr ⟨rfl, rfl⟩
      · next scope parent outer scopes =>
          left
          cases ending with
          | succeeds =>
              dsimp only
              split
              · exact ⟨rfl, abandoned scope parent outer scopes⟩
              · exact ⟨rfl, List.prefix_rfl⟩
          | fails => exact ⟨rfl, abandoned scope parent outer scopes⟩
          | lost takesEffect => exact ⟨rfl, List.nil_prefix⟩
  | unwind ending =>
      left
      refine ⟨rfl, ?_⟩
      dsimp only [Session.cross]
      unfold Session.unwind
      split
      · exact List.prefix_rfl
      · exact List.nil_prefix
      · next scope parent outer scopes =>
          cases ending with
          | succeeds =>
              rw [scopes] at guarded
              exact guarded.1
          | fails => exact abandoned scope parent outer scopes
          | lost takesEffect => exact List.nil_prefix
  | fail => exact .inl ⟨rfl, failing⟩
  | lose => exact .inl ⟨rfl, List.nil_prefix⟩

end Session

/-! ## Sessions that share a log -/

/-- Committed rows, the sessions, and the session that holds the lock. -/
structure Store (κ : Type u) (ρ : Type v) where
  committed : List ρ
  sessions : κ → Session ρ
  holder : Option κ

namespace Store

variable {κ : Type u} {ρ : Type v} [DecidableEq κ]

def empty : Store κ ρ where
  committed := []
  sessions := fun _ => .idle
  holder := none

/-- Rows that a statement of a session sees: those committed when it starts,
and its own. -/
def visible (store : Store κ ρ) (key : κ) : List ρ :=
  store.committed ++ (store.sessions key).pending

/-- A session in place of another, and the lock as it says. -/
def update (store : Store κ ρ) (key : κ) (session : Session ρ) : Store κ ρ :=
  { store with
    sessions := Function.update store.sessions key session
    holder :=
      if session.holdsLock then some key
      else if store.holder = some key then none
      else store.holder }

/-- Change the scopes of a session. -/
def cross (store : Store κ ρ) (key : κ) (change : ScopeChange) : Store κ ρ :=
  let (committed, session) := (store.sessions key).cross change
  { store.update key session with committed := store.committed ++ committed }

/-- Take the lock, unless another session has it. -/
def lock? (store : Store κ ρ) (key : κ) : Option (Store κ ρ) :=
  if store.holder = none ∨ store.holder = some key then
    some (store.update key (store.sessions key).lock)
  else none

def append (store : Store κ ρ) (key : κ) (row : ρ) : Store κ ρ :=
  store.update key ((store.sessions key).append row)

@[simp] theorem sessions_update_self (store : Store κ ρ) (key : κ) (session : Session ρ) :
    (store.update key session).sessions key = session := by
  simp [update]

theorem sessions_update_of_ne
    {key other : κ}
    (different : other ≠ key)
    (store : Store κ ρ)
    (session : Session ρ) :
    (store.update key session).sessions other = store.sessions other := by
  simp [update, different]

@[simp] theorem committed_update (store : Store κ ρ) (key : κ) (session : Session ρ) :
    (store.update key session).committed = store.committed := rfl

theorem sessions_cross_of_ne
    {key other : κ}
    (different : other ≠ key)
    (store : Store κ ρ)
    (change : ScopeChange) :
    (store.cross key change).sessions other = store.sessions other :=
  sessions_update_of_ne different store _

@[simp] theorem committed_cross (store : Store κ ρ) (key : κ) (change : ScopeChange) :
    (store.cross key change).committed =
      store.committed ++ ((store.sessions key).cross change).1 := rfl

@[simp] theorem sessions_cross_self (store : Store κ ρ) (key : κ) (change : ScopeChange) :
    (store.cross key change).sessions key = ((store.sessions key).cross change).2 :=
  sessions_update_self store key _

/-! ## The log under its lock -/

/-- What holds between the statements of all sessions: every session sees rows
with a given property, rows that are not committed are held under the lock, and
only one session has it. -/
structure Consistent (Admissible : List ρ → Prop) (store : Store κ ρ) : Prop where
  committed : Admissible store.committed
  visible : ∀ key, Admissible (store.visible key)
  guarded : ∀ key, (store.sessions key).IsGuarded
  held : ∀ key, (store.sessions key).holdsLock = true → store.holder = some key

namespace Consistent

variable {Admissible : List ρ → Prop} {store : Store κ ρ}

omit [DecidableEq κ] in
theorem empty (admissible : Admissible []) :
    Consistent Admissible (Store.empty : Store κ ρ) where
  committed := admissible
  visible := fun _ => admissible
  guarded := fun _ => Session.isGuarded_idle
  held := by
    intro key holds
    simp [Store.empty] at holds

omit [DecidableEq κ] in
/-- While one session has the lock, the others have no rows of their own. -/
theorem pending_eq_nil
    (consistent : Consistent Admissible store)
    {key other : κ}
    (holds : (store.sessions key).holdsLock = true)
    (different : other ≠ key) :
    (store.sessions other).pending = [] := by
  by_contra nonempty
  have otherHolds := consistent.held other ((consistent.guarded other).holdsLock nonempty)
  rw [consistent.held key holds] at otherHolds
  exact different (Option.some.inj otherHolds).symm

/-- The lock after a session changed that may have taken it only when it was
free. -/
theorem held_update
    (consistent : Consistent Admissible store)
    {key : κ}
    {session : Session ρ}
    (free : session.holdsLock = true → store.holder = none ∨ store.holder = some key) :
    ∀ other, ((store.update key session).sessions other).holdsLock = true →
      (store.update key session).holder = some other := by
  intro other holds
  by_cases same : other = key
  · subst same
    rw [sessions_update_self] at holds
    simp [update, holds]
  · rw [sessions_update_of_ne same] at holds
    have otherHolds := consistent.held other holds
    have notHeld : ¬ session.holdsLock = true := by
      intro taken
      rcases free taken with vacant | own
      · simp [vacant] at otherHolds
      · rw [own] at otherHolds
        exact same (Option.some.inj otherHolds).symm
    have notOwn : ¬ store.holder = some key := by
      rw [otherHolds]
      exact fun own => same (Option.some.inj own)
    simp only [update, if_neg notHeld, if_neg notOwn]
    exact otherHolds

/-- What a change of the scopes of one session commits leaves what the holder
of the lock sees. -/
theorem visible_cross_of_holds
    (consistent : Consistent Admissible store)
    {key other : κ}
    (holds : (store.sessions other).holdsLock = true)
    (different : other ≠ key)
    (change : ScopeChange) :
    (store.cross key change).visible other = store.visible other := by
  have none := consistent.pending_eq_nil holds different.symm
  have nothing : ((store.sessions key).cross change).1 = [] := by
    rcases (consistent.guarded key).cross_rows change with ⟨nothing, -⟩ | ⟨all, -⟩
    · exact nothing
    · rw [all, none]
  rw [Store.visible, committed_cross, sessions_cross_of_ne different, nothing, List.append_nil]
  rfl

variable (prefixes : ∀ {rows earlier : List ρ}, Admissible rows → earlier <+: rows →
  Admissible earlier)

include prefixes in
theorem cross
    (consistent : Consistent Admissible store)
    (key : κ)
    (change : ScopeChange) :
    Consistent Admissible (store.cross key change) := by
  have guarded := consistent.guarded key
  have rows := guarded.cross_rows change
  have kept : store.committed ++ ((store.sessions key).cross change).1 ++
      ((store.sessions key).cross change).2.pending <+: store.visible key := by
    rw [List.append_assoc]
    apply (List.prefix_append_right_inj _).mpr
    rcases rows with ⟨nothing, within⟩ | ⟨all, none⟩
    · rwa [nothing, List.nil_append]
    · refine ⟨[], ?_⟩
      rw [all, none, List.append_nil, List.append_nil]
  have committed : Admissible (store.cross key change).committed :=
    prefixes (consistent.visible key) ((List.prefix_append _ _).trans kept)
  refine
    { committed
      visible := ?_
      guarded := ?_
      held := consistent.held_update fun holds =>
        .inr (consistent.held key (Session.holdsLock_of_cross holds)) }
  · intro other
    by_cases same : other = key
    · subst same
      rw [Store.visible, committed_cross, sessions_cross_self]
      exact prefixes (consistent.visible other) kept
    · rw [Store.visible, committed_cross, sessions_cross_of_ne same]
      rcases rows with ⟨nothing, -⟩ | ⟨all, -⟩
      · rw [nothing, List.append_nil]
        exact consistent.visible other
      · -- Rows are committed only by the holder of the lock.
        by_cases empty : (store.sessions key).pending = []
        · rw [all, empty, List.append_nil]
          exact consistent.visible other
        · rw [consistent.pending_eq_nil (guarded.holdsLock empty) same, List.append_nil]
          exact committed
  · intro other
    by_cases same : other = key
    · subst same
      rw [sessions_cross_self]
      exact guarded.cross change
    · rw [sessions_cross_of_ne same]
      exact consistent.guarded other

/-- A session that changes without a commit. -/
theorem update
    (consistent : Consistent Admissible store)
    {key : κ}
    {session : Session ρ}
    (admissible : Admissible (store.committed ++ session.pending))
    (guarded : session.IsGuarded)
    (free : session.holdsLock = true → store.holder = none ∨ store.holder = some key) :
    Consistent Admissible (store.update key session) where
  committed := consistent.committed
  visible := by
    intro other
    by_cases same : other = key
    · subst same
      rw [Store.visible, sessions_update_self]
      exact admissible
    · rw [Store.visible, sessions_update_of_ne same]
      exact consistent.visible other
  guarded := by
    intro other
    by_cases same : other = key
    · subst same
      rwa [sessions_update_self]
    · rw [sessions_update_of_ne same]
      exact consistent.guarded other
  held := consistent.held_update free

theorem lock
    (consistent : Consistent Admissible store)
    {key : κ}
    {locked : Store κ ρ}
    (locks : store.lock? key = some locked) :
    Consistent Admissible locked := by
  unfold Store.lock? at locks
  split at locks
  · next free =>
      obtain rfl := Option.some.inj locks
      apply consistent.update
      · rw [Session.pending_lock]
        exact consistent.visible key
      · exact (consistent.guarded key).lock
      · exact fun _ => free
  · simp at locks

theorem append
    (consistent : Consistent Admissible store)
    {key : κ}
    (holds : (store.sessions key).holdsLock = true)
    {row : ρ}
    (admissible : Admissible (store.visible key ++ [row])) :
    Consistent Admissible (store.append key row) := by
  apply consistent.update
  · rw [Store.visible, List.append_assoc] at admissible
    exact admissible
  · exact (consistent.guarded key).append holds row
  · exact fun _ => .inr (consistent.held key holds)

end Consistent
end Store
end GuardedLog
end Foundation
