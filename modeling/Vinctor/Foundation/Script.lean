import Mathlib.Data.List.Basic

/-!
# Scripts over one connection

Code that runs statements over a connection to a database.  Every statement may
fail, and a failing statement may make the engine give up the transaction.  Next
to the database there is memory that no transaction rolls back.

`Establishes` is the rule for code inside of an open transaction, `Commits` the rule
for code that starts without one, and `Writes` has both.  They say nothing about the contents
left behind by an exception: `Commits` says that nothing was committed then.
-/

namespace Foundation

/-- How a statement fails. -/
inductive Fault
  | fails
  | aborts
  deriving DecidableEq, Repr

/-- A connection: the committed contents, those of the open transaction, the memory
beside them, and the faults of the statements to come. -/
structure Session (δ μ : Type) where
  committed : δ
  working : Option δ
  memory : μ
  faults : List (Option Fault)

/-- A script keeps its changes when it raises. -/
abbrev Script (δ μ ε : Type) := ExceptT ε (StateM (Session δ μ))

namespace Script

variable {δ μ ε α β : Type}

/-- Run a script. -/
def exec (script : Script δ μ ε α) (session : Session δ μ) : Except ε α × Session δ μ :=
  script session

/-! ## Statements -/

/-- Take the fault of the next statement. -/
def nextFault (session : Session δ μ) : Option Fault × Session δ μ :=
  match session.faults with
  | [] => (none, session)
  | fault :: rest => (fault, { session with faults := rest })

/-- What a statement of the connection reads. -/
def view (session : Session δ μ) : δ := session.working.getD session.committed

/-- A query. -/
def query (failure : ε) (read : δ → α) : Script δ μ ε α := fun session =>
  match nextFault session with
  | (none, next) => (.ok (read (view next)), next)
  | (some .fails, next) => (.error failure, next)
  | (some .aborts, next) => (.error failure, { next with working := none })

/-- A change in the open transaction. -/
def statement (failure : ε) (change : δ → Except ε (α × δ)) : Script δ μ ε α := fun session =>
  match nextFault session, session.working with
  | (none, next), some contents =>
      match change contents with
      | .ok (result, changed) => (.ok result, { next with working := some changed })
      | .error error => (.error error, next)
  | (some .aborts, next), _ => (.error failure, { next with working := none })
  | (_, next), _ => (.error failure, next)

/-- A check that touches nothing. -/
def check (result : Except ε α) : Script δ μ ε α := fun session => (result, session)

/-- A script that runs with another memory, which is put back on every exit. -/
def withMemory (change : μ → μ) (script : Script δ μ ε α) : Script δ μ ε α := fun session =>
  let (result, after) := script.exec { session with memory := change session.memory }
  (result, { after with memory := session.memory })

def memory : Script δ μ ε μ := fun session => (.ok session.memory, session)

def inTransaction : Script δ μ ε Bool := fun session => (.ok session.working.isSome, session)

/-! ## Transactions -/

/-- Open a transaction as a writer.  It fails inside of another one. -/
def beginImmediate (failure : ε) : Script δ μ ε Unit := fun session =>
  match nextFault session, session.working with
  | (none, next), none => (.ok (), { next with working := some session.committed })
  | (_, next), _ => (.error failure, next)

/-- Commit.  A commit that fails leaves the transaction open. -/
def commit (failure : ε) : Script δ μ ε Unit := fun session =>
  match nextFault session with
  | (none, next) =>
      (.ok (), { next with committed := view next, working := none })
  | (some .fails, next) => (.error failure, next)
  | (some .aborts, next) => (.error failure, { next with working := none })

/-- A script and the commit of its transaction.  Whatever raises, the commit included,
the transaction is rolled back. -/
def guarded (failure : ε) (script : Script δ μ ε α) : Script δ μ ε α := fun session =>
  match (script >>= fun result => commit failure >>= fun _ => pure result).exec session with
  | (.ok result, after) => (.ok result, after)
  | (.error error, after) => (.error error, { after with working := none })

def transaction (failure : ε) (script : Script δ μ ε α) : Script δ μ ε α := do
  beginImmediate failure
  guarded failure script

/-- A transaction, unless one is open already: then its owner commits. -/
def writeScope (failure : ε) (script : Script δ μ ε α) : Script δ μ ε α := fun session =>
  if session.working.isSome then script.exec session
  else (transaction failure script).exec session

/-! ## Rules inside of a transaction -/

/-- Run in an open transaction with some memory, a script commits nothing, keeps
the memory and, where it returns, relates the contents of the transaction. -/
structure Establishes
    (memory : μ)
    (script : Script δ μ ε α)
    (post : α → δ → δ → Prop) : Prop where
  holds : ∀ session contents, session.working = some contents → session.memory = memory →
    (script.exec session).2.committed = session.committed ∧
    (script.exec session).2.memory = memory ∧
    ∀ result, (script.exec session).1 = .ok result →
      ∃ changed, (script.exec session).2.working = some changed ∧ post result contents changed

theorem exec_bind
    (script : Script δ μ ε α)
    (continuation : α → Script δ μ ε β)
    (session : Session δ μ) :
    (script >>= continuation).exec session =
      match script.exec session with
      | (.ok result, after) => (continuation result).exec after
      | (.error error, after) => (.error error, after) := by
  change (ExceptT.bind script continuation) session = _
  simp only [ExceptT.bind, ExceptT.mk, bind, StateT.bind, exec]
  rcases script session with ⟨result, after⟩
  cases result <;> rfl

theorem exec_map
    (change : α → β)
    (script : Script δ μ ε α)
    (session : Session δ μ) :
    (change <$> script).exec session =
      match script.exec session with
      | (.ok result, after) => (.ok (change result), after)
      | (.error error, after) => (.error error, after) := by
  change (ExceptT.map change script) session = _
  simp only [ExceptT.map, ExceptT.mk, bind, StateT.bind, exec]
  rcases script session with ⟨result, after⟩
  cases result <;> rfl

theorem exec_map_snd
    (change : α → β)
    (script : Script δ μ ε α)
    (session : Session δ μ) :
    ((change <$> script).exec session).2 = (script.exec session).2 := by
  rw [exec_map]
  rcases script.exec session with ⟨result, after⟩
  cases result <;> rfl

section Establishes

variable {inner : μ} {script : Script δ μ ε α} {post : α → δ → δ → Prop}

theorem Establishes.weaken
    (establishes : Establishes inner script post)
    {weaker : α → δ → δ → Prop}
    (implies : ∀ result before after, post result before after → weaker result before after) :
    Establishes inner script weaker where
  holds := by
    intro session contents isOpen isMemory
    obtain ⟨committed, kept, returns⟩ := establishes.holds session contents isOpen isMemory
    refine ⟨committed, kept, ?_⟩
    intro result isResult
    obtain ⟨changed, isChanged, related⟩ := returns result isResult
    exact ⟨changed, isChanged, implies _ _ _ related⟩

theorem Establishes.bind
    {continuation : α → Script δ μ ε β}
    {next : α → β → δ → δ → Prop}
    (first : Establishes inner script post)
    (second : ∀ result, Establishes inner (continuation result) (next result)) :
    Establishes inner (script >>= continuation) fun result before after =>
      ∃ value between, post value before between ∧ next value result between after where
  holds := by
    intro session contents isOpen isMemory
    obtain ⟨committed, kept, returns⟩ := first.holds session contents isOpen isMemory
    rw [exec_bind]
    rcases ran : script.exec session with ⟨outcome, after⟩
    rw [ran] at committed kept returns
    cases outcome with
    | error error => exact ⟨committed, kept, fun result isResult => by cases isResult⟩
    | ok value =>
        obtain ⟨between, isBetween, related⟩ := returns value rfl
        obtain ⟨committed', kept', returns'⟩ :=
          (second value).holds after between isBetween kept
        refine ⟨committed'.trans committed, kept', ?_⟩
        intro result isResult
        obtain ⟨changed, isChanged, related'⟩ := returns' result isResult
        exact ⟨changed, isChanged, value, between, related, related'⟩

theorem establishes_pure (value : α) :
    Establishes inner (pure value : Script δ μ ε α) fun result before after =>
      result = value ∧ after = before where
  holds := by
    intro session contents isOpen isMemory
    refine ⟨rfl, isMemory, ?_⟩
    intro result isResult
    cases isResult
    exact ⟨contents, isOpen, rfl, rfl⟩

theorem establishes_check (outcome : Except ε α) :
    Establishes inner (check outcome : Script δ μ ε α) fun result before after =>
      outcome = .ok result ∧ after = before where
  holds := by
    intro session contents isOpen isMemory
    exact ⟨rfl, isMemory, fun result isResult => ⟨contents, isOpen, isResult, rfl⟩⟩

theorem establishes_check_bind
    (outcome : Except ε α)
    {continuation : α → Script δ μ ε β}
    {next : β → δ → δ → Prop}
    (continues : ∀ result, Establishes inner (continuation result) next) :
    Establishes inner (check outcome >>= continuation) next := by
  refine ((establishes_check outcome).bind continues).weaken ?_
  rintro result before after ⟨_, _, ⟨-, rfl⟩, related⟩
  exact related

/-- A script that asks for the memory goes on with the memory it runs in. -/
theorem establishes_memory_bind
    {continuation : μ → Script δ μ ε β}
    {next : β → δ → δ → Prop}
    (continues : Establishes inner (continuation inner) next) :
    Establishes inner (memory >>= continuation) next where
  holds := by
    intro session contents isOpen isMemory
    have continued : (memory >>= continuation).exec session = (continuation inner).exec session := by
      rw [exec_bind, ← isMemory]
      rfl
    rw [continued]
    exact continues.holds session contents isOpen isMemory

theorem establishes_inTransaction_bind
    {continuation : Bool → Script δ μ ε β}
    {next : β → δ → δ → Prop}
    (continues : Establishes inner (continuation true) next) :
    Establishes inner (inTransaction >>= continuation) next where
  holds := by
    intro session contents isOpen isMemory
    have continued : (inTransaction >>= continuation).exec session =
        (continuation true).exec session := by
      rw [exec_bind]
      simp only [exec, inTransaction, isOpen]
      rfl
    rw [continued]
    exact continues.holds session contents isOpen isMemory

theorem nextFault_keeps (session : Session δ μ) :
    (nextFault session).2.committed = session.committed ∧
      (nextFault session).2.working = session.working ∧
      (nextFault session).2.memory = session.memory := by
  unfold nextFault
  split <;> exact ⟨rfl, rfl, rfl⟩

theorem establishes_query (failure : ε) (read : δ → α) :
    Establishes inner (query failure read : Script δ μ ε α) fun result before after =>
      result = read before ∧ after = before where
  holds := by
    intro session contents isOpen isMemory
    obtain ⟨committed, working, kept⟩ := nextFault_keeps session
    simp only [exec, query]
    generalize nextFault session = taken at committed working kept ⊢
    obtain ⟨fault, next⟩ := taken
    cases fault with
    | some fault =>
        cases fault <;> exact ⟨committed, kept.trans isMemory, fun _ isResult => by cases isResult⟩
    | none =>
        refine ⟨committed, kept.trans isMemory, ?_⟩
        intro result isResult
        cases isResult
        refine ⟨contents, working.trans isOpen, ?_, rfl⟩
        rw [view, working, isOpen]
        rfl

/-- A query followed by a script for each of its answers. -/
theorem establishes_query_bind
    (next : α → β → δ → δ → Prop)
    (failure : ε)
    (read : δ → α)
    {continuation : α → Script δ μ ε β}
    (continues : ∀ answer, Establishes inner (continuation answer) (next answer)) :
    Establishes inner (query failure read >>= continuation) fun result before after =>
      next (read before) result before after := by
  refine ((establishes_query failure read).bind continues).weaken ?_
  rintro result before after ⟨_, _, ⟨rfl, rfl⟩, related⟩
  exact related

theorem establishes_statement (failure : ε) (change : δ → Except ε (α × δ)) :
    Establishes inner (statement failure change : Script δ μ ε α) fun result before after =>
      change before = .ok (result, after) where
  holds := by
    intro session contents isOpen isMemory
    obtain ⟨committed, working, kept⟩ := nextFault_keeps session
    simp only [exec, statement, isOpen]
    generalize nextFault session = taken at committed working kept ⊢
    obtain ⟨fault, next⟩ := taken
    cases fault with
    | some fault =>
        cases fault <;> exact ⟨committed, kept.trans isMemory, fun _ isResult => by cases isResult⟩
    | none =>
        dsimp only
        cases changes : change contents with
        | error error => exact ⟨committed, kept.trans isMemory, fun _ isResult => by cases isResult⟩
        | ok outcome =>
            refine ⟨committed, kept.trans isMemory, ?_⟩
            intro result isResult
            cases isResult
            exact ⟨outcome.2, rfl, rfl⟩

/-- A write inside of a transaction joins it. -/
theorem Establishes.joins
    (establishes : Establishes inner script post)
    (failure : ε) :
    Establishes inner (writeScope failure script) post where
  holds := by
    intro session contents isOpen isMemory
    have joined : (writeScope failure script).exec session = script.exec session := by
      simp only [exec, Script.writeScope, isOpen, Option.isSome_some, if_true]
    rw [joined]
    exact establishes.holds session contents isOpen isMemory

theorem Establishes.within
    {outer : μ}
    {change : μ → μ}
    (establishes : Establishes (change outer) script post) :
    Establishes outer (withMemory change script) post where
  holds := by
    intro session contents isOpen isMemory
    have inside := establishes.holds { session with memory := change session.memory } contents
      isOpen (congrArg change isMemory)
    obtain ⟨committed, -, returns⟩ := inside
    exact ⟨committed, isMemory, returns⟩

/-- A loop relates by what each of its steps relates. -/
theorem Establishes.forM
    {relates : δ → δ → Prop}
    (reflexive : ∀ contents, relates contents contents)
    (transitive : ∀ {first second third}, relates first second → relates second third →
      relates first third)
    {body : α → Script δ μ ε PUnit}
    {list : List α}
    (steps : ∀ element ∈ list, Establishes inner (body element) fun _ => relates) :
    Establishes inner (list.forM body) fun _ => relates := by
  induction list with
  | nil =>
      change Establishes inner (pure PUnit.unit) _
      exact (establishes_pure _).weaken fun _ before after same => same.2 ▸ reflexive before
  | cons element rest inductionHypothesis =>
      change Establishes inner (body element >>= fun _ => rest.forM body) _
      have first := steps element List.mem_cons_self
      have others := inductionHypothesis fun other present =>
        steps other (List.mem_cons_of_mem element present)
      refine (first.bind fun _ => others).weaken ?_
      rintro _ before after ⟨_, between, earlier, later⟩
      exact transitive earlier later

/-- As `forM`, for a loop that collects results. -/
theorem Establishes.mapM
    {relates : δ → δ → Prop}
    (reflexive : ∀ contents, relates contents contents)
    (transitive : ∀ {first second third}, relates first second → relates second third →
      relates first third)
    {body : α → Script δ μ ε β}
    {list : List α}
    (steps : ∀ element ∈ list, Establishes inner (body element) fun _ => relates) :
    Establishes inner (list.mapM body) fun _ => relates := by
  induction list with
  | nil =>
      rw [List.mapM_nil]
      exact (establishes_pure _).weaken fun _ before after same => same.2 ▸ reflexive before
  | cons element rest inductionHypothesis =>
      rw [List.mapM_cons]
      have first := steps element List.mem_cons_self
      have others := inductionHypothesis fun other present =>
        steps other (List.mem_cons_of_mem element present)
      refine (first.bind fun _ => others.bind fun _ => establishes_pure _).weaken ?_
      rintro _ before after ⟨_, between, earlier, _, last, later, -, rfl⟩
      exact transitive earlier later

end Establishes

/-! ## Rules outside of a transaction -/

/-- Run without an open transaction, a script leaves none, keeps the memory, commits
nothing where it raises, and relates the committed contents where it returns. -/
structure Commits
    (memory : μ)
    (script : Script δ μ ε α)
    (post : α → δ → δ → Prop) : Prop where
  holds : ∀ session, session.working = none → session.memory = memory →
    (script.exec session).2.working = none ∧
    (script.exec session).2.memory = memory ∧
    (∀ error, (script.exec session).1 = .error error →
      (script.exec session).2.committed = session.committed) ∧
    ∀ result, (script.exec session).1 = .ok result →
      post result session.committed (script.exec session).2.committed

section Commits

variable {inner : μ} {script : Script δ μ ε α} {post : α → δ → δ → Prop}

theorem Commits.weaken
    (commits : Commits inner script post)
    {weaker : α → δ → δ → Prop}
    (implies : ∀ result before after, post result before after → weaker result before after) :
    Commits inner script weaker where
  holds := by
    intro session isIdle isMemory
    obtain ⟨idle, kept, raises, returns⟩ := commits.holds session isIdle isMemory
    exact ⟨idle, kept, raises, fun result isResult => implies _ _ _ (returns result isResult)⟩

theorem Commits.map
    (commits : Commits inner script fun _ => relates)
    (change : α → β) :
    Commits inner (change <$> script) fun _ => relates where
  holds := by
    intro session isIdle isMemory
    obtain ⟨idle, kept, raises, returns⟩ := commits.holds session isIdle isMemory
    rw [exec_map]
    generalize script.exec session = ran at idle kept raises returns ⊢
    obtain ⟨outcome, after⟩ := ran
    cases outcome with
    | error error => exact ⟨idle, kept, fun _ _ => raises error rfl, nofun⟩
    | ok value => exact ⟨idle, kept, nofun, fun _ _ => returns value rfl⟩

theorem commits_check (outcome : Except ε α) :
    Commits inner (check outcome : Script δ μ ε α) fun result before after =>
      outcome = .ok result ∧ after = before where
  holds := fun _ isIdle isMemory =>
    ⟨isIdle, isMemory, fun _ _ => rfl, fun _ isResult => ⟨isResult, rfl⟩⟩

theorem commits_pure (value : α) :
    Commits inner (pure value : Script δ μ ε α) fun result before after =>
      result = value ∧ after = before where
  holds := by
    intro session isIdle isMemory
    refine ⟨isIdle, isMemory, fun _ _ => rfl, ?_⟩
    intro result isResult
    cases isResult
    exact ⟨rfl, rfl⟩

theorem commits_query (failure : ε) (read : δ → α) :
    Commits inner (query failure read : Script δ μ ε α) fun result before after =>
      result = read before ∧ after = before where
  holds := by
    intro session isIdle isMemory
    obtain ⟨committed, working, kept⟩ := nextFault_keeps session
    simp only [exec, query]
    generalize nextFault session = taken at committed working kept ⊢
    obtain ⟨fault, next⟩ := taken
    cases fault with
    | some fault =>
        cases fault with
        | fails =>
            exact ⟨working.trans isIdle, kept.trans isMemory, fun _ _ => committed,
              fun _ isResult => by cases isResult⟩
        | aborts =>
            exact ⟨rfl, kept.trans isMemory, fun _ _ => committed,
              fun _ isResult => by cases isResult⟩
    | none =>
        refine ⟨working.trans isIdle, kept.trans isMemory, fun _ _ => committed, ?_⟩
        intro result isResult
        cases isResult
        refine ⟨?_, committed⟩
        rw [view, working, isIdle]
        exact congrArg read committed

theorem commits_inTransaction_bind
    {continuation : Bool → Script δ μ ε β}
    {next : β → δ → δ → Prop}
    (continues : Commits inner (continuation false) next) :
    Commits inner (inTransaction >>= continuation) next where
  holds := by
    intro session isIdle isMemory
    have continued : (inTransaction >>= continuation).exec session =
        (continuation false).exec session := by
      rw [exec_bind]
      simp only [exec, inTransaction, isIdle]
      rfl
    rw [continued]
    exact continues.holds session isIdle isMemory

/-- A script whose first part commits nothing. -/
theorem Commits.bind
    {continuation : α → Script δ μ ε β}
    {next : α → β → δ → δ → Prop}
    {related : α → δ → Prop}
    (first : Commits inner script fun result before after =>
      related result before ∧ after = before)
    (second : ∀ result, Commits inner (continuation result) (next result)) :
    Commits inner (script >>= continuation) fun result before after =>
      ∃ value, related value before ∧ next value result before after where
  holds := by
    intro session isIdle isMemory
    obtain ⟨idle, kept, raises, returns⟩ := first.holds session isIdle isMemory
    rw [exec_bind]
    rcases ran : script.exec session with ⟨outcome, after⟩
    rw [ran] at idle kept raises returns
    cases outcome with
    | error error => exact ⟨idle, kept, fun _ _ => raises error rfl, fun _ isResult => by cases isResult⟩
    | ok value =>
        obtain ⟨isRelated, same⟩ := returns value rfl
        obtain ⟨idle', kept', raises', returns'⟩ := (second value).holds after idle kept
        refine ⟨idle', kept', fun error isError => (raises' error isError).trans same, ?_⟩
        intro result isResult
        have relates := returns' result isResult
        rw [same] at relates
        exact ⟨value, isRelated, relates⟩

theorem Establishes.guarded
    (establishes : Establishes inner script post)
    (failure : ε)
    (session : Session δ μ)
    {contents : δ}
    (isOpen : session.working = some contents)
    (isMemory : session.memory = inner) :
    ((Script.guarded failure script).exec session).2.working = none ∧
    ((Script.guarded failure script).exec session).2.memory = inner ∧
    (∀ error, ((Script.guarded failure script).exec session).1 = .error error →
      ((Script.guarded failure script).exec session).2.committed = session.committed) ∧
    ∀ result, ((Script.guarded failure script).exec session).1 = .ok result →
      post result contents ((Script.guarded failure script).exec session).2.committed := by
  obtain ⟨committed, kept, returns⟩ := establishes.holds session contents isOpen isMemory
  have guards : (Script.guarded failure script).exec session =
      match (script >>= fun result => commit failure >>= fun _ => pure result).exec session with
      | (.ok result, after) => (.ok result, after)
      | (.error error, after) => (.error error, { after with working := none }) := rfl
  rw [guards, exec_bind]
  generalize script.exec session = ran at committed kept returns ⊢
  obtain ⟨outcome, after⟩ := ran
  cases outcome with
  | error error => exact ⟨rfl, kept, fun _ _ => committed, fun _ isResult => by cases isResult⟩
  | ok value =>
      obtain ⟨changed, isChanged, related⟩ := returns value rfl
      obtain ⟨nextCommitted, nextWorking, nextKept⟩ := nextFault_keeps after
      dsimp only
      rw [exec_bind]
      have commits : (commit failure).exec after =
          match nextFault after with
          | (none, next) => (.ok (), { next with committed := view next, working := none })
          | (some .fails, next) => (.error failure, next)
          | (some .aborts, next) => (.error failure, { next with working := none }) := rfl
      rw [commits]
      generalize nextFault after = taken at nextCommitted nextWorking nextKept ⊢
      obtain ⟨fault, next⟩ := taken
      cases fault with
      | some fault =>
          cases fault <;>
            exact ⟨rfl, nextKept.trans kept, fun _ _ => nextCommitted.trans committed,
              fun _ isResult => by cases isResult⟩
      | none =>
          have seen : view next = changed := by
            rw [view, nextWorking, isChanged]
            rfl
          refine ⟨rfl, nextKept.trans kept, nofun, ?_⟩
          intro result isResult
          cases isResult
          change post value contents (view next)
          rw [seen]
          exact related

/-- A check followed by a script. -/
theorem commits_check_bind
    (outcome : Except ε α)
    {continuation : α → Script δ μ ε β}
    {next : β → δ → δ → Prop}
    (continues : ∀ result, Commits inner (continuation result) next) :
    Commits inner (check outcome >>= continuation) next := by
  refine ((commits_check outcome).bind continues).weaken ?_
  rintro result before after ⟨_, -, related⟩
  exact related

theorem commits_query_bind
    (next : α → β → δ → δ → Prop)
    (failure : ε)
    (read : δ → α)
    {continuation : α → Script δ μ ε β}
    (continues : ∀ answer, Commits inner (continuation answer) (next answer)) :
    Commits inner (query failure read >>= continuation) fun result before after =>
      next (read before) result before after := by
  refine ((commits_query failure read).bind continues).weaken ?_
  rintro result before after ⟨_, rfl, related⟩
  exact related

/-- A transaction commits what its script established, or nothing. -/
theorem Establishes.commits
    (establishes : Establishes inner script post)
    (failure : ε) :
    Commits inner (transaction failure script) post where
  holds := by
    intro session isIdle isMemory
    obtain ⟨committed, working, kept⟩ := nextFault_keeps session
    have begins : (beginImmediate failure).exec session =
        match nextFault session with
        | (none, next) => (.ok (), { next with working := some session.committed })
        | (some _, next) => (.error failure, next) := by
      simp only [exec, beginImmediate, isIdle]
      rcases nextFault session with ⟨fault, next⟩
      cases fault <;> rfl
    rw [transaction, exec_bind, begins]
    generalize nextFault session = taken at committed working kept ⊢
    obtain ⟨fault, next⟩ := taken
    cases fault with
    | some fault =>
        exact ⟨working.trans isIdle, kept.trans isMemory, fun _ _ => committed,
          fun _ isResult => by cases isResult⟩
    | none =>
        obtain ⟨idle, memory, raises, returns⟩ := establishes.guarded failure
          { next with working := some session.committed } rfl (kept.trans isMemory)
        exact ⟨idle, memory, fun error isError => (raises error isError).trans committed, returns⟩

/-- A write of its own. -/
theorem Establishes.commits_scope
    (establishes : Establishes inner script post)
    (failure : ε) :
    Commits inner (writeScope failure script) post where
  holds := by
    intro session isIdle isMemory
    have owned : (writeScope failure script).exec session =
        (transaction failure script).exec session := by
      simp [exec, Script.writeScope, isIdle]
    rw [owned]
    exact (establishes.commits failure).holds session isIdle isMemory

theorem Commits.map_result
    (commits : Commits inner script post)
    (change : α → β) :
    Commits inner (change <$> script) fun result before after =>
      ∃ value, result = change value ∧ post value before after where
  holds := by
    intro session isIdle isMemory
    obtain ⟨idle, kept, raises, returns⟩ := commits.holds session isIdle isMemory
    rw [exec_map]
    generalize script.exec session = ran at idle kept raises returns ⊢
    obtain ⟨outcome, after⟩ := ran
    cases outcome with
    | error error => exact ⟨idle, kept, fun _ _ => raises error rfl, nofun⟩
    | ok value =>
        refine ⟨idle, kept, nofun, ?_⟩
        intro result isResult
        cases isResult
        exact ⟨value, rfl, returns value rfl⟩

end Commits

/-! ## Rules for both -/

/-- A script that relates contents alike where it joins a transaction and on its own. -/
structure Writes
    (memory : μ)
    (script : Script δ μ ε α)
    (post : α → δ → δ → Prop) : Prop where
  joined : Establishes memory script post
  alone : Commits memory script post

section Writes

variable {inner : μ} {script : Script δ μ ε α} {post : α → δ → δ → Prop}

theorem Establishes.writes
    (establishes : Establishes inner script post)
    (failure : ε) :
    Writes inner (writeScope failure script) post where
  joined := establishes.joins failure
  alone := establishes.commits_scope failure

theorem Writes.weaken
    (writes : Writes inner script post)
    {weaker : α → δ → δ → Prop}
    (implies : ∀ result before after, post result before after → weaker result before after) :
    Writes inner script weaker where
  joined := writes.joined.weaken implies
  alone := writes.alone.weaken implies

theorem writes_pure (value : α) :
    Writes inner (pure value : Script δ μ ε α) fun result before after =>
      result = value ∧ after = before where
  joined := establishes_pure value
  alone := commits_pure value

theorem writes_check_bind
    (next : α → β → δ → δ → Prop)
    (outcome : Except ε α)
    {continuation : α → Script δ μ ε β}
    (continues : ∀ result, Writes inner (continuation result) (next result)) :
    Writes inner (check outcome >>= continuation) fun result before after =>
      ∃ value, outcome = .ok value ∧ next value result before after where
  joined := by
    refine ((establishes_check outcome).bind fun result => (continues result).joined).weaken ?_
    rintro result before after ⟨value, _, ⟨isValue, rfl⟩, related⟩
    exact ⟨value, isValue, related⟩
  alone := (commits_check outcome).bind fun result => (continues result).alone

theorem writes_query_bind
    (next : α → β → δ → δ → Prop)
    (failure : ε)
    (read : δ → α)
    {continuation : α → Script δ μ ε β}
    (continues : ∀ answer, Writes inner (continuation answer) (next answer)) :
    Writes inner (query failure read >>= continuation) fun result before after =>
      next (read before) result before after where
  joined := establishes_query_bind next failure read fun answer => (continues answer).joined
  alone := commits_query_bind next failure read fun answer => (continues answer).alone

/-- A script whose answer is made into another one. -/
theorem Writes.bind_pure
    (writes : Writes inner script post)
    (change : α → β) :
    Writes inner (script >>= fun value => pure (change value)) fun result before after =>
      ∃ value, result = change value ∧ post value before after where
  joined := by
    refine (writes.joined.bind fun value => establishes_pure (change value)).weaken ?_
    rintro result before after ⟨value, _, related, rfl, rfl⟩
    exact ⟨value, rfl, related⟩
  alone := by
    have mapped := writes.alone.map_result change
    rwa [map_eq_pure_bind] at mapped

end Writes

/-! ## Runs without faults -/

/-- In an open transaction, and with no fault to come, a script returns a result and
leaves contents. -/
def Returns
    (memory : μ)
    (script : Script δ μ ε α)
    (result : α)
    (before after : δ) : Prop :=
  ∀ committed, script.exec ⟨committed, some before, memory, []⟩ =
    (.ok result, ⟨committed, some after, memory, []⟩)

section Returns

variable {inner : μ} {script : Script δ μ ε α} {result : α} {before between after : δ}

theorem Returns.bind
    {continuation : α → Script δ μ ε β}
    {value : β}
    (first : Returns inner script result before between)
    (second : Returns inner (continuation result) value between after) :
    Returns inner (script >>= continuation) value before after := by
  intro committed
  rw [exec_bind, first committed]
  exact second committed

theorem returns_query (failure : ε) (read : δ → α) :
    Returns inner (query failure read : Script δ μ ε α) (read before) before before :=
  fun _ => rfl

theorem returns_statement
    (failure : ε)
    {change : δ → Except ε (α × δ)}
    (changes : change before = .ok (result, after)) :
    Returns inner (statement failure change : Script δ μ ε α) result before after := by
  intro committed
  simp only [exec, statement, nextFault, changes]

theorem returns_memory_bind
    {continuation : μ → Script δ μ ε α}
    (continues : Returns inner (continuation inner) result before after) :
    Returns inner (memory >>= continuation) result before after := by
  intro committed
  rw [exec_bind]
  exact continues committed

theorem Returns.joins
    (returns : Returns inner script result before after)
    (failure : ε) :
    Returns inner (writeScope failure script) result before after :=
  fun committed => returns committed

/-- A write of its own commits. -/
theorem Returns.exec_writeScope
    (returns : Returns inner script result before after)
    (failure : ε) :
    (writeScope failure script).exec ⟨before, none, inner, []⟩ =
      (.ok result, ⟨after, none, inner, []⟩) := by
  have opened : (writeScope failure script).exec ⟨before, none, inner, []⟩ =
      (guarded failure script).exec ⟨before, some before, inner, []⟩ := rfl
  have guards : (guarded failure script).exec ⟨before, some before, inner, []⟩ =
      match (script >>= fun result => commit failure >>= fun _ => pure result).exec
        ⟨before, some before, inner, []⟩ with
      | (.ok result, after) => (.ok result, after)
      | (.error error, after) => (.error error, { after with working := none }) := rfl
  rw [opened, guards, exec_bind, returns before]
  rfl

end Returns

end Script
end Foundation
