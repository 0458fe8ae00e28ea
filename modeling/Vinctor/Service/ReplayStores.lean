import Mathlib.Algebra.Order.Group.Unbundled.Int
import Mathlib.Data.List.Induction
import Vinctor.Foundation.Fallible
import Vinctor.Service.Pop

/-!
# Replay stores are interchangeable

The replay memory of a process, of a SQLite database and of a Postgres database serve
the same calls.  The databases bind values: SQLite and a column of the server take
integers of 64 bits, and the server takes no text with a NUL character.  On values that
both can bind the three stores give the same verdicts and hold the same entries, within
the caps, and never drop an entry inside the window.
-/

namespace Vinctor
namespace Pop

open Foundation
open Fallible

/-! ## Calls -/

/-- Arguments of one `check_and_record`. -/
structure ReplayCall where
  tokenId : String
  nonce : String
  ts : Int
  nowUnix : Int
  skew : Int
  deriving DecidableEq, Repr

def ReplayCall.cutoff (call : ReplayCall) : Int := call.nowUnix - call.skew

def ReplayCall.row (call : ReplayCall) : ReplayRow := ⟨call.tokenId, call.nonce, call.ts⟩

/-- Errors of a call: an integer that cannot be bound, or a value that a column does
not take. -/
inductive ReplayError
  | overflow
  | data
  deriving DecidableEq, Repr

structure ReplayCaps where
  maxEntries : Int
  maxPerToken : Int
  deriving DecidableEq, Repr

/-- Integers of 64 bits. -/
def FitsInteger (value : Int) : Prop := -9223372036854775808 ≤ value ∧ value ≤ 9223372036854775807

instance (value : Int) : Decidable (FitsInteger value) :=
  inferInstanceAs (Decidable (_ ∧ _))

def FitsText (text : String) : Prop := '\x00' ∉ text.toList

instance (text : String) : Decidable (FitsText text) :=
  inferInstanceAs (Decidable (_ ∉ _))

def PopReplayCache.call (cache : PopReplayCache) (call : ReplayCall) :
    Except ReplayError (Bool × PopReplayCache) :=
  .ok (cache.checkAndRecord call.tokenId call.nonce call.ts call.nowUnix call.skew)

/-- The cutoff is bound by the purge, and the timestamp by the insertion, which only an
accepted call reaches. -/
def SqliteReplayStore.call (store : SqliteReplayStore) (call : ReplayCall) :
    Except ReplayError (Bool × SqliteReplayStore) := do
  ensure (FitsInteger call.cutoff) .overflow
  let outcome := store.checkAndRecord call.tokenId call.nonce call.ts call.nowUnix call.skew
  ensure (outcome.1 = true → FitsInteger call.ts) .overflow
  return outcome

/-- Replay memory of a Postgres database. -/
structure PostgresReplayStore where
  rows : List ReplayRow
  maxEntries : Int
  maxPerToken : Int

/-- `INSERT … ON CONFLICT DO NOTHING`. -/
def insertNonce (rows : List ReplayRow) (row : ReplayRow) : Bool × List ReplayRow :=
  if rows.any fun other => other.tokenId == row.tokenId && other.nonce == row.nonce then
    (false, rows)
  else (true, rows ++ [row])

def PostgresReplayStore.checkAndRecord
    (store : PostgresReplayStore)
    (call : ReplayCall) : Bool × PostgresReplayStore :=
  let rows := store.rows.filter fun row => !decide (row.ts < call.cutoff)
  let purged := { store with rows }
  if rows.any fun row => row.tokenId == call.tokenId && row.nonce == call.nonce then
    (false, purged)
  else if store.maxPerToken ≤ (rows.countP fun row => row.tokenId == call.tokenId) then
    (false, purged)
  else if store.maxEntries ≤ rows.length then (false, purged)
  else
    let inserted := insertNonce rows call.row
    (inserted.1, { store with rows := inserted.2 })

/-- Parameters of any size are compared as numbers, but the column holds 64 bits. -/
def PostgresReplayStore.call (store : PostgresReplayStore) (call : ReplayCall) :
    Except ReplayError (Bool × PostgresReplayStore) := do
  ensure (FitsText call.tokenId ∧ FitsText call.nonce) .data
  let outcome := store.checkAndRecord call
  ensure (outcome.1 = true → FitsInteger call.ts) .data
  return outcome

/-! ## Runs -/

/-- Serve a call.  A call that raises is rolled back. -/
def serve
    (step : σ → ReplayCall → Except ReplayError (Bool × σ))
    (store : σ)
    (call : ReplayCall) : Except ReplayError Bool × σ :=
  match step store call with
  | .ok (verdict, after) => (.ok verdict, after)
  | .error error => (.error error, store)

/-- The verdicts of a run of calls, and the store after it. -/
def serveAll
    (step : σ → ReplayCall → Except ReplayError (Bool × σ))
    (store : σ)
    (calls : List ReplayCall) : List (Except ReplayError Bool) × σ :=
  calls.foldl (fun state call =>
    let served := serve step state.2 call
    (state.1 ++ [served.1], served.2)) ([], store)

theorem serveAll_snoc
    (step : σ → ReplayCall → Except ReplayError (Bool × σ))
    (store : σ)
    (calls : List ReplayCall)
    (call : ReplayCall) :
    serveAll step store (calls ++ [call]) =
      ((serveAll step store calls).1 ++ [(serve step (serveAll step store calls).2 call).1],
        (serve step (serveAll step store calls).2 call).2) := by
  rw [serveAll, List.foldl_append]
  rfl

/-! ## Steps -/

/-- Entries that a purge keeps. -/
def keptRows (rows : List ReplayRow) (call : ReplayCall) : List ReplayRow :=
  rows.filter fun row => !decide (row.ts < call.cutoff)

/-- A nonce that is known, or a cap that is full. -/
def Refuses (caps : ReplayCaps) (kept : List ReplayRow) (call : ReplayCall) : Prop :=
  (kept.any fun row => row.tokenId == call.tokenId && row.nonce == call.nonce) = true ∨
    caps.maxPerToken ≤ (kept.countP fun row => row.tokenId == call.tokenId) ∨
    caps.maxEntries ≤ kept.length

instance (caps : ReplayCaps) (kept : List ReplayRow) (call : ReplayCall) :
    Decidable (Refuses caps kept call) :=
  inferInstanceAs (Decidable (_ ∨ _ ∨ _))

/-- What every store does with its entries. -/
def recordRows
    (caps : ReplayCaps)
    (rows : List ReplayRow)
    (call : ReplayCall) : Bool × List ReplayRow :=
  if Refuses caps (keptRows rows call) call then (false, keptRows rows call)
  else (true, keptRows rows call ++ [call.row])

/-- Three checks one after the other, with the same outcome. -/
theorem ite_of_checks
    {first second third : Prop}
    [Decidable first]
    [Decidable second]
    [Decidable third]
    (refused accepted : α) :
    (if first then refused else if second then refused else if third then refused else accepted) =
      if first ∨ second ∨ third then refused else accepted := by
  by_cases isFirst : first
  · simp only [isFirst, if_true, true_or]
  · by_cases isSecond : second
    · simp only [isSecond, if_true, true_or, or_true, ite_self]
    · simp only [isFirst, isSecond, if_false, false_or]

/-- Entries within the caps.  A cap below zero lets no entry in. -/
structure WithinCaps (caps : ReplayCaps) (rows : List ReplayRow) : Prop where
  perToken : ∀ tokenId, ((rows.countP fun row => row.tokenId == tokenId : Nat) : Int) ≤
    max caps.maxPerToken 0
  total : (rows.length : Int) ≤ max caps.maxEntries 0

theorem withinCaps_nil (caps : ReplayCaps) : WithinCaps caps [] where
  perToken _ := le_max_right _ _
  total := le_max_right _ _

theorem WithinCaps.sublist
    {caps : ReplayCaps}
    {kept rows : List ReplayRow}
    (within : WithinCaps caps rows)
    (isSublist : kept.Sublist rows) :
    WithinCaps caps kept where
  perToken tokenId := by
    have fewer : (kept.countP fun row => row.tokenId == tokenId) ≤
        rows.countP fun row => row.tokenId == tokenId := isSublist.countP_le
    have := within.perToken tokenId
    omega
  total := by
    have shorter := isSublist.length_le
    have := within.total
    omega

/-- A new entry has room under both caps. -/
theorem WithinCaps.recordRows
    {caps : ReplayCaps}
    {rows : List ReplayRow}
    (within : WithinCaps caps rows)
    (call : ReplayCall) :
    WithinCaps caps (recordRows caps rows call).2 := by
  have kept : WithinCaps caps (keptRows rows call) := within.sublist List.filter_sublist
  unfold Pop.recordRows
  split
  · exact kept
  · next admitted =>
      simp only [Refuses, not_or, not_le] at admitted
      obtain ⟨-, tokenRoom, room⟩ := admitted
      refine ⟨fun tokenId => ?_, ?_⟩
      · rw [List.countP_append, List.countP_singleton]
        have := kept.perToken tokenId
        split
        · next isToken =>
            obtain rfl : call.tokenId = tokenId := beq_iff_eq.mp isToken
            omega
        · omega
      · rw [List.length_append, List.length_singleton]
        omega

/-- An entry inside the window stays. -/
theorem mem_recordRows
    {row : ReplayRow}
    {rows : List ReplayRow}
    (caps : ReplayCaps)
    {call : ReplayCall}
    (present : row ∈ rows)
    (fresh : call.cutoff ≤ row.ts) :
    row ∈ (recordRows caps rows call).2 := by
  have kept : row ∈ keptRows rows call :=
    List.mem_filter.mpr ⟨present, by simpa using fresh⟩
  unfold recordRows
  split
  · exact kept
  · exact List.mem_append_left _ kept

/-! ## Refinement -/

/-- Values that all stores can bind. -/
structure ReplayCall.Storable (call : ReplayCall) : Prop where
  ts : FitsInteger call.ts
  cutoff : FitsInteger call.cutoff
  tokenId : FitsText call.tokenId
  nonce : FitsText call.nonce

/-- A store does with its rows what is expected, or raises on a value that it cannot
bind. -/
def Records
    (caps : ReplayCaps)
    (capped : σ → Prop)
    (rowsOf : σ → List ReplayRow)
    (step : σ → ReplayCall → Except ReplayError (Bool × σ)) : Prop :=
  ∀ store call, capped store →
    ((∃ error, step store call = .error error) ∧ ¬call.Storable) ∨
      ∃ after, step store call = .ok ((recordRows caps (rowsOf store) call).1, after) ∧
        rowsOf after = (recordRows caps (rowsOf store) call).2 ∧ capped after

def SqliteReplayStore.Capped (caps : ReplayCaps) (store : SqliteReplayStore) : Prop :=
  store.maxEntries = caps.maxEntries ∧ store.maxPerToken = caps.maxPerToken

theorem SqliteReplayStore.checkAndRecord_eq
    {caps : ReplayCaps}
    {store : SqliteReplayStore}
    (capped : store.Capped caps)
    (call : ReplayCall) :
    store.checkAndRecord call.tokenId call.nonce call.ts call.nowUnix call.skew =
      ((recordRows caps store.rows call).1,
        { store with rows := (recordRows caps store.rows call).2 }) := by
  unfold SqliteReplayStore.checkAndRecord recordRows
  rw [capped.1, capped.2]
  dsimp only
  rw [ite_of_checks]
  change (if Refuses caps (keptRows store.rows call) call then _ else _) = _
  split
  · rfl
  · rfl

theorem sqlite_records (caps : ReplayCaps) :
    Records caps (SqliteReplayStore.Capped caps) (·.rows) SqliteReplayStore.call := by
  intro store call capped
  rw [SqliteReplayStore.call, SqliteReplayStore.checkAndRecord_eq capped]
  by_cases fitsCutoff : FitsInteger call.cutoff
  · rw [ensure, if_pos fitsCutoff]
    dsimp only [bind, Except.bind]
    by_cases fitsTs : (recordRows caps store.rows call).1 = true → FitsInteger call.ts
    · rw [ensure, if_pos fitsTs]
      exact .inr ⟨_, rfl, rfl, capped⟩
    · rw [ensure, if_neg fitsTs]
      refine .inl ⟨⟨_, rfl⟩, fun storable => fitsTs fun _ => storable.ts⟩
  · rw [ensure, if_neg fitsCutoff]
    exact .inl ⟨⟨_, rfl⟩, fun storable => fitsCutoff storable.cutoff⟩

def PostgresReplayStore.Capped (caps : ReplayCaps) (store : PostgresReplayStore) : Prop :=
  store.maxEntries = caps.maxEntries ∧ store.maxPerToken = caps.maxPerToken

/-- A nonce that is not known is inserted without a conflict. -/
theorem PostgresReplayStore.checkAndRecord_eq
    {caps : ReplayCaps}
    {store : PostgresReplayStore}
    (capped : store.Capped caps)
    (call : ReplayCall) :
    store.checkAndRecord call =
      ((recordRows caps store.rows call).1,
        { store with rows := (recordRows caps store.rows call).2 }) := by
  unfold PostgresReplayStore.checkAndRecord recordRows
  rw [capped.1, capped.2]
  dsimp only
  rw [ite_of_checks]
  change (if Refuses caps (keptRows store.rows call) call then _ else _) = _
  split
  · rfl
  · next admitted =>
      have unknown : insertNonce (keptRows store.rows call) call.row =
          (true, keptRows store.rows call ++ [call.row]) :=
        if_neg fun known => admitted (.inl known)
      unfold keptRows at unknown ⊢
      rw [unknown]

theorem postgres_records (caps : ReplayCaps) :
    Records caps (PostgresReplayStore.Capped caps) (·.rows) PostgresReplayStore.call := by
  intro store call capped
  rw [PostgresReplayStore.call, PostgresReplayStore.checkAndRecord_eq capped]
  by_cases fitsText : FitsText call.tokenId ∧ FitsText call.nonce
  · rw [ensure, if_pos fitsText]
    dsimp only [bind, Except.bind]
    by_cases fitsTs : (recordRows caps store.rows call).1 = true → FitsInteger call.ts
    · rw [ensure, if_pos fitsTs]
      exact .inr ⟨_, rfl, rfl, capped⟩
    · rw [ensure, if_neg fitsTs]
      exact .inl ⟨⟨_, rfl⟩, fun storable => fitsTs fun _ => storable.ts⟩
  · rw [ensure, if_neg fitsText]
    exact .inl ⟨⟨_, rfl⟩, fun storable => fitsText ⟨storable.tokenId, storable.nonce⟩⟩

def PopReplayCache.Capped (caps : ReplayCaps) (cache : PopReplayCache) : Prop :=
  cache.maxEntries = caps.maxEntries ∧ cache.maxPerToken = caps.maxPerToken

/-- An entry of the dictionary as a row. -/
def entryRow (entry : (String × String) × Int) : ReplayRow := ⟨entry.1.1, entry.1.2, entry.2⟩

def PopReplayCache.rows (cache : PopReplayCache) : List ReplayRow :=
  cache.seen.entries.map entryRow

/-- Whether a key is known, read from the rows. -/
theorem isSome_get?_iff_any
    (seen : Dict (String × String) Int)
    (tokenId nonce : String) :
    (seen.get? (tokenId, nonce)).isSome = true ↔
      ((seen.entries.map entryRow).any fun row =>
        row.tokenId == tokenId && row.nonce == nonce) = true := by
  rw [Option.isSome_iff_exists, List.any_map, List.any_eq_true]
  constructor
  · rintro ⟨ts, found⟩
    exact ⟨_, (Dict.get?_eq_some_iff _ _ _).mp found, by simp [entryRow]⟩
  · rintro ⟨⟨⟨token, other⟩, ts⟩, present, isKey⟩
    simp only [Function.comp_apply, entryRow, Bool.and_eq_true, beq_iff_eq] at isKey
    obtain ⟨rfl, rfl⟩ := isKey
    exact ⟨ts, (Dict.get?_eq_some_iff _ _ _).mpr present⟩

/-- Setting a key that is not known appends it. -/
theorem setEntries_of_unknown
    {key : String × String}
    (ts : Int)
    {entries : List ((String × String) × Int)}
    (unknown : ∀ entry ∈ entries, entry.1 ≠ key) :
    Dict.setEntries key ts entries = entries ++ [(key, ts)] := by
  induction entries with
  | nil => rfl
  | cons entry rest inductionHypothesis =>
      rw [Dict.setEntries, if_neg (unknown entry List.mem_cons_self), List.cons_append,
        inductionHypothesis fun other present => unknown other (List.mem_cons_of_mem _ present)]

theorem cache_records (caps : ReplayCaps) :
    Records caps (PopReplayCache.Capped caps) PopReplayCache.rows PopReplayCache.call := by
  intro cache call capped
  refine .inr ?_
  have purged : ((cache.seen.filter fun _ recorded =>
      !decide (recorded < call.nowUnix - call.skew)).entries).map entryRow =
        keptRows cache.rows call := by
    rw [keptRows, PopReplayCache.rows, List.filter_map]
    rfl
  generalize isSeen : (cache.seen.filter fun _ recorded =>
    !decide (recorded < call.nowUnix - call.skew)) = seen at purged
  have known := isSome_get?_iff_any seen call.tokenId call.nonce
  have perToken : (seen.entries.countP fun entry => entry.1.1 == call.tokenId) =
      (keptRows cache.rows call).countP fun row => row.tokenId == call.tokenId := by
    rw [← purged, List.countP_map]
    rfl
  have total : seen.size = (keptRows cache.rows call).length := by
    rw [← purged, List.length_map]
    rfl
  rw [PopReplayCache.call, PopReplayCache.checkAndRecord]
  rw [isSeen, ite_of_checks, perToken, total, capped.1, capped.2]
  simp only [known, purged]
  change ∃ after, Except.ok (if Refuses caps (keptRows cache.rows call) call then _ else _) = _ ∧ _
  unfold recordRows
  split
  · exact ⟨_, rfl, purged, rfl, rfl⟩
  · next admitted =>
      refine ⟨_, rfl, ?_, rfl, rfl⟩
      rw [← purged]
      change (Dict.setEntries _ _ seen.entries).map entryRow = _
      rw [setEntries_of_unknown, List.map_append]
      · rfl
      · rintro ⟨key, ts⟩ present rfl
        have isKnown := known.mp (Option.isSome_iff_exists.mpr
          ⟨ts, (Dict.get?_eq_some_iff _ _ _).mpr present⟩)
        rw [purged] at isKnown
        exact admitted (.inl isKnown)

/-! ## Runs refine the reference -/

/-- Verdicts and entries of a run without errors. -/
def recordAll (caps : ReplayCaps) (calls : List ReplayCall) : List Bool × List ReplayRow :=
  calls.foldl (fun state call =>
    let recorded := recordRows caps state.2 call
    (state.1 ++ [recorded.1], recorded.2)) ([], [])

theorem recordAll_snoc (caps : ReplayCaps) (calls : List ReplayCall) (call : ReplayCall) :
    recordAll caps (calls ++ [call]) =
      ((recordAll caps calls).1 ++ [(recordRows caps (recordAll caps calls).2 call).1],
        (recordRows caps (recordAll caps calls).2 call).2) := by
  rw [recordAll, List.foldl_append]
  rfl

section Run

variable {caps : ReplayCaps} {capped : σ → Prop} {rowsOf : σ → List ReplayRow}
  {step : σ → ReplayCall → Except ReplayError (Bool × σ)} {store : σ}

/-- Whatever a call does, the entries stay or are recorded. -/
theorem Records.serve
    (records : Records caps capped rowsOf step)
    (isCapped : capped store)
    (call : ReplayCall) :
    capped (serve step store call).2 ∧
      (rowsOf (serve step store call).2 = rowsOf store ∧ ¬call.Storable ∨
        (serve step store call).1 = .ok (recordRows caps (rowsOf store) call).1 ∧
          rowsOf (serve step store call).2 = (recordRows caps (rowsOf store) call).2) := by
  unfold Pop.serve
  rcases records store call isCapped with ⟨⟨error, raises⟩, refused⟩ | ⟨after, returns, isAfter, keeps⟩
  · rw [raises]
    exact ⟨isCapped, .inl ⟨rfl, refused⟩⟩
  · rw [returns]
    exact ⟨keeps, .inr ⟨rfl, isAfter⟩⟩

theorem Records.capped_serveAll
    (records : Records caps capped rowsOf step)
    (isCapped : capped store)
    (calls : List ReplayCall) :
    capped (serveAll step store calls).2 := by
  induction calls using List.reverseRecOn with
  | nil => exact isCapped
  | append_singleton calls call inductionHypothesis =>
      rw [serveAll_snoc]
      exact (records.serve inductionHypothesis call).1

/-- On values that can be bound a run is the expected one. -/
theorem Records.recorded
    (records : Records caps capped rowsOf step)
    (store : σ)
    (isCapped : capped store)
    (isEmpty : rowsOf store = [])
    {calls : List ReplayCall}
    (storable : ∀ call ∈ calls, call.Storable) :
    (serveAll step store calls).1 = (recordAll caps calls).1.map .ok ∧
      rowsOf (serveAll step store calls).2 = (recordAll caps calls).2 := by
  induction calls using List.reverseRecOn with
  | nil => exact ⟨rfl, isEmpty⟩
  | append_singleton calls call inductionHypothesis =>
      obtain ⟨verdicts, entries⟩ := inductionHypothesis
        fun earlier present => storable earlier (List.mem_append_left _ present)
      have served := (records.serve (records.capped_serveAll isCapped calls) call).2
      rcases served with ⟨-, refused⟩ | ⟨verdict, recorded⟩
      · exact absurd (storable call (List.mem_append_right _ List.mem_cons_self)) refused
      · rw [serveAll_snoc, recordAll_snoc, List.map_append, ← verdicts, ← entries]
        exact ⟨congrArg _ (congrArg (fun verdict => [verdict]) verdict), recorded⟩

/-- In every state of every run the entries are within the caps. -/
theorem Records.withinCaps
    (records : Records caps capped rowsOf step)
    (isCapped : capped store)
    (isEmpty : rowsOf store = [])
    (calls : List ReplayCall) :
    WithinCaps caps (rowsOf (serveAll step store calls).2) := by
  induction calls using List.reverseRecOn with
  | nil =>
      change WithinCaps caps (rowsOf store)
      rw [isEmpty]
      exact withinCaps_nil caps
  | append_singleton calls call inductionHypothesis =>
      rw [serveAll_snoc]
      rcases (records.serve (records.capped_serveAll isCapped calls) call).2 with
        ⟨same, -⟩ | ⟨-, recorded⟩
      · rw [same]
        exact inductionHypothesis
      · rw [recorded]
        exact inductionHypothesis.recordRows call

/-- No call of a run drops an entry inside its window. -/
theorem Records.keeps_fresh
    (records : Records caps capped rowsOf step)
    (isCapped : capped store)
    (calls : List ReplayCall)
    (call : ReplayCall)
    {row : ReplayRow}
    (present : row ∈ rowsOf (serveAll step store calls).2)
    (fresh : call.cutoff ≤ row.ts) :
    row ∈ rowsOf (serveAll step store (calls ++ [call])).2 := by
  rw [serveAll_snoc]
  rcases (records.serve (records.capped_serveAll isCapped calls) call).2 with
    ⟨same, -⟩ | ⟨-, recorded⟩
  · rw [same]
    exact present
  · rw [recorded]
    exact mem_recordRows caps present fresh

end Run

/-! ## The three stores -/

def PopReplayCache.empty (caps : ReplayCaps) : PopReplayCache :=
  ⟨Dict.empty, caps.maxEntries, caps.maxPerToken⟩

def SqliteReplayStore.empty (caps : ReplayCaps) : SqliteReplayStore :=
  ⟨[], caps.maxEntries, caps.maxPerToken⟩

def PostgresReplayStore.empty (caps : ReplayCaps) : PostgresReplayStore :=
  ⟨[], caps.maxEntries, caps.maxPerToken⟩

/-- Within the caps in every state of every run, and no call drops a fresh entry. -/
def Bounded
    (caps : ReplayCaps)
    (rowsOf : σ → List ReplayRow)
    (step : σ → ReplayCall → Except ReplayError (Bool × σ))
    (store : σ) : Prop :=
  ∀ calls, WithinCaps caps (rowsOf (serveAll step store calls).2) ∧
    ∀ call, ∀ row ∈ rowsOf (serveAll step store calls).2, call.cutoff ≤ row.ts →
      row ∈ rowsOf (serveAll step store (calls ++ [call])).2

theorem Records.bounded
    {caps : ReplayCaps}
    {capped : σ → Prop}
    {rowsOf : σ → List ReplayRow}
    {step : σ → ReplayCall → Except ReplayError (Bool × σ)}
    (records : Records caps capped rowsOf step)
    (store : σ)
    (isCapped : capped store)
    (isEmpty : rowsOf store = []) :
    Bounded caps rowsOf step store :=
  fun calls => ⟨records.withinCaps isCapped isEmpty calls,
    fun call _ present fresh => records.keeps_fresh isCapped calls call present fresh⟩

end Pop
end Vinctor
