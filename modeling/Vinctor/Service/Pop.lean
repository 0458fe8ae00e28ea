import Vinctor.Core.Models
import Vinctor.Foundation.Bytes
import Vinctor.Foundation.Text

/-!
# Proof of possession

A proof is a text `timestamp.nonce.mac`.  It is accepted when it is fresh for
the caller's clock, its mac binds it to the request, and the replay store has
not recorded its nonce for the token.  The store purges by the clock of
whichever caller it is serving.

Two stores offer the same operation: a dictionary per process and a table per
database.  The keyed hash is a parameter.
-/

namespace Vinctor
namespace Pop

open Foundation

/-- Keyed hash: key, message, digest. -/
abbrev KeyedHash := Bytes → Bytes → Bytes

/-- Length-prefixed bytes of the five bound fields. -/
def popCanonical (action resource : String) (ts : Int) (nonce tokenId : String) :
    Option Bytes :=
  ([action, resource, toString ts, nonce, tokenId].mapM fun part =>
    Bytes.lengthPrefix (Bytes.utf8 part)).map List.flatten

def popMac (hmac : KeyedHash) (popSecret : String) (canonical : Bytes) : String :=
  String.ofList (Bytes.base64UrlDigits (hmac (Bytes.utf8 popSecret) canonical))

/-! ## Replay stores -/

/-- Replay memory of one process: timestamp by token and nonce. -/
structure PopReplayCache where
  seen : Dict (String × String) Int
  maxEntries : Int
  maxPerToken : Int

def PopReplayCache.checkAndRecord
    (cache : PopReplayCache)
    (tokenId nonce : String)
    (ts nowUnix skew : Int) : Bool × PopReplayCache :=
  let cutoff := nowUnix - skew
  let seen := cache.seen.filter fun _ recorded => !decide (recorded < cutoff)
  let purged := { cache with seen := seen }
  let key := (tokenId, nonce)
  if (seen.get? key).isSome then (false, purged)
  else if cache.maxPerToken ≤ (seen.entries.countP fun entry => entry.1.1 == tokenId) then
    (false, purged)
  else if cache.maxEntries ≤ seen.size then (false, purged)
  else (true, { cache with seen := seen.set key ts })

structure ReplayRow where
  tokenId : String
  nonce : String
  ts : Int
  deriving DecidableEq, Repr

/-- Replay memory of one database: the rows of the nonce table. -/
structure SqliteReplayStore where
  rows : List ReplayRow
  maxEntries : Int
  maxPerToken : Int

/-- One write scope: purge, look up, count, insert. -/
def SqliteReplayStore.checkAndRecord
    (store : SqliteReplayStore)
    (tokenId nonce : String)
    (ts nowUnix skew : Int) : Bool × SqliteReplayStore :=
  let cutoff := nowUnix - skew
  let rows := store.rows.filter fun row => !decide (row.ts < cutoff)
  let purged := { store with rows := rows }
  if rows.any fun row => row.tokenId == tokenId && row.nonce == nonce then (false, purged)
  else if store.maxPerToken ≤ (rows.countP fun row => row.tokenId == tokenId) then
    (false, purged)
  else if store.maxEntries ≤ rows.length then (false, purged)
  else (true, { store with rows := rows ++ [⟨tokenId, nonce, ts⟩] })

/-- The store a service is wired to. -/
inductive ReplayStore
  | process (cache : PopReplayCache)
  | sqlite (table : SqliteReplayStore)

def ReplayStore.checkAndRecord
    (store : ReplayStore)
    (tokenId nonce : String)
    (ts nowUnix skew : Int) : Bool × ReplayStore :=
  match store with
  | .process cache =>
      let outcome := cache.checkAndRecord tokenId nonce ts nowUnix skew
      (outcome.1, .process outcome.2)
  | .sqlite table =>
      let outcome := table.checkAndRecord tokenId nonce ts nowUnix skew
      (outcome.1, .sqlite outcome.2)

/-- The store holds a nonce of a token with a timestamp. -/
def ReplayStore.Holds
    (store : ReplayStore)
    (tokenId nonce : String)
    (ts : Int) : Prop :=
  match store with
  | .process cache => ((tokenId, nonce), ts) ∈ cache.seen.entries
  | .sqlite table => ⟨tokenId, nonce, ts⟩ ∈ table.rows

/-! ## Verification -/

/-- Parts of a well-formed proof. -/
structure PopProof where
  ts : Int
  nonce : String
  mac : String
  deriving DecidableEq, Repr

/-- Read a proof: three parts, an integer timestamp, a nonempty nonce and a
nonempty ASCII mac. -/
def parseProof (proof : Option String) : Option PopProof :=
  match proof with
  | none => none
  | some text =>
      if Text.isBlank text.toList then none
      else
        match text.toList.splitOn '.' with
        | [tsRaw, nonce, mac] =>
            match Text.parseInteger tsRaw with
            | none => none
            | some ts =>
                if nonce.isEmpty || mac.isEmpty || !mac.all (·.toNat < 128) then none
                else some ⟨ts, String.ofList nonce, String.ofList mac⟩
        | _ => none

/-- Whole seconds of an instant, cut towards zero. -/
def unixSeconds (now : Instant) : Int := now.tdiv 1000000

/-- Arguments of one verification, with the caller's own captured time. -/
structure PopCall where
  proof : Option String
  popSecret : String
  tokenId : String
  action : String
  resource : String
  now : Instant
  deriving DecidableEq, Repr

/-- The checks before the store: parts, freshness, mac.  An error is an
exception of the canonical encoding. -/
def admission (hmac : KeyedHash) (skew : Int) (call : PopCall) : Except Unit (Option PopProof) :=
  match parseProof call.proof with
  | none => .ok none
  | some proof =>
      if skew < |unixSeconds call.now - proof.ts| then .ok none
      else
        match popCanonical call.action call.resource proof.ts proof.nonce call.tokenId with
        | none => .error ()
        | some canonical =>
            if popMac hmac call.popSecret canonical = proof.mac then .ok (some proof)
            else .ok none

/-- Verify a proof and record its nonce.  No answer means that an exception
was raised. -/
def verifyPop
    (hmac : KeyedHash)
    (skew : Int)
    (call : PopCall)
    (store : ReplayStore) : Option Bool × ReplayStore :=
  match admission hmac skew call with
  | .error _ => (none, store)
  | .ok none => (some false, store)
  | .ok (some proof) =>
      let outcome := store.checkAndRecord call.tokenId proof.nonce proof.ts
        (unixSeconds call.now) skew
      (some outcome.1, outcome.2)

/-! ## One operation of a store -/

/-- An accepted nonce is held with its timestamp. -/
theorem ReplayStore.holds_of_accepted
    {store : ReplayStore}
    {tokenId nonce : String}
    {ts nowUnix skew : Int}
    (accepted : (store.checkAndRecord tokenId nonce ts nowUnix skew).1 = true) :
    (store.checkAndRecord tokenId nonce ts nowUnix skew).2.Holds tokenId nonce ts := by
  cases store with
  | process cache =>
      simp only [checkAndRecord, PopReplayCache.checkAndRecord, Holds] at accepted ⊢
      split_ifs at accepted ⊢
      rw [← Dict.get?_eq_some_iff, Dict.get?_set_self]
  | sqlite table =>
      simp only [checkAndRecord, SqliteReplayStore.checkAndRecord, Holds] at accepted ⊢
      split_ifs at accepted ⊢
      simp

/-- A held entry survives every call whose cutoff it has not passed. -/
theorem ReplayStore.holds_of_holds
    {store : ReplayStore}
    {tokenId nonce : String}
    {ts : Int}
    (held : store.Holds tokenId nonce ts)
    (otherToken otherNonce : String)
    (otherTs nowUnix skew : Int)
    (live : nowUnix - skew ≤ ts) :
    (store.checkAndRecord otherToken otherNonce otherTs nowUnix skew).2.Holds
      tokenId nonce ts := by
  cases store with
  | process cache =>
      have kept : ((tokenId, nonce), ts) ∈
          (cache.seen.filter fun _ recorded =>
            !decide (recorded < nowUnix - skew)).entries := by
        simpa [Dict.filter] using And.intro (show _ ∈ cache.seen.entries from held) live
      simp only [checkAndRecord, PopReplayCache.checkAndRecord, Holds]
      split_ifs with seen
      · exact kept
      · exact kept
      · exact kept
      · rw [← Dict.get?_eq_some_iff] at kept ⊢
        rw [Dict.get?_set_of_ne _ _ ?_, kept]
        rintro equal
        rw [equal] at kept
        simp [kept] at seen
  | sqlite table =>
      have kept : (⟨tokenId, nonce, ts⟩ : ReplayRow) ∈
          table.rows.filter fun row => !decide (row.ts < nowUnix - skew) := by
        simpa using And.intro (show _ ∈ table.rows from held) live
      simp only [checkAndRecord, SqliteReplayStore.checkAndRecord, Holds]
      split_ifs
      · exact kept
      · exact kept
      · exact kept
      · exact List.mem_append_left _ kept

/-- A held nonce is refused while it is live. -/
theorem ReplayStore.refused_of_holds
    {store : ReplayStore}
    {tokenId nonce : String}
    {ts : Int}
    (held : store.Holds tokenId nonce ts)
    (otherTs nowUnix skew : Int)
    (live : nowUnix - skew ≤ ts) :
    (store.checkAndRecord tokenId nonce otherTs nowUnix skew).1 = false := by
  cases store with
  | process cache =>
      have kept : (cache.seen.filter fun _ recorded =>
          !decide (recorded < nowUnix - skew)).get? (tokenId, nonce) = some ts := by
        rw [Dict.get?_eq_some_iff]
        simpa [Dict.filter] using And.intro (show _ ∈ cache.seen.entries from held) live
      simp [checkAndRecord, PopReplayCache.checkAndRecord, kept]
  | sqlite table =>
      have kept : (table.rows.filter fun row => !decide (row.ts < nowUnix - skew)).any
          (fun row => row.tokenId == tokenId && row.nonce == nonce) = true := by
        rw [List.any_eq_true]
        refine ⟨⟨tokenId, nonce, ts⟩, ?_, by simp⟩
        simpa using And.intro (show _ ∈ table.rows from held) live
      simp only [checkAndRecord, SqliteReplayStore.checkAndRecord, kept, if_true]

end Pop
end Vinctor
