import Vinctor.Service.Pop

/-!
# Runs of proof verifications

A run is a list of verifications against one store, in the order in which the
store serves them.  Each call carries the time its handler captured, so the
clocks of a run need not be ordered.  The store forgets a nonce once a caller's
clock has left the window of its timestamp; a caller whose clock is behind can
then present the same proof again.
-/

namespace Vinctor
namespace Pop

open Foundation

section Run

variable (hmac : KeyedHash) (skew : Int)

/-- Store after a list of verifications. -/
def storeAfter (store : ReplayStore) (calls : List PopCall) : ReplayStore :=
  calls.foldl (fun current call => (verifyPop hmac skew call current).2) store

/-- The call at a position of the run is accepted. -/
def AcceptedAt (store : ReplayStore) (calls : List PopCall) (position : Nat) : Prop :=
  ∃ call, calls[position]? = some call ∧
    (verifyPop hmac skew call (storeAfter hmac skew store (calls.take position))).1 = some true

/-- Token, nonce and timestamp that a call presents. -/
def presented (call : PopCall) : Option (String × String × Int) :=
  (parseProof call.proof).map fun proof => (call.tokenId, proof.nonce, proof.ts)

/-- Two accepted calls that present one proof are one call. -/
def AcceptedAtMostOnce (store : ReplayStore) (calls : List PopCall) : Prop :=
  ∀ first second,
    AcceptedAt hmac skew store calls first →
    AcceptedAt hmac skew store calls second →
    (calls[first]?.bind presented) = (calls[second]?.bind presented) →
    first = second

/-- The call passes freshness and mac, so that it reaches the store. -/
def ReachesStore (call : PopCall) : Prop :=
  ∃ proof, admission hmac skew call = .ok (some proof)

/-- Between two presentations of one proof no call reaches the store with a
clock that has left the window of the proof's timestamp. -/
def NoPurgeBetween (calls : List PopCall) : Prop :=
  ∀ (first middle last : Nat) (firstCall middleCall lastCall : PopCall)
    (tokenId nonce : String) (ts : Int),
    first < middle → middle < last →
    calls[first]? = some firstCall →
    calls[middle]? = some middleCall →
    calls[last]? = some lastCall →
    presented firstCall = some (tokenId, nonce, ts) →
    presented lastCall = some (tokenId, nonce, ts) →
    ReachesStore hmac skew firstCall →
    ReachesStore hmac skew middleCall →
    ReachesStore hmac skew lastCall →
    unixSeconds middleCall.now - skew ≤ ts

variable {hmac : KeyedHash} {skew : Int}

theorem storeAfter_take_succ
    {calls : List PopCall}
    {position : Nat}
    {call : PopCall}
    (store : ReplayStore)
    (present : calls[position]? = some call) :
    storeAfter hmac skew store (calls.take (position + 1)) =
      (verifyPop hmac skew call (storeAfter hmac skew store (calls.take position))).2 := by
  obtain ⟨inside, rfl⟩ := List.getElem?_eq_some_iff.mp present
  rw [List.take_succ_eq_append_getElem inside, storeAfter, storeAfter, List.foldl_append]
  rfl

/-- What admission establishes: the parts of the proof, and freshness. -/
theorem admission_eq_some
    {call : PopCall}
    {proof : PopProof}
    (admitted : admission hmac skew call = .ok (some proof)) :
    parseProof call.proof = some proof ∧
      |unixSeconds call.now - proof.ts| ≤ skew := by
  unfold admission at admitted
  split at admitted
  · simp at admitted
  · next parsed parsing =>
      split_ifs at admitted with stale
      · simp at admitted
      · split at admitted
        · simp at admitted
        · split_ifs at admitted
          · simp only [Except.ok.injEq, Option.some.injEq] at admitted
            subst admitted
            exact ⟨parsing, by omega⟩
          · simp at admitted

/-- Shape of an accepted verification. -/
theorem verifyPop_accepted
    {call : PopCall}
    {store : ReplayStore}
    (accepted : (verifyPop hmac skew call store).1 = some true) :
    ∃ proof, admission hmac skew call = .ok (some proof) ∧
      (store.checkAndRecord call.tokenId proof.nonce proof.ts
        (unixSeconds call.now) skew).1 = true := by
  unfold verifyPop at accepted
  split at accepted
  · simp at accepted
  · simp at accepted
  · next proof admitted => exact ⟨proof, admitted, by simpa using accepted⟩

/-- A verification that does not purge a held entry keeps it. -/
theorem verifyPop_keeps
    {call : PopCall}
    {store : ReplayStore}
    {tokenId nonce : String}
    {ts : Int}
    (held : store.Holds tokenId nonce ts)
    (live : ReachesStore hmac skew call → unixSeconds call.now - skew ≤ ts) :
    (verifyPop hmac skew call store).2.Holds tokenId nonce ts := by
  unfold verifyPop
  split
  · exact held
  · exact held
  · next proof admitted =>
      exact ReplayStore.holds_of_holds held _ _ _ _ _ (live ⟨proof, admitted⟩)

/-- An entry recorded at one position is still held at a later one when no
call in between purges it. -/
theorem holds_until
    {store : ReplayStore}
    {calls : List PopCall}
    {first : Nat}
    {tokenId nonce : String}
    {ts : Int}
    (held : (storeAfter hmac skew store (calls.take (first + 1))).Holds tokenId nonce ts)
    (last : Nat)
    (later : first < last)
    (inside : last ≤ calls.length)
    (live : ∀ middle call, first < middle → middle < last → calls[middle]? = some call →
      ReachesStore hmac skew call → unixSeconds call.now - skew ≤ ts) :
    (storeAfter hmac skew store (calls.take last)).Holds tokenId nonce ts := by
  induction last, later using Nat.le_induction with
  | base => exact held
  | succ middle later inductionHypothesis =>
      have bound : middle < calls.length := by omega
      have present : calls[middle]? = some calls[middle] :=
        List.getElem?_eq_getElem bound
      rw [storeAfter_take_succ store present]
      apply verifyPop_keeps
      · apply inductionHypothesis (by omega)
        intro earlier call after before
        exact live earlier call after (by omega)
      · exact live middle _ (by omega) (by omega) present

/-- Replays are refused in every run in which no call purges a proof between
two of its presentations. -/
theorem acceptedAtMostOnce_of_noPurgeBetween
    (store : ReplayStore)
    (calls : List PopCall)
    (noPurge : NoPurgeBetween hmac skew calls) :
    AcceptedAtMostOnce hmac skew store calls := by
  -- It suffices to refuse the later of two accepted positions.
  suffices refuse : ∀ first second, first < second →
      AcceptedAt hmac skew store calls first →
      AcceptedAt hmac skew store calls second →
      (calls[first]?.bind presented) = (calls[second]?.bind presented) → False by
    intro first second firstAccepted secondAccepted same
    rcases Nat.lt_trichotomy first second with earlier | equal | later
    · exact (refuse first second earlier firstAccepted secondAccepted same).elim
    · exact equal
    · exact (refuse second first later secondAccepted firstAccepted same.symm).elim
  rintro first second earlier ⟨firstCall, firstPresent, firstAccepted⟩
    ⟨secondCall, secondPresent, secondAccepted⟩ same
  obtain ⟨firstProof, firstAdmitted, firstRecorded⟩ := verifyPop_accepted firstAccepted
  obtain ⟨secondProof, secondAdmitted, secondRecorded⟩ := verifyPop_accepted secondAccepted
  have firstParsed := (admission_eq_some firstAdmitted).1
  obtain ⟨secondParsed, secondFresh⟩ := admission_eq_some secondAdmitted
  have firstPresents : presented firstCall =
      some (firstCall.tokenId, firstProof.nonce, firstProof.ts) := by
    simp [presented, firstParsed]
  have secondPresents : presented secondCall =
      some (secondCall.tokenId, secondProof.nonce, secondProof.ts) := by
    simp [presented, secondParsed]
  rw [firstPresent, secondPresent, Option.bind_some, Option.bind_some, firstPresents,
    secondPresents] at same
  simp only [Option.some.injEq, Prod.mk.injEq] at same
  obtain ⟨sameToken, sameNonce, sameTs⟩ := same
  rw [← sameToken, ← sameNonce, ← sameTs] at secondPresents
  have secondInside : second < calls.length :=
    (List.getElem?_eq_some_iff.mp secondPresent).1
  have recorded : (storeAfter hmac skew store (calls.take (first + 1))).Holds
      firstCall.tokenId firstProof.nonce firstProof.ts := by
    rw [storeAfter_take_succ store firstPresent]
    unfold verifyPop
    rw [firstAdmitted]
    exact ReplayStore.holds_of_accepted firstRecorded
  have held := holds_until recorded second earlier secondInside.le (by
    intro middle middleCall afterFirst beforeSecond middlePresent reaches
    exact noPurge first middle second firstCall middleCall secondCall _ _ _ afterFirst
      beforeSecond firstPresent middlePresent secondPresent firstPresents secondPresents
      ⟨firstProof, firstAdmitted⟩ reaches ⟨secondProof, secondAdmitted⟩)
  -- The second call's own purge cannot remove the entry: the proof is fresh for it.
  have live : unixSeconds secondCall.now - skew ≤ firstProof.ts := by
    rw [sameTs]
    have upper := le_abs_self (unixSeconds secondCall.now - secondProof.ts)
    omega
  have refused := ReplayStore.refused_of_holds held secondProof.ts
    (unixSeconds secondCall.now) skew live
  rw [← sameToken, ← sameNonce, refused] at secondRecorded
  contradiction

end Run

/-! ## A proof accepted twice -/

/-- Proof over `read file/a`, made at 1700000000 by the holder of `stk_a`. -/
def capturedProof : String :=
  "1700000000.n1.3WMZNg7U1dkocdDHnt825B9wwOK2VtbNhjFjzP6ebWE"

/-- Proof over `read file/b`, made 31 seconds later by the holder of `stk_b`. -/
def laterProof : String :=
  "1700000031.n2.z8-K6SzZdUJXruvAYdJUZrALMps-QY5Fy109TGWvGno"

/-- The digests that HMAC-SHA256 gives for the two proofs above. -/
def sampleHmac : KeyedHash := fun key message =>
  if key = Bytes.utf8 "pop_a" ∧
      popCanonical "read" "file/a" 1700000000 "n1" "stk_a" = some message then
    [221, 99, 25, 54, 14, 212, 213, 217, 40, 113, 208, 199, 158, 223, 54, 228,
      31, 112, 192, 226, 182, 86, 214, 205, 134, 49, 99, 204, 254, 158, 109, 97]
  else if key = Bytes.utf8 "pop_b" ∧
      popCanonical "read" "file/b" 1700000031 "n2" "stk_b" = some message then
    [207, 207, 138, 233, 44, 217, 117, 66, 87, 174, 235, 192, 97, 210, 84, 102,
      176, 11, 50, 155, 62, 65, 142, 69, 203, 93, 61, 76, 101, 175, 26, 122]
  else []

/-- The captured proof, presented by a handler that read its clock `offset`
seconds after the proof was made. -/
def capturedCall (offset : Int) : PopCall where
  proof := some capturedProof
  popSecret := "pop_a"
  tokenId := "stk_a"
  action := "read"
  resource := "file/a"
  now := seconds (1700000000 + offset)

def laterCall (offset : Int) : PopCall where
  proof := some laterProof
  popSecret := "pop_b"
  tokenId := "stk_b"
  action := "read"
  resource := "file/b"
  now := seconds (1700000000 + offset)

def emptyReplayCache : ReplayStore :=
  .process { seen := Dict.empty, maxEntries := 100000, maxPerToken := 10000 }

/-- Handlers that read their clocks at 0, 30 and 31 seconds reach the store in
the order 0, 31, 30.  The middle one purges the nonce of the first, and the
last is accepted with the same proof. -/
theorem not_acceptedAtMostOnce_overtaking :
    ¬ AcceptedAtMostOnce sampleHmac 30 emptyReplayCache
      [capturedCall 0, laterCall 31, capturedCall 30] := by
  intro atMostOnce
  have firstAccepted : AcceptedAt sampleHmac 30 emptyReplayCache
      [capturedCall 0, laterCall 31, capturedCall 30] 0 :=
    ⟨capturedCall 0, rfl, by decide⟩
  have lastAccepted : AcceptedAt sampleHmac 30 emptyReplayCache
      [capturedCall 0, laterCall 31, capturedCall 30] 2 :=
    ⟨capturedCall 30, rfl, by decide⟩
  have same := atMostOnce 0 2 firstAccepted lastAccepted rfl
  contradiction

/-- When the later proof reaches the store within the window of the captured
one, the replay is refused. -/
theorem acceptedAtMostOnce_within_window :
    NoPurgeBetween sampleHmac 30 [capturedCall 0, laterCall 30, capturedCall 30] ∧
      AcceptedAtMostOnce sampleHmac 30 emptyReplayCache
        [capturedCall 0, laterCall 30, capturedCall 30] := by
  have noPurge : NoPurgeBetween sampleHmac 30
      [capturedCall 0, laterCall 30, capturedCall 30] := by
    intro first middle last firstCall middleCall lastCall tokenId nonce ts firstMiddle
      middleLast firstPresent middlePresent lastPresent firstPresents _ _ _ _
    have lastInside := (List.getElem?_eq_some_iff.mp lastPresent).1
    simp only [List.length_cons, List.length_nil] at lastInside
    obtain rfl : first = 0 := by omega
    obtain rfl : middle = 1 := by omega
    simp only [List.getElem?_cons_zero, List.getElem?_cons_succ, Option.some.injEq]
      at firstPresent middlePresent
    subst firstPresent middlePresent
    have fields : presented (capturedCall 0) = some ("stk_a", "n1", 1700000000) := by
      decide
    rw [fields] at firstPresents
    simp only [Option.some.injEq, Prod.mk.injEq] at firstPresents
    obtain ⟨-, -, rfl⟩ := firstPresents
    decide
  exact ⟨noPurge, acceptedAtMostOnce_of_noPurgeBetween _ _ noPurge⟩

end Pop
end Vinctor
