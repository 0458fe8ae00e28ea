import Vinctor.Service.IdempotencyHistory

/-!
# Idempotent execution is at most once, with exact replay

Two committed mutations of one identity are separated by the expiry of the first
stored result.  An execution that finds an unexpired result replays it, or is a
conflict when the result belongs to another request, and never calls its
mutation.
-/

namespace Vinctor
namespace Idempotency

open Foundation
open Fallible

variable {β : Type u}

/-! ## Executions that find a result -/

/-- An execution is about to look a stored result up, or to complete with a
claimed reservation, and the result has not expired at the epoch it compares
with. -/
def World.Sees
    (world : World β)
    (execution : Execution β)
    (record : CompletedResultRecord) : Prop :=
  world.tables.results.get? execution.invocation.resultIdentity = some record ∧
    match execution.stage with
    | .lookingUp nowEpoch => nowEpoch < record.expiresAtEpoch
    | .lookingAgain _ nowEpoch => nowEpoch < record.expiresAtEpoch
    | .completing reservation =>
        (∃ claimedAtEpoch, requireReservationAuthentic world.tables execution.invocation
            reservation = .ok (some claimedAtEpoch)) ∧
          world.epoch < record.expiresAtEpoch
    | _ => False

/-- No read fails and the transaction commits. -/
def Surroundings.Undisturbed (surroundings : Surroundings) : Prop :=
  surroundings.readFails = false ∧ surroundings.fate = .commits

/-- The reply to an invocation that finds the unexpired result of a mutation. -/
def seenReply
    (record : CompletedResultRecord)
    (invocation : IdempotencyInvocation)
    (mutation : CommittedMutation) : Reply :=
  if record.requestFingerprint = invocation.requestFingerprint then
    .responded mutation.response
  else if invocation.requestFingerprint.length = 32 then .raised .conflict
  else .raised .writeUnavailable

theorem World.Sees.unfinished
    {world : World β}
    {execution : Execution β}
    {record : CompletedResultRecord}
    (sees : world.Sees execution record) :
    ∀ reply, execution.stage ≠ .finished reply := by
  rintro reply finished
  have unexpired := sees.2
  rw [finished] at unexpired
  exact unexpired

/-- The classification of an unexpired row, for every fingerprint. -/
theorem RecordOf.classify_cases
    {aead : Aead}
    {keyring : Option IdempotencyKeyring}
    {record : CompletedResultRecord}
    {mutation : CommittedMutation}
    {invocation : IdempotencyInvocation}
    {nowEpoch : Int}
    (recordOf : RecordOf aead keyring invocation.resultIdentity record mutation)
    (unexpired : nowEpoch < record.expiresAtEpoch) :
    (classifyCompletedResult aead keyring invocation (some record) nowEpoch =
          .ok (.replayCandidate mutation.response) ∧
        seenReply record invocation mutation = .responded mutation.response) ∨
      ∃ error, classifyCompletedResult aead keyring invocation (some record) nowEpoch =
          .error error ∧
        seenReply record invocation mutation = .raised error ∧
        (error = .conflict ∨ error = .writeUnavailable) := by
  by_cases digest : invocation.requestFingerprint.length = 32
  · rw [recordOf.classify rfl digest unexpired]
    by_cases same : record.requestFingerprint = invocation.requestFingerprint
    · rw [if_pos same]
      exact .inl ⟨rfl, if_pos same⟩
    · rw [if_neg same]
      refine .inr ⟨.conflict, rfl, ?_, .inl rfl⟩
      rw [seenReply, if_neg same, if_pos digest]
  · have different : record.requestFingerprint ≠ invocation.requestFingerprint := by
      intro same
      have checked := recordOf.checked
      simp only [CompletedResultRecord.check, Bool.and_eq_true, decide_eq_true_eq] at checked
      exact digest (same ▸ checked.1.1.1.1.1.1.1.2)
    rw [classify_malformed digest]
    refine .inr ⟨.writeUnavailable, rfl, ?_, .inr rfl⟩
    rw [seenReply, if_neg different, if_neg digest]

/-- A held reservation is used by no stored result. -/
theorem not_resultUsesReservationNonce
    {sha256 : Bytes → Bytes}
    {aead : Aead}
    {keyring : Option IdempotencyKeyring}
    {world : World β}
    (discipline : NonceDiscipline sha256 world)
    (faithful : ResultsFaithful aead keyring world)
    {id : Nat}
    {execution : Execution β}
    {reservation : CryptoReservation}
    (found : world.executions id = some execution)
    (held : execution.stage.held = some reservation) :
    ¬resultUsesReservationNonce world.tables reservation.version reservation.nonce := by
  intro uses
  simp only [resultUsesReservationNonce, List.any_eq_true, decide_eq_true_eq] at uses
  obtain ⟨⟨identity, record⟩, present, sameVersion, sameNonce⟩ := uses
  have row := (Dict.get?_eq_some_iff _ _ _).mpr present
  obtain ⟨encryption, called, same⟩ := faithful.sealedRows identity record row
  apply (discipline.spent encryption called).released id
  exact ⟨execution, reservation, found, held, by rw [same, sameVersion, sameNonce]⟩

/-- A completion with a claimed reservation that no result uses goes by the
classification of the row. -/
theorem prepareCompletion_eq
    {aead : Aead}
    {keyring : Option IdempotencyKeyring}
    {invocation : IdempotencyInvocation}
    {reservation : CryptoReservation}
    {nowEpoch claimedAtEpoch : Int}
    {tables : Tables}
    (authentic : requireReservationAuthentic tables invocation reservation =
      .ok (some claimedAtEpoch))
    (unused : ¬resultUsesReservationNonce tables reservation.version reservation.nonce) :
    prepareCompletion aead keyring invocation reservation nowEpoch tables =
      (lookup aead keyring tables invocation nowEpoch).map fun
        | .replayCandidate response => .replay response
        | .proceedToReservation =>
            .proceed { tables with results := tables.results.erase invocation.resultIdentity } := by
  have claimed : ensure (some claimedAtEpoch).isSome IdempotencyError.writeUnavailable =
      .ok () := rfl
  have free : ensure (¬resultUsesReservationNonce tables reservation.version reservation.nonce)
      IdempotencyError.writeUnavailable = .ok () := if_pos unused
  simp only [prepareCompletion, authentic, claimed, free, lookup, bind, Except.bind]
  cases classifyCompletedResult aead keyring invocation
      (tables.results.get? invocation.resultIdentity) nowEpoch with
  | error error => rfl
  | ok classified => cases classified <;> rfl

/-- A completion that does not reach its mutation only ends the execution. -/
theorem completion_of_replay
    {aead : Aead}
    {world : World β}
    {execution : Execution β}
    {reservation : CryptoReservation}
    {response : PreSerializedHttpResponse}
    (prepares : prepareCompletion aead execution.keyring execution.invocation reservation
      world.epoch world.tables = .ok (.replay response))
    (id : Nat)
    (fate : Fate) :
    ∃ reply, world.completion aead id execution fate reservation =
        world.finish id execution reply ∧
      (fate = .commits → reply = .responded response) := by
  simp only [World.completion, completeInTransaction, prepares, World.observe_uncalled]
  cases fate with
  | commits => exact ⟨_, rfl, fun _ => rfl⟩
  | rollsBack interruption =>
      refine ⟨_, rfl, ?_⟩
      intro commits
      cases commits
  | unreported =>
      refine ⟨_, rfl, ?_⟩
      intro commits
      cases commits

theorem completion_of_error
    {aead : Aead}
    {world : World β}
    {execution : Execution β}
    {reservation : CryptoReservation}
    {error : IdempotencyError}
    (prepares : prepareCompletion aead execution.keyring execution.invocation reservation
      world.epoch world.tables = .error error)
    (id : Nat)
    (fate : Fate) :
    ∃ reply, world.completion aead id execution fate reservation =
        world.finish id execution reply ∧
      (fate = .commits → reply = .raised (replyError error)) := by
  simp only [World.completion, completeInTransaction, prepares, World.observe_uncalled]
  cases fate with
  | commits => exact ⟨_, rfl, fun _ => rfl⟩
  | rollsBack interruption =>
      refine ⟨_, rfl, ?_⟩
      intro commits
      cases commits
  | unreported =>
      refine ⟨_, rfl, ?_⟩
      intro commits
      cases commits

/-- An execution that sees an unexpired result ends in its next step, with the
reply that the result calls for unless it is disturbed. -/
theorem advance_of_sees
    {sha256 : Bytes → Bytes}
    {aead : Aead}
    {world : World β}
    {id : Nat}
    {execution : Execution β}
    {record : CompletedResultRecord}
    {mutation : CommittedMutation}
    (discipline : NonceDiscipline sha256 world)
    (faithful : ResultsFaithful aead execution.keyring world)
    (found : world.executions id = some execution)
    (sees : world.Sees execution record)
    (recordOf : RecordOf aead execution.keyring execution.invocation.resultIdentity record
      mutation)
    (surroundings : Surroundings) :
    ∃ reply, world.advance aead id execution surroundings = world.finish id execution reply ∧
      (surroundings.Undisturbed → reply = seenReply record execution.invocation mutation) := by
  obtain ⟨row, unexpired⟩ := sees
  unfold World.advance
  cases stage : execution.stage with
  | lookingUp nowEpoch =>
      rw [stage] at unexpired
      dsimp only
      split
      · next fails => exact ⟨_, rfl, fun undisturbed => by simp [undisturbed.1] at fails⟩
      · rw [lookup, row]
        rcases recordOf.classify_cases unexpired with
          ⟨classifies, seen⟩ | ⟨_, classifies, seen, -⟩
        · rw [classifies]
          exact ⟨_, rfl, fun _ => seen.symm⟩
        · rw [classifies]
          exact ⟨_, rfl, fun _ => seen.symm⟩
  | lookingAgain reservation nowEpoch =>
      rw [stage] at unexpired
      dsimp only
      split
      · next fails => exact ⟨_, rfl, fun undisturbed => by simp [undisturbed.1] at fails⟩
      · rw [lookup, row]
        rcases recordOf.classify_cases unexpired with
          ⟨classifies, seen⟩ | ⟨_, classifies, seen, kind⟩
        · rw [classifies]
          exact ⟨_, rfl, fun _ => seen.symm⟩
        · rw [classifies]
          rcases kind with rfl | rfl <;> exact ⟨_, rfl, fun _ => seen.symm⟩
  | completing reservation =>
      rw [stage] at unexpired
      obtain ⟨⟨claimedAtEpoch, authentic⟩, unexpired⟩ := unexpired
      have unused := not_resultUsesReservationNonce discipline faithful found
        (by rw [stage]; rfl : execution.stage.held = some reservation)
      have prepares := @prepareCompletion_eq aead execution.keyring _ _ world.epoch _ _
        authentic unused
      rw [lookup, row] at prepares
      rcases recordOf.classify_cases unexpired with
        ⟨classifies, seen⟩ | ⟨_, classifies, seen, kind⟩
      · rw [classifies] at prepares
        obtain ⟨reply, finishes, undisturbedReply⟩ :=
          completion_of_replay prepares id surroundings.fate
        exact ⟨reply, finishes, fun undisturbed =>
          (undisturbedReply undisturbed.2).trans seen.symm⟩
      · rw [classifies] at prepares
        obtain ⟨reply, finishes, undisturbedReply⟩ :=
          completion_of_error prepares id surroundings.fate
        refine ⟨reply, finishes, fun undisturbed => ?_⟩
        rw [undisturbedReply undisturbed.2, seen]
        rcases kind with rfl | rfl <;> rfl
  | _ =>
      rw [stage] at unexpired
      exact unexpired.elim

/-! ## Runs -/

/-- Every world of a run with one keyring. -/
theorem faithful_run
    {sha256 : Bytes → Bytes}
    {aead : Aead}
    (roundTrips : aead.RoundTrips)
    {keyring : Option IdempotencyKeyring}
    {operations : List (Operation β)}
    (unchanged : KeyringUnchanged sha256 keyring operations)
    (epoch : Int)
    (rest : β) :
    let world := run sha256 aead (World.initial epoch rest) operations
    SameKeyring keyring world ∧ ResultsFaithful aead keyring world := by
  have runs : ∀ world : World β, SameKeyring keyring world →
      ResultsFaithful aead keyring world →
        SameKeyring keyring (run sha256 aead world operations) ∧
          ResultsFaithful aead keyring (run sha256 aead world operations) := by
    induction operations with
    | nil => exact fun world same faithful => ⟨same, faithful⟩
    | cons operation later inductionHypothesis =>
        intro world same faithful
        have unchangedHead : KeyringUnchanged sha256 keyring [operation] := by
          intro env exactNonceCounts fate loaded present
          rw [List.mem_singleton] at present
          exact unchanged env exactNonceCounts fate loaded (present ▸ List.mem_cons_self)
        have unchangedLater : KeyringUnchanged sha256 keyring later := by
          intro env exactNonceCounts fate loaded present
          exact unchanged env exactNonceCounts fate loaded
            (List.mem_cons_of_mem operation present)
        exact inductionHypothesis unchangedLater _ (same.step aead unchangedHead)
          (faithful.step roundTrips same operation)
  apply runs
  · exact ⟨by simp [World.initial], by simp [World.initial], by simp [World.initial]⟩
  · exact .initial epoch rest

/-- An execution that has not ended has neither called nor committed its mutation. -/
theorem untouched_of_unended
    {world : World β}
    {epoch : Int}
    {rest : β}
    (progressed : (World.initial epoch rest).Progress world)
    {id : Nat}
    (unended : world.reply id = none) :
    id ∉ world.calls ∧ ∀ mutation ∈ world.mutations, mutation.execution ≠ id := by
  have endless : ¬(World.initial epoch rest).Ends world id := by
    intro ends
    have ended := ends.2
    rw [unended] at ended
    cases ended
  constructor
  · intro called
    rcases progressed.calls id called with before | ends
    · cases before
    · exact endless ends
  · rintro mutation present rfl
    rcases progressed.mutations mutation present with before | ends
    · cases before
    · exact endless ends

/-- Over every run in which the services keep one keyring, mutations of one
identity with stored results are separated by the expiry of the first.  An
execution that sees an unexpired stored result ends with the response of the
committed mutation, or with a conflict when its fingerprint is another one, and
in no later world has it called or committed its mutation. -/
theorem idempotent_execution_at_most_once
    {sha256 : Bytes → Bytes}
    {aead : Aead}
    (roundTrips : aead.RoundTrips)
    {keyring : Option IdempotencyKeyring}
    {operations : List (Operation β)}
    (unchanged : KeyringUnchanged sha256 keyring operations)
    (epoch : Int)
    (rest : β) :
    let world := run sha256 aead (World.initial epoch rest) operations
    world.mutations.Pairwise CommittedMutation.Separated ∧
      ∀ id execution record, world.executions id = some execution →
        world.Sees execution record →
          (∃ mutation ∈ world.mutations,
            mutation.invocation.resultIdentity = execution.invocation.resultIdentity ∧
            mutation.invocation.requestFingerprint = record.requestFingerprint ∧
            mutation.expiresAtEpoch = some record.expiresAtEpoch ∧
            ∀ surroundings : Surroundings, surroundings.Undisturbed →
              (record.requestFingerprint = execution.invocation.requestFingerprint →
                (step sha256 aead world (.advance id surroundings)).reply id =
                  some (.responded mutation.response)) ∧
              (record.requestFingerprint ≠ execution.invocation.requestFingerprint →
                execution.invocation.requestFingerprint.length = 32 →
                  (step sha256 aead world (.advance id surroundings)).reply id =
                    some (.raised .conflict))) ∧
          ∀ surroundings later,
            (step sha256 aead world (.advance id surroundings)).rest = world.rest ∧
            id ∉ (run sha256 aead world (.advance id surroundings :: later)).calls ∧
            ∀ mutation ∈ (run sha256 aead world (.advance id surroundings :: later)).mutations,
              mutation.execution ≠ id := by
  intro world
  obtain ⟨same, faithful⟩ := faithful_run roundTrips unchanged epoch rest
  have discipline := nonceDiscipline_run sha256 aead epoch rest operations
  have progressed := run_progress sha256 aead (World.initial epoch rest) operations
  refine ⟨faithful.separated, ?_⟩
  intro id execution record found sees
  obtain rfl : execution.keyring = keyring := same.executions id execution found
  obtain ⟨mutation, committed, recordOf⟩ := faithful.records _ record sees.1
  have steps : ∀ surroundings, ∃ reply,
      step sha256 aead world (.advance id surroundings) = world.finish id execution reply ∧
        (surroundings.Undisturbed → reply = seenReply record execution.invocation mutation) := by
    intro surroundings
    simp only [step, found]
    exact advance_of_sees discipline faithful found sees recordOf surroundings
  refine ⟨⟨mutation, committed, recordOf.identity_eq, recordOf.fingerprint_eq.symm,
    recordOf.expires_eq, ?_⟩, ?_⟩
  · intro surroundings undisturbed
    obtain ⟨reply, finishes, replies⟩ := steps surroundings
    rw [finishes, World.reply_finish, replies undisturbed, seenReply]
    constructor
    · intro same
      rw [if_pos same]
    · intro different digest
      rw [if_neg different, if_pos digest]
  · intro surroundings later
    obtain ⟨reply, finishes, -⟩ := steps surroundings
    have unended : world.reply id = none := World.reply_eq_none found sees.unfinished
    obtain ⟨uncalled, uncommitted⟩ := untouched_of_unended progressed unended
    have after := run_progress sha256 aead (world.finish id execution reply) later
    have ended := World.reply_finish world id execution reply
    change (step sha256 aead world (.advance id surroundings)).rest = world.rest ∧
      id ∉ (run sha256 aead (step sha256 aead world (.advance id surroundings)) later).calls ∧
      ∀ mutation ∈
        (run sha256 aead (step sha256 aead world (.advance id surroundings)) later).mutations,
        mutation.execution ≠ id
    rw [finishes]
    refine ⟨rfl, ?_, ?_⟩
    · intro called
      rcases after.calls id called with before | ends
      · exact uncalled before
      · rw [ends.1] at ended
        cases ended
    · rintro other present rfl
      rcases after.mutations other present with before | ends
      · exact uncommitted other before rfl
      · rw [ends.1] at ended
        cases ended

/-! ## A run with a replay -/

def sampleMaterial : Bytes := (List.range 32).map UInt8.ofNat

def sampleCommitment : Bytes :=
  [108, 255, 216, 146, 240, 129, 113, 1, 215, 194, 217, 147, 123, 87, 151, 44, 46, 247, 18,
    173, 32, 80, 213, 98, 235, 145, 209, 119, 175, 193, 196, 132]

/-- SHA-256 on the commitment input of the sample key. -/
def sampleSha256 (input : Bytes) : Bytes :=
  if input = keyCommitmentDomain ++ sampleMaterial then sampleCommitment else []

def sampleKeyring : IdempotencyKeyring :=
  let key := { version := "k1", material := sampleMaterial, commitment := sampleCommitment }
  { activeKey := key, decryptionKeys := [key] }

def sampleEnv : Dict String String where
  entries := [
    (keyringEnv, "\x7b\"k1\": \"AAECAwQFBgcICQoLDA0ODxAREhMUFRYXGBkaGxwdHh8=\"\x7d"),
    (activeVersionEnv, "k1")]
  keysDistinct := by decide

def sampleInvocation : IdempotencyInvocation where
  workspaceId := "w"
  principal := "p"
  operation := "o"
  keyHash := [44, 112, 225, 43, 122, 6, 70, 249, 34, 121, 244, 39, 199, 179, 142, 115, 52, 216,
    229, 56, 156, 255, 22, 122, 29, 195, 14, 115, 248, 38, 182, 131]
  requestFingerprint := List.replicate 32 7
  maxTerminalTtlSeconds := 86400

def sampleResponse : PreSerializedHttpResponse where
  statusCode := 201
  contentType := .applicationJson
  body := [123, 125]
  observation := { errorCode := none, decision := none }

def sampleNonce : Bytes := (List.range 12).map fun index => UInt8.ofNat (index + 100)

def sampleEpoch : Int := 1700000000

/-- The cipher call that seals the sample response. -/
def sampleCall : Option CipherCall :=
  (encryptOutcome (some sampleKeyring) sampleInvocation
    { version := "k1", slot := 1, nonce := sampleNonce, reservedAtEpoch := sampleEpoch }
    sampleResponse sampleEpoch (sampleEpoch + 86400)).toOption.map Prod.snd

def sampleCiphertext : Bytes :=
  [62, 114, 176, 5, 13, 134, 36, 164, 87, 6, 58, 133, 170, 10, 30, 152, 44, 161, 127, 39, 249,
    9, 128, 2, 200, 191, 223, 45, 214, 211, 201, 41, 253, 135, 52, 165, 52, 102, 161, 114, 204,
    243, 120, 63, 255, 57, 183, 207, 27, 69, 249, 73, 86, 223, 96, 184, 143, 146, 134, 78, 82,
    23, 186, 153, 201]

/-- AES-256-GCM on the sample call. -/
def sampleAead : Aead where
  encrypt := fun key nonce plaintext associatedData =>
    if sampleCall = some { key, nonce, plaintext, associatedData } then some sampleCiphertext
    else none
  decrypt := fun key nonce ciphertext associatedData =>
    sampleCall.bind fun call =>
      if call.key = key ∧ call.nonce = nonce ∧ call.associatedData = associatedData ∧
          ciphertext = sampleCiphertext then some call.plaintext
      else none

def sampleMutation : IdempotencyMutation Nat :=
  fun count => some ({ response := sampleResponse }, count + 1)

def sampleOperations : List (Operation Nat) :=
  [.register sampleEnv true .commits,
    .openStore (some sampleKeyring) .commits,
    .begin 0 (some sampleKeyring) sampleInvocation sampleMutation,
    .advance 0 {}, .advance 0 {}, .advance 0 { nonce := some sampleNonce },
    .advance 0 {}, .advance 0 {}, .advance 0 {}, .advance 0 {},
    .begin 1 (some sampleKeyring) sampleInvocation sampleMutation,
    .advance 1 {}]

/-- The world in which the second execution is about to look its result up. -/
def sampleWorld : World Nat :=
  run sampleSha256 sampleAead (World.initial sampleEpoch 0) sampleOperations

theorem sampleAead_roundTrips : sampleAead.RoundTrips := by
  intro key nonce plaintext associatedData ciphertext seals
  simp only [sampleAead] at seals ⊢
  split at seals
  · next isCall =>
      rw [isCall]
      simp [← Option.some.inj seals]
  · cases seals

theorem sampleKeyring_unchanged :
    KeyringUnchanged sampleSha256 (some sampleKeyring) sampleOperations := by
  intro env exactNonceCounts fate loaded present loads
  obtain ⟨rfl, -⟩ : env = sampleEnv ∧ _ := by simpa [sampleOperations] using present
  have known : loadIdempotencyKeyring sampleSha256 sampleEnv = .ok (some sampleKeyring) := by
    decide +kernel
  rw [known] at loads
  exact (Except.ok.inj loads).symm

def sampleRecord : CompletedResultRecord where
  requestFingerprint := List.replicate 32 7
  formatVersion := 1
  statusCode := 201
  cipherKeyVersion := "k1"
  responseNonce := sampleNonce
  responseCiphertext := sampleCiphertext
  createdAtEpoch := sampleEpoch
  expiresAtEpoch := sampleEpoch + 86400

theorem sampleWorld_running :
    (sampleWorld.executions 1).map (fun execution => (execution.stage, execution.invocation)) =
      some (.lookingUp sampleEpoch, sampleInvocation) := by
  decide +kernel

theorem sampleWorld_stored :
    sampleWorld.rest = 1 ∧
      sampleWorld.tables.results.get? sampleInvocation.resultIdentity = some sampleRecord ∧
      sampleWorld.mutations.all (fun mutation => mutation.response = sampleResponse) := by
  decide +kernel

theorem sampleWorld_sees :
    ∃ execution, sampleWorld.executions 1 = some execution ∧
      execution.invocation = sampleInvocation ∧ sampleWorld.Sees execution sampleRecord := by
  obtain ⟨execution, found, isRunning⟩ := Option.map_eq_some_iff.mp sampleWorld_running
  obtain ⟨stage, invocation⟩ := Prod.mk.inj isRunning
  refine ⟨execution, found, invocation, ?_, ?_⟩
  · rw [invocation]
    exact sampleWorld_stored.2.1
  · rw [stage]
    change sampleEpoch < sampleEpoch + 86400
    omega

/-- The second execution of one request replays the response of the first. -/
theorem sample_execution_replays :
    (step sampleSha256 sampleAead sampleWorld (.advance 1 {})).reply 1 =
        some (.responded sampleResponse) ∧
      (step sampleSha256 sampleAead sampleWorld (.advance 1 {})).rest = 1 := by
  obtain ⟨execution, found, invocation, sees⟩ := sampleWorld_sees
  obtain ⟨rest, -, responses⟩ := sampleWorld_stored
  have isWorld : run sampleSha256 sampleAead (World.initial sampleEpoch 0) sampleOperations =
      sampleWorld := rfl
  have holds := idempotent_execution_at_most_once sampleAead_roundTrips
    sampleKeyring_unchanged sampleEpoch 0
  simp only [isWorld] at holds
  obtain ⟨-, seen⟩ := holds
  obtain ⟨⟨mutation, committed, -, -, -, replies⟩, untouched⟩ :=
    seen 1 execution sampleRecord found sees
  have sameFingerprint : sampleRecord.requestFingerprint =
      execution.invocation.requestFingerprint := by
    rw [invocation]
    rfl
  have replays := (replies {} ⟨rfl, rfl⟩).1 sameFingerprint
  have response : mutation.response = sampleResponse := by
    exact of_decide_eq_true (List.all_eq_true.mp responses mutation committed)
  rw [response] at replays
  exact ⟨replays, (untouched {} []).1.trans rest⟩

end Idempotency
end Vinctor
