import Vinctor.Foundation.Text
import Vinctor.Service.AuditWriting

/-!
# Tamper evidence

Two tables that pass the verification and carry the same hash at a position
have the same canonical JSON up to it, and a table that also agrees with the
anchored heads of an honest chain holds exactly that chain.  The hash function
is assumed to be free of collisions, nothing else.
-/

namespace Vinctor
namespace AuditChain

open Foundation

/-! ## The payload of a row hash is unambiguous -/

theorem hexDigit_injOn :
    ∀ left < 16, ∀ right < 16, Bytes.hexDigit left = Bytes.hexDigit right → left = right := by
  decide

theorem hexDigits_injective : Function.Injective Bytes.hexDigits := by
  intro left right equal
  induction left generalizing right with
  | nil =>
      cases right with
      | nil => rfl
      | cons byte rest => simp [Bytes.hexDigits] at equal
  | cons byte rest inductionHypothesis =>
      cases right with
      | nil => simp [Bytes.hexDigits] at equal
      | cons other others =>
          simp only [Bytes.hexDigits, List.flatMap_cons, List.cons_append, List.nil_append,
            List.cons.injEq] at equal
          obtain ⟨high, low, tail⟩ := equal
          have byteBound := byte.toNat_lt
          have otherBound := other.toNat_lt
          have highs := hexDigit_injOn _ (by omega) _ (by omega) high
          have lows := hexDigit_injOn _ (by omega) _ (by omega) low
          have bytes : byte = other := by
            apply UInt8.toNat_inj.mp
            omega
          rw [bytes, inductionHypothesis tail]

theorem newline_not_mem_hexDigits (bytes : Bytes) : '\n' ∉ Bytes.hexDigits bytes := by
  have digit : ∀ value < 16, Bytes.hexDigit value ≠ '\n' := by decide
  intro member
  obtain ⟨byte, -, inByte⟩ := List.mem_flatMap.mp member
  have bound := byte.toNat_lt
  simp only [List.mem_cons, List.not_mem_nil, or_false] at inByte
  rcases inByte with high | low
  · exact digit _ (by omega) high.symm
  · exact digit _ (by omega) low.symm

/-- Texts without a line break: the hashes of a chain. -/
def SingleLine (text : String) : Prop := '\n' ∉ text.toList

theorem singleLine_genesisPrevHash : SingleLine genesisPrevHash := by
  unfold SingleLine genesisPrevHash
  rw [String.toList_ofList]
  intro member
  exact absurd (List.eq_of_mem_replicate member) (by decide)

theorem singleLine_rowHash
    (sha256 : Bytes → Bytes)
    (seq : Int)
    (eventJson prevHash : String) :
    SingleLine (rowHash sha256 seq eventJson prevHash) := by
  unfold SingleLine rowHash
  rw [String.toList_ofList]
  exact newline_not_mem_hexDigits _

/-- The last line break of a payload separates the JSON text, which may hold
line breaks itself, from the previous hash. -/
theorem rowPayload_unambiguous
    {seq : Int}
    {eventJson eventJson' prevHash prevHash' : String}
    (line : SingleLine prevHash)
    (line' : SingleLine prevHash')
    (same : rowPayload seq eventJson prevHash = rowPayload seq eventJson' prevHash') :
    eventJson = eventJson' ∧ prevHash = prevHash' := by
  have characters := congrArg String.toList same
  simp only [rowPayload, String.toList_append, List.append_assoc,
    List.append_cancel_left_eq] at characters
  have reversed := congrArg List.reverse characters
  simp only [show "\n".toList = ['\n'] from rfl, List.singleton_append, List.reverse_append,
    List.reverse_cons, List.append_assoc] at reversed
  have cut :=
    Text.partition_append_separator (mt List.mem_reverse.mp line) eventJson.toList.reverse
  have cut' :=
    Text.partition_append_separator (mt List.mem_reverse.mp line') eventJson'.toList.reverse
  rw [reversed, cut'] at cut
  simp only [Prod.mk.injEq, List.reverse_inj, true_and, String.toList_inj] at cut
  exact ⟨cut.2.symm, cut.1.symm⟩

section CollisionFree

variable {sha256 : Bytes → Bytes} (collisionFree : Function.Injective sha256)

include collisionFree in
theorem rowHash_unambiguous
    (seq : Int)
    (eventJson eventJson' prevHash prevHash' : String)
    (line : SingleLine prevHash)
    (line' : SingleLine prevHash')
    (same : rowHash sha256 seq eventJson prevHash = rowHash sha256 seq eventJson' prevHash') :
    eventJson = eventJson' ∧ prevHash = prevHash' := by
  have digests := hexDigits_injective (String.ofList_injective same)
  exact rowPayload_unambiguous line line' (Bytes.utf8_injective (collisionFree digests))

include collisionFree in
/-- Two chains with the same hash at an index have the same JSON texts up to
it. -/
theorem eventJson_take_eq
    {rows others : List AuditRow}
    (chained : Chained sha256 genesisPrevHash 1 rows)
    (otherChained : Chained sha256 genesisPrevHash 1 others)
    {index : Nat}
    {row other : AuditRow}
    (atIndex : rows[index]? = some row)
    (otherAtIndex : others[index]? = some other)
    (sameHash : row.rowHash = other.rowHash) :
    (rows.take (index + 1)).map AuditRow.eventJson =
      (others.take (index + 1)).map AuditRow.eventJson := by
  have head : ∀ {chain : List AuditRow} {last : AuditRow}, chain[index]? = some last →
      HashChain.headDigest genesisPrevHash ((links chain).take (index + 1)) =
        last.rowHash.getD "" := by
    intro chain last atLast
    simp [HashChain.headDigest, links, List.getLast?_take, atLast, AuditRow.link]
  have bound := (List.getElem?_eq_some_iff.mp atIndex).1
  have otherBound := (List.getElem?_eq_some_iff.mp otherAtIndex).1
  have bodies := HashChain.bodies_eq_of_headDigest_eq
    (rowHash_unambiguous collisionFree) (singleLine_rowHash sha256) singleLine_genesisPrevHash
    (chained.linked.take (index + 1)) (otherChained.linked.take (index + 1))
    (by simp only [links, List.length_take, List.length_map]; omega)
    (by rw [head atIndex, head otherAtIndex, sameHash])
  have body : HashChain.Link.body ∘ AuditRow.link = AuditRow.eventJson := rfl
  simpa [links, List.map_take, body] using bodies

end CollisionFree

/-! ## Positions -/

variable {sha256 : Bytes → Bytes}

/-- Positions and JSON texts of the rows up to a position. -/
def storedUpTo (table : AuditTable) (seq : Int) : List (Option Int × String) :=
  ((orderedBySeq table).filter fun row => row.seq.any (· ≤ seq)).map fun row =>
    (row.seq, row.eventJson)

theorem Chained.filter_le
    {prev : String}
    {start : Int}
    {rows : List AuditRow}
    (chained : Chained sha256 prev start rows)
    (seq : Int) :
    (rows.filter fun row => row.seq.any (· ≤ seq)) = rows.take (seq + 1 - start).toNat := by
  induction rows generalizing prev start with
  | nil => simp
  | cons row rest inductionHypothesis =>
      obtain ⟨placed, -, -, -, chainedRest⟩ := chained
      have later := inductionHypothesis chainedRest
      by_cases within : start ≤ seq
      · have count : (seq + 1 - start).toNat = (seq + 1 - (start + 1)).toNat + 1 := by omega
        rw [List.filter_cons_of_pos (by simp [placed, within]), later, count,
          List.take_succ_cons]
      · have none : (seq + 1 - start).toNat = 0 := by omega
        have noneLater : (seq + 1 - (start + 1)).toNat = 0 := by omega
        rw [List.filter_cons_of_neg (by simp [placed]; omega), later, none, noneLater,
          List.take_zero, List.take_zero]

theorem Chained.take
    {prev : String}
    {start : Int}
    {rows : List AuditRow}
    (chained : Chained sha256 prev start rows)
    (count : Nat) :
    Chained sha256 prev start (rows.take count) := by
  induction rows generalizing prev start count with
  | nil => simp [Chained]
  | cons row rest inductionHypothesis =>
      cases count with
      | zero => trivial
      | succ count =>
          obtain ⟨placed, joined, hashed, matched, chainedRest⟩ := chained
          exact ⟨placed, joined, hashed, matched, inductionHypothesis chainedRest count⟩

/-- Chains from one position with the same JSON texts have them at the same
positions. -/
theorem Chained.stored_eq
    {prev otherPrev : String}
    {start : Int}
    {rows others : List AuditRow}
    (chained : Chained sha256 prev start rows)
    (otherChained : Chained sha256 otherPrev start others)
    (texts : rows.map AuditRow.eventJson = others.map AuditRow.eventJson) :
    (rows.map fun row => (row.seq, row.eventJson)) =
      others.map fun row => (row.seq, row.eventJson) := by
  induction rows generalizing prev otherPrev start others with
  | nil =>
      obtain rfl := List.map_eq_nil_iff.mp texts.symm
      rfl
  | cons row rest inductionHypothesis =>
      cases others with
      | nil => simp at texts
      | cons other others =>
          rw [List.map_cons, List.map_cons, List.cons.injEq] at texts
          obtain ⟨placed, -, -, -, chainedRest⟩ := chained
          obtain ⟨otherPlaced, -, -, -, otherChainedRest⟩ := otherChained
          rw [List.map_cons, List.map_cons, placed, otherPlaced, texts.1,
            inductionHypothesis chainedRest otherChainedRest texts.2]

/-- A row of a chain stands at the index of its position. -/
theorem Chained.getElem?_of_mem
    {prev : String}
    {start : Int}
    {rows : List AuditRow}
    (chained : Chained sha256 prev start rows)
    {row : AuditRow}
    (member : row ∈ rows)
    {seq : Int}
    (placed : row.seq = some seq) :
    start ≤ seq ∧ rows[(seq - start).toNat]? = some row := by
  obtain ⟨index, atIndex⟩ := List.mem_iff_getElem?.mp member
  have position := chained.seq_getElem? atIndex
  rw [placed, Option.some.injEq] at position
  have same : (seq - start).toNat = index := by omega
  rw [same]
  exact ⟨by omega, atIndex⟩

/-! ## Honest chains and their anchor -/

/-- Table that the writer builds from events, one after the other. -/
def honestChain (sha256 : Bytes → Bytes) (events : List AuditEvent) : Option AuditTable :=
  events.foldlM (writeEvent sha256) []

/-- Heads that the writes of a chain emit to the anchor. -/
def heads (chain : AuditTable) : List AnchorRecord :=
  chain.filterMap fun row =>
    match row.seq, row.rowHash with
    | some seq, some rowHash => some { seq, rowHash }
    | _, _ => none

/-- Tables on which the comparison with the anchor answers that all is well. -/
def VerifiesAnchor (table : AuditTable) (records : List AnchorRecord) : Prop :=
  ∃ result, verifyAgainstAnchor table records = some result ∧ result.ok = true

theorem chained_honestChain
    {events : List AuditEvent}
    {chain : AuditTable}
    (honest : honestChain sha256 events = some chain) :
    Chained sha256 genesisPrevHash 1 chain := by
  have continues : ∀ table, Chained sha256 genesisPrevHash 1 table →
      events.foldlM (writeEvent sha256) table = some chain →
      Chained sha256 genesisPrevHash 1 chain := by
    clear honest
    induction events with
    | nil =>
        intro table chained done
        obtain rfl := Option.some.inj done
        exact chained
    | cons event rest inductionHypothesis =>
        intro table chained runs
        rw [List.foldlM_cons, Option.bind_eq_bind, Option.bind_eq_some_iff] at runs
        obtain ⟨next, writes, runs⟩ := runs
        exact inductionHypothesis next (chained.write writes).1 runs
  exact continues [] trivial honest

theorem mem_heads
    {chain : AuditTable}
    {row : AuditRow}
    (member : row ∈ chain)
    {seq : Int}
    {hash : String}
    (placed : row.seq = some seq)
    (hashed : row.rowHash = some hash) :
    { seq, rowHash := hash } ∈ heads chain :=
  List.mem_filterMap.mpr ⟨row, member, by simp only [placed, hashed]⟩

theorem exists_row_of_mem_heads
    {chain : AuditTable}
    {record : AnchorRecord}
    (member : record ∈ heads chain) :
    ∃ row ∈ chain, row.seq = some record.seq ∧ row.rowHash = some record.rowHash := by
  obtain ⟨row, inChain, head⟩ := List.mem_filterMap.mp member
  split at head
  · next seq hash placed hashed =>
      obtain rfl := Option.some.inj head
      exact ⟨row, inChain, placed, hashed⟩
  · simp at head

/-- Records that pass are all found in the table, and they reach its head. -/
theorem verifyRecords_ok
    {table : AuditTable}
    {headSeq covered : Int}
    {total : Nat}
    {records : List AnchorRecord}
    (ok : (verifyRecords table headSeq total covered records).ok = true) :
    (∀ record ∈ records, ∃ row ∈ table,
      row.seq = some record.seq ∧ row.rowHash = some record.rowHash) ∧
      (headSeq ≤ covered ∨ ∃ record ∈ records, headSeq ≤ record.seq) := by
  induction records generalizing covered with
  | nil =>
      rw [verifyRecords] at ok
      split at ok
      · simp at ok
      · next reached => exact ⟨by simp, Or.inl (by omega)⟩
  | cons record rest inductionHypothesis =>
      rw [verifyRecords] at ok
      split at ok
      · simp at ok
      · next row found =>
          split at ok
          · simp at ok
          · next same =>
              obtain ⟨others, reached⟩ := inductionHypothesis ok
              have placed : row.seq = some record.seq := by
                simpa using List.find?_some found
              have inTable := List.mem_of_find?_eq_some found
              refine ⟨?_, ?_⟩
              · intro other member
                rcases List.mem_cons.mp member with rfl | inRest
                · exact ⟨row, inTable, placed, not_not.mp same⟩
                · exact others other inRest
              · rcases reached with reached | ⟨other, inRest, reached⟩
                · rcases le_max_iff.mp reached with reached | reached
                  · exact Or.inl reached
                  · exact Or.inr ⟨record, List.mem_cons_self, reached⟩
                · exact Or.inr ⟨other, List.mem_cons_of_mem record inRest, reached⟩

/-! ## What a verified table commits to -/

section CollisionFree

variable (collisionFree : Function.Injective sha256)

include collisionFree in
theorem storedUpTo_eq_of_same_hash
    {table other : AuditTable}
    (verifies : VerifiesChain sha256 table)
    (otherVerifies : VerifiesChain sha256 other)
    {row otherRow : AuditRow}
    (member : row ∈ table)
    (otherMember : otherRow ∈ other)
    {seq : Int}
    (placed : row.seq = some seq)
    (otherPlaced : otherRow.seq = some seq)
    (sameHash : row.rowHash = otherRow.rowHash) :
    storedUpTo table seq = storedUpTo other seq := by
  have chained := verifies.chained
  have otherChained := otherVerifies.chained
  have inOrder := chained.getElem?_of_mem ((List.mem_insertionSort _).mpr member) placed
  have otherInOrder :=
    otherChained.getElem?_of_mem ((List.mem_insertionSort _).mpr otherMember) otherPlaced
  have texts := eventJson_take_eq collisionFree chained otherChained inOrder.2 otherInOrder.2
    sameHash
  have count : (seq + 1 - 1).toNat = (seq - 1).toNat + 1 := by omega
  unfold storedUpTo
  rw [chained.filter_le, otherChained.filter_le, count]
  exact (chained.take _).stored_eq (otherChained.take _) texts

include collisionFree in
theorem holds_anchored_chain
    {events : List AuditEvent}
    {chain table : AuditTable}
    {records : List AnchorRecord}
    (honest : honestChain sha256 events = some chain)
    (anchored : ∀ record, record ∈ records ↔ record ∈ heads chain)
    (verifies : VerifiesChain sha256 table)
    (agrees : VerifiesAnchor table records) :
    table.length = chain.length ∧
      (orderedBySeq table).map AuditRow.eventJson = chain.map AuditRow.eventJson := by
  have chained := verifies.chained
  have honestChained := chained_honestChain honest
  have sameLength : (orderedBySeq table).length = table.length :=
    List.length_insertionSort _ table
  obtain ⟨result, compared, ok⟩ := agrees
  simp only [verifyAgainstAnchor, chained.chainHead_eq, Option.map_some, Option.some.injEq]
    at compared
  rw [← compared] at ok
  obtain ⟨found, reached⟩ := verifyRecords_ok ok
  have atMost : table.length ≤ chain.length := by
    rcases reached with none | ⟨record, member, reached⟩
    · omega
    · obtain ⟨row, inChain, placed, -⟩ := exists_row_of_mem_heads ((anchored record).mp member)
      have position := honestChained.getElem?_of_mem inChain placed
      have bound := (List.getElem?_eq_some_iff.mp position.2).1
      omega
  cases last : chain.getLast? with
  | none =>
      obtain rfl := List.getLast?_eq_none_iff.mp last
      have empty : table.length = 0 := Nat.le_zero.mp atMost
      have none := List.eq_nil_of_length_eq_zero (sameLength.trans empty)
      exact ⟨empty, by rw [none]⟩
  | some row =>
      -- The head of the honest chain is anchored, so the table holds its hash
      -- at the same position.
      have atLast : chain[chain.length - 1]? = some row := by
        rw [← List.getLast?_eq_getElem?, last]
      have inChain := List.mem_of_getLast? last
      have placed := honestChained.seq_getElem? atLast
      obtain ⟨hash, hashed⟩ := honestChained.hashed_of_mem inChain
      have positive := (List.getElem?_eq_some_iff.mp atLast).1
      obtain ⟨held, inTable, heldPlaced, heldHashed⟩ :=
        found _ ((anchored _).mpr (mem_heads inChain placed hashed))
      have heldAt :=
        (chained.getElem?_of_mem ((List.mem_insertionSort _).mpr inTable) heldPlaced).2
      have index : ((1 : Int) + ((chain.length - 1 : Nat) : Int) - 1).toNat =
          chain.length - 1 := by
        omega
      rw [index] at heldAt
      have bound := (List.getElem?_eq_some_iff.mp heldAt).1
      have lengths : table.length = chain.length := by omega
      have texts := eventJson_take_eq collisionFree chained honestChained heldAt atLast
        (heldHashed.trans hashed.symm)
      have whole : chain.length - 1 + 1 = chain.length := by omega
      rw [whole, List.take_of_length_le (by omega), List.take_of_length_le (by omega)] at texts
      exact ⟨lengths, texts⟩

end CollisionFree

/-- Tamper evidence.  Tables that pass the verification and have the same hash
at a position store the same events up to it; a table that also passes the
comparison with the heads of an honest chain, given in any order and any
number of times, stores exactly the events of that chain. -/
theorem verified_table_commits_to_history
    {sha256 : Bytes → Bytes}
    (collisionFree : Function.Injective sha256) :
    (∀ (table other : AuditTable) (row otherRow : AuditRow) (seq : Int),
      VerifiesChain sha256 table → VerifiesChain sha256 other →
      row ∈ table → otherRow ∈ other → row.seq = some seq → otherRow.seq = some seq →
      row.rowHash = otherRow.rowHash →
      storedUpTo table seq = storedUpTo other seq) ∧
    (∀ (events : List AuditEvent) (chain table : AuditTable) (records : List AnchorRecord),
      honestChain sha256 events = some chain →
      (∀ record, record ∈ records ↔ record ∈ heads chain) →
      VerifiesChain sha256 table → VerifiesAnchor table records →
      table.length = chain.length ∧
        (orderedBySeq table).map AuditRow.eventJson = chain.map AuditRow.eventJson) := by
  constructor
  · intro table other row otherRow seq verifies otherVerifies member otherMember placed
      otherPlaced sameHash
    exact storedUpTo_eq_of_same_hash collisionFree verifies otherVerifies member otherMember
      placed otherPlaced sameHash
  · intro events chain table records honest anchored verifies agrees
    exact holds_anchored_chain collisionFree honest anchored verifies agrees

/-! ### A chain of two events

The sample hash function gives SHA-256 on the payloads of the two sample rows,
and on every other payload a longer digest that contains the payload, so that
it is free of collisions.
-/

def sampleEvent (eventId : String) : AuditEvent where
  eventId := eventId
  eventType := "action_permitted"
  decision := .permit
  reason := "scope_match"
  workspaceId := "ws"
  agentId := "a"
  grantId := "g"
  grantRef := "r"
  action := "read"
  resource := "repo/x"
  scopeAttempted := "read:repo/x"
  scopeMatched := some "read:repo/*"
  boundaryId := none
  runtime := none
  boundaryType := none
  createdAt := 0

def sampleJson (eventId : String) : String := (sampleEvent eventId).toJson.getD ""

def firstDigest : Bytes :=
  [103, 16, 42, 233, 101, 11, 93, 155, 2, 210, 138, 228, 75, 44, 19, 4, 62, 103, 12,
    157, 247, 235, 2, 126, 240, 187, 227, 151, 158, 33, 35, 23]

def secondDigest : Bytes :=
  [146, 15, 125, 12, 241, 73, 178, 154, 249, 166, 246, 148, 153, 137, 237, 171, 129,
    237, 190, 101, 181, 196, 186, 74, 206, 25, 6, 79, 120, 91, 48, 133]

def firstHash : String := String.ofList (Bytes.hexDigits firstDigest)

def secondHash : String := String.ofList (Bytes.hexDigits secondDigest)

def firstPayload : Bytes := Bytes.utf8 (rowPayload 1 (sampleJson "evt_1") genesisPrevHash)

def secondPayload : Bytes := Bytes.utf8 (rowPayload 2 (sampleJson "evt_2") firstHash)

def sampleSha256 (payload : Bytes) : Bytes :=
  if payload = firstPayload then firstDigest
  else if payload = secondPayload then secondDigest
  else List.replicate 33 0 ++ payload

def firstRow : AuditRow :=
  eventRow (sampleEvent "evt_1") (sampleJson "evt_1") 1 (some genesisPrevHash) firstHash

def secondRow : AuditRow :=
  eventRow (sampleEvent "evt_2") (sampleJson "evt_2") 2 (some firstHash) secondHash

theorem sampleSha256_injective : Function.Injective sampleSha256 := by
  have longer : ∀ digest : Bytes, digest.length = 32 → ∀ payload,
      digest ≠ List.replicate 33 0 ++ payload := by
    intro digest short payload equal
    have lengths := congrArg List.length equal
    rw [List.length_append, List.length_replicate, short] at lengths
    omega
  have first := longer firstDigest rfl
  have second := longer secondDigest rfl
  have different : firstDigest ≠ secondDigest := by decide
  intro left right equal
  unfold sampleSha256 at equal
  split_ifs at equal with leftFirst rightFirst rightSecond leftSecond rightFirst rightSecond
    rightFirst rightSecond
  · rw [leftFirst, rightFirst]
  · exact absurd equal different
  · exact absurd equal (first right)
  · exact absurd equal.symm different
  · rw [leftSecond, rightSecond]
  · exact absurd equal (second right)
  · exact absurd equal.symm (first left)
  · exact absurd equal.symm (second left)
  · exact List.append_cancel_left equal

theorem sampleSha256_first :
    rowHash sampleSha256 1 (sampleJson "evt_1") genesisPrevHash = firstHash := by
  have digest : sampleSha256 firstPayload = firstDigest := if_pos rfl
  unfold rowHash
  rw [← firstPayload, digest]
  rfl

theorem sampleSha256_second :
    rowHash sampleSha256 2 (sampleJson "evt_2") firstHash = secondHash := by
  have different : secondPayload ≠ firstPayload := by
    intro equal
    have texts := congrArg String.toList (Bytes.utf8_injective equal)
    simp only [rowPayload, String.toList_append, List.append_assoc,
      show (toString (1 : Int)).toList = ['1'] from rfl,
      show (toString (2 : Int)).toList = ['2'] from rfl, List.cons_append, List.cons.injEq]
      at texts
    exact absurd texts.1 (by decide)
  have digest : sampleSha256 secondPayload = secondDigest := by
    rw [sampleSha256, if_neg different, if_pos rfl]
  unfold rowHash
  rw [← secondPayload, digest]
  rfl

theorem toJson_sampleEvent
    {eventId : String}
    (rendered : (sampleEvent eventId).toJson.isSome = true) :
    (sampleEvent eventId).toJson = some (sampleJson eventId) := by
  obtain ⟨text, isText⟩ := Option.isSome_iff_exists.mp rendered
  rw [sampleJson, isText, Option.getD_some]

theorem writeEvent_first :
    writeEvent sampleSha256 [] (sampleEvent "evt_1") = some [firstRow] := by
  have rendered : (sampleEvent "evt_1").toJson = some (sampleJson "evt_1") :=
    toJson_sampleEvent (by decide +kernel)
  have head : chainHead [] = (some 0, some genesisPrevHash) := rfl
  simp [writeEvent, nextRow, head, rendered, insertRow, sampleSha256_first, firstRow]

theorem writeEvent_second :
    writeEvent sampleSha256 [firstRow] (sampleEvent "evt_2") = some [firstRow, secondRow] := by
  have rendered : (sampleEvent "evt_2").toJson = some (sampleJson "evt_2") :=
    toJson_sampleEvent (by decide +kernel)
  have head : chainHead [firstRow] = (some 1, some firstHash) := rfl
  have next : nextRow sampleSha256 [firstRow] (sampleEvent "evt_2") = some secondRow := by
    simp [nextRow, head, rendered, sampleSha256_second, secondRow]
  have inserted : insertRow [firstRow] secondRow = some [firstRow, secondRow] := by
    simp [insertRow, firstRow, secondRow, eventRow, sampleEvent]
  rw [writeEvent, next, Option.bind_some, inserted]

theorem sample_tables_commit :
    VerifiesChain sampleSha256 [secondRow, firstRow] ∧
      VerifiesAnchor [secondRow, firstRow] (heads [secondRow, firstRow, secondRow]) ∧
      storedUpTo [firstRow] 1 = storedUpTo [secondRow, firstRow] 1 ∧
      (orderedBySeq [secondRow, firstRow]).map AuditRow.eventJson =
        [firstRow, secondRow].map AuditRow.eventJson := by
  have single : honestChain sampleSha256 [sampleEvent "evt_1"] = some [firstRow] := by
    simp [honestChain, writeEvent_first]
  have double : honestChain sampleSha256 [sampleEvent "evt_1", sampleEvent "evt_2"] =
      some [firstRow, secondRow] := by
    simp [honestChain, writeEvent_first, writeEvent_second]
  have chained := chained_honestChain double
  have verifies : VerifiesChain sampleSha256 [firstRow] :=
    ⟨_, (chained_honestChain single).verifyChain_eq, rfl⟩
  have swapped : VerifiesChain sampleSha256 [secondRow, firstRow] := by
    refine ⟨_, Eq.trans ?_ chained.verifyChain_eq, rfl⟩
    rw [verifyChain, verifyChain, chained.ordered]
    rfl
  have agrees : VerifiesAnchor [secondRow, firstRow]
      (heads [secondRow, firstRow, secondRow]) := ⟨_, rfl, by decide⟩
  have committed := verified_table_commits_to_history sampleSha256_injective
  refine ⟨swapped, agrees, ?_, ?_⟩
  · exact committed.1 [firstRow] [secondRow, firstRow] firstRow firstRow 1 verifies swapped
      (by simp) (by simp) rfl rfl rfl
  · refine (committed.2 [sampleEvent "evt_1", sampleEvent "evt_2"] [firstRow, secondRow]
      [secondRow, firstRow] (heads [secondRow, firstRow, secondRow]) double ?_ swapped agrees).2
    intro record
    simp [heads, or_comm, or_left_comm]

end AuditChain
end Vinctor
