import Vinctor.Foundation.HashChain
import Vinctor.Service.AuditChain

/-!
# What the verification of the chain accepts

The verification accepts exactly the tables whose rows, by position, continue
each other from the genesis hash and agree with their canonical JSON.
-/

namespace Vinctor
namespace AuditChain

open Foundation

variable {sha256 : Bytes → Bytes}

/-- Rows that continue the chain from a hash and a position, each with columns
that agree with its canonical JSON. -/
def Chained (sha256 : Bytes → Bytes) : String → Int → List AuditRow → Prop
  | _, _, [] => True
  | prev, seq, row :: rest =>
      row.seq = some seq ∧ row.prevHash = some prev ∧
        row.rowHash = some (rowHash sha256 seq row.eventJson prev) ∧
        rowColumnsMatch row = some true ∧
        Chained sha256 (rowHash sha256 seq row.eventJson prev) (seq + 1) rest

/-- A row as a link of a hash chain. -/
def AuditRow.link (row : AuditRow) : HashChain.Link String String where
  position := row.seq.getD 0
  previous := row.prevHash.getD ""
  digest := row.rowHash.getD ""
  body := row.eventJson

def links (rows : List AuditRow) : List (HashChain.Link String String) :=
  rows.map AuditRow.link

/-- Hash after the rows of a chain. -/
def headHash (start : String) (rows : List AuditRow) : String :=
  HashChain.headDigest start (links rows)

theorem AuditRow.digest_link
    {row : AuditRow}
    {hash : String}
    (hashed : row.rowHash = some hash) :
    row.link.digest = hash := by
  simp [AuditRow.link, hashed]

theorem headHash_cons
    {row : AuditRow}
    {hash : String}
    (hashed : row.rowHash = some hash)
    (start : String)
    (rest : List AuditRow) :
    headHash start (row :: rest) = headHash hash rest := by
  have step := HashChain.headDigest_cons start row.link (links rest)
  rwa [AuditRow.digest_link hashed] at step

theorem Chained.linked
    {prev : String}
    {seq : Int}
    {rows : List AuditRow}
    (chained : Chained sha256 prev seq rows) :
    HashChain.Linked (rowHash sha256) prev seq (links rows) := by
  induction rows generalizing prev seq with
  | nil => trivial
  | cons row rest inductionHypothesis =>
      obtain ⟨placed, joined, hashed, -, chainedRest⟩ := chained
      refine ⟨by simp [AuditRow.link, placed], by simp [AuditRow.link, joined],
        by simp [AuditRow.link, placed, joined, hashed], ?_⟩
      rw [AuditRow.digest_link hashed]
      exact inductionHypothesis chainedRest

/-! ## The loop -/

/-- On a chain the loop reaches its end. -/
theorem verifyRows_of_chained
    {prev : String}
    {seq : Int}
    {rows : List AuditRow}
    (chained : Chained sha256 prev seq rows)
    (count : Nat) :
    verifyRows sha256 count prev seq (seq - 1) prev rows =
      some
        { ok := true, count
          headSeq := seq - 1 + rows.length
          headHash := headHash prev rows } := by
  induction rows generalizing prev seq with
  | nil => simp [verifyRows, headHash, links]
  | cons row rest inductionHypothesis =>
      obtain ⟨placed, joined, hashed, matched, chainedRest⟩ := chained
      have later := inductionHypothesis chainedRest
      rw [Int.add_sub_cancel] at later
      have position : seq + (rest.length : Int) = seq - 1 + ((row :: rest).length : Int) := by
        rw [List.length_cons]
        omega
      rw [← position, headHash_cons hashed, ← later]
      simp only [verifyRows, placed, joined, hashed, matched, ne_eq, not_true_eq_false,
        if_false]

/-- Rows on which the loop answers that all is well are a chain. -/
theorem chained_of_verifyRows
    {count : Nat}
    {prev : String}
    {seq headSeq : Int}
    {hash : String}
    {rows : List AuditRow}
    {result : ChainVerification}
    (verified : verifyRows sha256 count prev seq headSeq hash rows = some result)
    (ok : result.ok = true) :
    Chained sha256 prev seq rows := by
  induction rows generalizing prev seq headSeq hash with
  | nil => trivial
  | cons row rest inductionHypothesis =>
      rw [verifyRows] at verified
      dsimp only at verified
      split_ifs at verified with notPlaced notJoined notHashed
      · obtain rfl := Option.some.inj verified
        simp at ok
      · obtain rfl := Option.some.inj verified
        simp at ok
      · obtain rfl := Option.some.inj verified
        simp at ok
      · split at verified
        · simp at verified
        · obtain rfl := Option.some.inj verified
          simp at ok
        · next matched =>
            exact ⟨not_not.mp notPlaced, not_not.mp notJoined, not_not.mp notHashed, matched,
              inductionHypothesis verified⟩

/-! ## Tables -/

/-- Tables on which the verification of the chain answers that all is well. -/
def VerifiesChain (sha256 : Bytes → Bytes) (table : AuditTable) : Prop :=
  ∃ result, verifyChain sha256 table = some result ∧ result.ok = true

theorem VerifiesChain.chained
    {table : AuditTable}
    (verifies : VerifiesChain sha256 table) :
    Chained sha256 genesisPrevHash 1 (orderedBySeq table) := by
  obtain ⟨result, verified, ok⟩ := verifies
  exact chained_of_verifyRows verified ok

theorem Chained.seq_getElem?
    {prev : String}
    {seq : Int}
    {rows : List AuditRow}
    (chained : Chained sha256 prev seq rows)
    {index : Nat}
    {row : AuditRow}
    (atIndex : rows[index]? = some row) :
    row.seq = some (seq + index) := by
  induction rows generalizing prev seq index with
  | nil => simp at atIndex
  | cons first rest inductionHypothesis =>
      obtain ⟨placed, -, -, -, chainedRest⟩ := chained
      cases index with
      | zero =>
          obtain rfl : first = row := by simpa using atIndex
          simpa using placed
      | succ index =>
          have later := inductionHypothesis chainedRest (by simpa using atIndex)
          rw [later]
          push_cast
          congr 1
          omega

/-- The columns of every row of a chain agree with its canonical JSON. -/
theorem Chained.matches_of_mem
    {prev : String}
    {seq : Int}
    {rows : List AuditRow}
    (chained : Chained sha256 prev seq rows)
    {row : AuditRow}
    (present : row ∈ rows) :
    rowColumnsMatch row = some true := by
  induction rows generalizing prev seq with
  | nil => cases present
  | cons first rest inductionHypothesis =>
      obtain ⟨-, -, -, matched, chainedRest⟩ := chained
      rcases List.mem_cons.mp present with rfl | later
      · exact matched
      · exact inductionHypothesis chainedRest later

/-- The rows of a chain are in the order of their positions. -/
theorem Chained.pairwise
    {prev : String}
    {seq : Int}
    {rows : List AuditRow}
    (chained : Chained sha256 prev seq rows) :
    rows.Pairwise fun left right => seqLE left right = true := by
  rw [List.pairwise_iff_getElem]
  intro first second firstBound secondBound before
  have firstSeq := chained.seq_getElem? (List.getElem?_eq_getElem firstBound)
  have secondSeq := chained.seq_getElem? (List.getElem?_eq_getElem secondBound)
  simp only [seqLE, firstSeq, secondSeq, decide_eq_true_eq]
  omega

/-- A table stored in the order of its chain is read in that order. -/
theorem Chained.ordered
    {prev : String}
    {seq : Int}
    {table : AuditTable}
    (chained : Chained sha256 prev seq table) :
    orderedBySeq table = table :=
  chained.pairwise.insertionSort_eq

/-- The verification of a table stored in the order of its chain. -/
theorem Chained.verifyChain_eq
    {table : AuditTable}
    (chained : Chained sha256 genesisPrevHash 1 table) :
    verifyChain sha256 table =
      some
        { ok := true
          count := table.length
          headSeq := table.length
          headHash := headHash genesisPrevHash table } := by
  have verified := verifyRows_of_chained chained table.length
  rw [verifyChain, chained.ordered]
  simpa using verified

end AuditChain
end Vinctor
