import Mathlib.Data.List.Induction

/-!
# Hash chains

A chain of links, each of which holds the digest of the link before it.  When
the hash function is unambiguous on the digests that occur, the digest of a
link determines the contents of every link up to it.
-/

namespace Foundation
namespace HashChain

/-- One link of a chain. -/
structure Link (δ : Type u) (β : Type v) where
  position : Int
  previous : δ
  digest : δ
  body : β

/-- Digest after a chain that starts from a given digest. -/
def headDigest (start : δ) (links : List (Link δ β)) : δ :=
  (links.getLast?.map Link.digest).getD start

/-- Links that continue a chain from a digest and a position. -/
def Linked (hash : Int → β → δ → δ) : δ → Int → List (Link δ β) → Prop
  | _, _, [] => True
  | previous, position, link :: rest =>
      link.position = position ∧ link.previous = previous ∧
        link.digest = hash link.position link.body link.previous ∧
        Linked hash link.digest (position + 1) rest

@[simp] theorem headDigest_nil (start : δ) :
    headDigest start ([] : List (Link δ β)) = start := rfl

@[simp] theorem headDigest_append_singleton
    (start : δ)
    (links : List (Link δ β))
    (link : Link δ β) :
    headDigest start (links ++ [link]) = link.digest := by
  simp [headDigest]

theorem headDigest_cons
    (start : δ)
    (link : Link δ β)
    (links : List (Link δ β)) :
    headDigest start (link :: links) = headDigest link.digest links := by
  cases links using List.reverseRecOn with
  | nil => rfl
  | append_singleton links last =>
      rw [← List.cons_append, headDigest_append_singleton, headDigest_append_singleton]

variable {hash : Int → β → δ → δ}

/-- A chain and one more link. -/
theorem linked_append_singleton
    (start : δ)
    (position : Int)
    (links : List (Link δ β))
    (link : Link δ β) :
    Linked hash start position (links ++ [link]) ↔
      Linked hash start position links ∧
        link.position = position + links.length ∧
        link.previous = headDigest start links ∧
        link.digest = hash link.position link.body link.previous := by
  induction links generalizing start position with
  | nil => simp [Linked]
  | cons first rest inductionHypothesis =>
      have shifted : position + 1 + (rest.length : Int) =
          position + ((first :: rest).length : Int) := by
        rw [List.length_cons]
        omega
      rw [List.cons_append, Linked, inductionHypothesis, Linked, headDigest_cons, shifted]
      tauto

theorem Linked.take
    {start : δ}
    {position : Int}
    {links : List (Link δ β)}
    (linked : Linked hash start position links)
    (count : Nat) :
    Linked hash start position (links.take count) := by
  induction links generalizing start position count with
  | nil => simp [Linked]
  | cons first rest inductionHypothesis =>
      cases count with
      | zero => trivial
      | succ count =>
          obtain ⟨placed, joined, hashed, rest⟩ := linked
          exact ⟨placed, joined, hashed, inductionHypothesis rest count⟩

/-- The positions of a chain follow each other. -/
theorem Linked.map_position
    {start : δ}
    {position : Int}
    {links : List (Link δ β)}
    (linked : Linked hash start position links) :
    links.map Link.position =
      (List.range links.length).map fun index : Nat => position + index := by
  induction links using List.reverseRecOn with
  | nil => rfl
  | append_singleton links last inductionHypothesis =>
      obtain ⟨earlier, placed, -, -⟩ := (linked_append_singleton _ _ _ _).mp linked
      rw [List.map_append, inductionHypothesis earlier, List.length_append, List.length_singleton,
        List.range_succ, List.map_append, List.map_singleton, List.map_singleton, placed]

section Commitment

/-!
### Commitment

The hash is unambiguous when two equal digests at one position come from equal
bodies and equal previous digests, for the previous digests that a chain can
hold.
-/

variable
    {Admissible : δ → Prop}
    (unambiguous : ∀ position body body' previous previous',
      Admissible previous → Admissible previous' →
      hash position body previous = hash position body' previous' →
      body = body' ∧ previous = previous')
    (admissible : ∀ position body previous, Admissible (hash position body previous))

include admissible in
theorem Linked.admissible_headDigest
    {start : δ}
    {position : Int}
    {links : List (Link δ β)}
    (linked : Linked hash start position links)
    (admissibleStart : Admissible start) :
    Admissible (headDigest start links) := by
  cases links using List.reverseRecOn with
  | nil => exact admissibleStart
  | append_singleton links last =>
      obtain ⟨-, -, -, hashed⟩ := (linked_append_singleton _ _ _ _).mp linked
      rw [headDigest_append_singleton, hashed]
      exact admissible _ _ _

include unambiguous admissible in
/-- Two chains of one length from one start that end in the same digest have
the same bodies. -/
theorem bodies_eq_of_headDigest_eq
    {start : δ}
    (admissibleStart : Admissible start)
    {position : Int}
    {links others : List (Link δ β)}
    (linked : Linked hash start position links)
    (otherLinked : Linked hash start position others)
    (sameLength : links.length = others.length)
    (sameDigest : headDigest start links = headDigest start others) :
    links.map Link.body = others.map Link.body := by
  induction links using List.reverseRecOn generalizing others with
  | nil =>
      have empty : others = [] := List.eq_nil_of_length_eq_zero sameLength.symm
      rw [empty]
  | append_singleton links last inductionHypothesis =>
      cases others using List.reverseRecOn with
      | nil => simp at sameLength
      | append_singleton others otherLast =>
          obtain ⟨earlier, placed, joined, hashed⟩ :=
            (linked_append_singleton _ _ _ _).mp linked
          obtain ⟨otherEarlier, otherPlaced, otherJoined, otherHashed⟩ :=
            (linked_append_singleton _ _ _ _).mp otherLinked
          have lengths : links.length = others.length := by
            simpa using sameLength
          have admissibleLast : Admissible last.previous := by
            rw [joined]
            exact earlier.admissible_headDigest admissible admissibleStart
          have admissibleOther : Admissible otherLast.previous := by
            rw [otherJoined]
            exact otherEarlier.admissible_headDigest admissible admissibleStart
          rw [headDigest_append_singleton, headDigest_append_singleton, hashed, otherHashed,
            placed, otherPlaced, lengths] at sameDigest
          obtain ⟨sameBody, samePrevious⟩ :=
            unambiguous _ _ _ _ _ admissibleLast admissibleOther sameDigest
          rw [joined, otherJoined] at samePrevious
          have sameBodies := inductionHypothesis earlier otherEarlier lengths samePrevious
          rw [List.map_append, List.map_append, sameBodies, List.map_singleton,
            List.map_singleton, sameBody]

end Commitment

end HashChain
end Foundation
