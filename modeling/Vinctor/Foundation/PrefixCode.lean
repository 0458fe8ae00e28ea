import Mathlib.Data.List.Induction
import Vinctor.Foundation.Bytes

/-!
# Encodings that are read off the front

A reader takes an encoded value off the front of a payload and leaves what stands behind it.
Where a reader accepts exactly what the encoder produces, no encoded value is the beginning
of another, and fields that are written one after another can be told apart.
-/

namespace Foundation

/-- The payload is the encoded value in front of the rest. -/
def Fronted (encode : α → Option (List β)) (value : α) (rest payload : List β) : Prop :=
  ∃ encoded, encode value = some encoded ∧ payload = encoded ++ rest

/-- The reader accepts exactly the payloads with an encoded value in front. -/
def Reads (encode : α → Option (List β)) (read : List β → Except ε (α × List β)) : Prop :=
  ∀ payload value rest, read payload = .ok (value, rest) ↔ Fronted encode value rest payload

/-- A payload has one encoded value in front. -/
def PrefixFree (encode : α → Option (List β)) : Prop :=
  ∀ ⦃first second rest rest' payload⦄, Fronted encode first rest payload →
    Fronted encode second rest' payload → first = second ∧ rest = rest'

theorem Reads.prefixFree
    {encode : α → Option (List β)}
    {read : List β → Except ε (α × List β)}
    (reads : Reads encode read) :
    PrefixFree encode := by
  intro first second rest rest' payload isFirst isSecond
  rw [← reads] at isFirst isSecond
  rw [isFirst] at isSecond
  exact Prod.mk.inj (Except.ok.inj isSecond)

/-- Encodings of one length are told apart by their values. -/
theorem prefixFree_of_length
    {encode : α → Option (List β)}
    {length : Nat}
    (sized : ∀ value encoded, encode value = some encoded → encoded.length = length)
    (injective : ∀ first second encoded, encode first = some encoded →
      encode second = some encoded → first = second) :
    PrefixFree encode := by
  rintro first second rest rest' payload ⟨encoded, encodes, rfl⟩ ⟨encoded', encodes', same⟩
  obtain ⟨sameEncoded, sameRest⟩ := List.append_inj same
    ((sized first encoded encodes).trans (sized second encoded' encodes').symm)
  rw [← sameEncoded] at encodes'
  exact ⟨injective first second encoded encodes encodes', sameRest⟩

theorem PrefixFree.comp
    {encode : α → Option (List β)}
    (prefixFree : PrefixFree encode)
    {form : γ → α}
    (injective : Function.Injective form) :
    PrefixFree fun value => encode (form value) := by
  intro first second rest rest' payload isFirst isSecond
  obtain ⟨same, sameRest⟩ := prefixFree isFirst isSecond
  exact ⟨injective same, sameRest⟩

/-- As many values are told from their encodings written one after another. -/
theorem PrefixFree.mapM_flatten_inj
    {encode : α → Option (List β)}
    (prefixFree : PrefixFree encode)
    {values values' : List α}
    (sameLength : values.length = values'.length)
    {payload : List β}
    (isFirst : (values.mapM encode).map List.flatten = some payload)
    (isSecond : (values'.mapM encode).map List.flatten = some payload) :
    values = values' := by
  induction values generalizing values' payload with
  | nil => exact (List.length_eq_zero_iff.mp sameLength.symm).symm
  | cons value values rest =>
      cases values' with
      | nil => cases sameLength
      | cons value' values' =>
          simp only [List.mapM_cons, Option.bind_eq_bind, Option.pure_def, Option.map_eq_some_iff,
            Option.bind_eq_some_iff, Option.some.injEq] at isFirst isSecond
          obtain ⟨_, ⟨encoded, encodes, others, areOthers, rfl⟩, isPayload⟩ := isFirst
          obtain ⟨_, ⟨encoded', encodes', others', areOthers', rfl⟩, isPayload'⟩ := isSecond
          obtain ⟨same, sameRest⟩ := prefixFree ⟨encoded, encodes, isPayload.symm⟩
            ⟨encoded', encodes', isPayload'.symm⟩
          rw [same]
          congr 1
          apply rest (Nat.succ.inj sameLength)
          · rw [areOthers, Option.map_some]
          · rw [areOthers', Option.map_some]
            exact congrArg some sameRest.symm

namespace Bytes

/-! ## Numbers -/

theorem fromBigEndian_lt (bytes : Bytes) : fromBigEndian bytes < 256 ^ bytes.length := by
  induction bytes using List.reverseRecOn with
  | nil => exact Nat.one_pos
  | append_singleton bytes byte rest =>
      have small := byte.toNat_lt
      rw [fromBigEndian_append_singleton, List.length_append, List.length_singleton, pow_succ]
      omega

/-- The digits of a number are read back. -/
theorem bigEndian_fromBigEndian (bytes : Bytes) :
    bigEndian bytes.length (fromBigEndian bytes) = bytes := by
  induction bytes using List.reverseRecOn with
  | nil => rfl
  | append_singleton bytes byte rest =>
      have small := byte.toNat_lt
      have quotient : (fromBigEndian bytes * 256 + byte.toNat) / 256 = fromBigEndian bytes := by
        omega
      have remainder : (fromBigEndian bytes * 256 + byte.toNat) % 256 = byte.toNat := by
        omega
      rw [fromBigEndian_append_singleton, List.length_append, List.length_singleton, bigEndian,
        quotient, remainder, rest, UInt8.ofNat_toNat]

/-- A signed number is told by its eight bytes. -/
theorem int64_injective
    {first second : Int}
    {encoded : Bytes}
    (isFirst : int64 first = some encoded)
    (isSecond : int64 second = some encoded) :
    first = second := by
  unfold int64 at isFirst isSecond
  split at isFirst
  · split at isSecond
    · have same := (Option.some.inj isFirst).trans (Option.some.inj isSecond).symm
      have read := congrArg fromBigEndian same
      rw [fromBigEndian_bigEndian (by omega), fromBigEndian_bigEndian (by omega)] at read
      omega
    · cases isSecond
  · cases isFirst

theorem prefixFree_int64 : PrefixFree int64 := by
  apply @prefixFree_of_length _ _ _ 8
  · intro value encoded encodes
    unfold int64 at encodes
    split at encodes
    · rw [← Option.some.inj encodes, length_bigEndian]
    · cases encodes
  · intro first second encoded isFirst isSecond
    exact int64_injective isFirst isSecond

/-! ## Length prefixes -/

theorem lengthPrefix_eq_some_iff
    {value encoded : Bytes} :
    lengthPrefix value = some encoded ↔
      value.length < 256 ^ 4 ∧ encoded = bigEndian 4 value.length ++ value := by
  constructor
  · exact lengthPrefix_eq_some
  · rintro ⟨fits, rfl⟩
    rw [lengthPrefix, toBytes, if_pos fits]
    rfl

/-- A length tells where its value ends. -/
theorem prefixFree_lengthPrefix : PrefixFree lengthPrefix := by
  rintro first second rest rest' payload ⟨encoded, encodes, rfl⟩ ⟨encoded', encodes', same⟩
  obtain ⟨fits, rfl⟩ := lengthPrefix_eq_some_iff.mp encodes
  obtain ⟨fits', rfl⟩ := lengthPrefix_eq_some_iff.mp encodes'
  rw [List.append_assoc, List.append_assoc] at same
  obtain ⟨sameDigits, sameBehind⟩ := List.append_inj same
    ((length_bigEndian ..).trans (length_bigEndian ..).symm)
  have sameLength : first.length = second.length := by
    rw [← fromBigEndian_bigEndian fits, sameDigits, fromBigEndian_bigEndian fits']
  exact List.append_inj sameBehind sameLength

theorem prefixFree_text : PrefixFree fun text => lengthPrefix (utf8 text) :=
  prefixFree_lengthPrefix.comp utf8_injective

/-- What stands behind a length in four bytes is a prefixed value. -/
theorem lengthPrefix_of_fromBigEndian
    {length value : Bytes}
    (wide : length.length = 4)
    (isLength : fromBigEndian length = value.length) :
    lengthPrefix value = some (length ++ value) := by
  have small := fromBigEndian_lt length
  have digits := bigEndian_fromBigEndian length
  rw [wide, isLength] at small digits
  rw [lengthPrefix_eq_some_iff, digits]
  exact ⟨small, rfl⟩

theorem utf8_of_decodeUtf8
    {bytes : Bytes}
    {text : String}
    (decodes : decodeUtf8 bytes = some text) :
    utf8 text = bytes := by
  unfold decodeUtf8 String.fromUTF8? at decodes
  split at decodes
  · rw [← Option.some.inj decodes]
    rfl
  · cases decodes

end Bytes
end Foundation
