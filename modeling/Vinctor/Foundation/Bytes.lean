import Mathlib.Data.List.Basic
import Mathlib.Tactic.Ring

/-!
# Byte strings

Encodings that turn texts and numbers into bytes: UTF-8, big-endian numbers of
fixed width, length prefixes, hexadecimal and unpadded URL-safe base64.  An
encoder that the program lets overflow returns an option.
-/

namespace Foundation

abbrev Bytes := List UInt8

namespace Bytes

/-- UTF-8 encoding of a text. -/
def utf8 (text : String) : Bytes := text.toByteArray.data.toList

theorem utf8_injective : Function.Injective utf8 := by
  intro left right equal
  apply String.toByteArray_inj.mp
  apply ByteArray.ext
  exact Array.toList_inj.mp equal

/-- Text with a given UTF-8 encoding. -/
def decodeUtf8 (bytes : Bytes) : Option String :=
  String.fromUTF8? ⟨bytes.toArray⟩

/-- An encoded text is read back. -/
theorem decodeUtf8_utf8 (text : String) : decodeUtf8 (utf8 text) = some text := by
  have valid : ByteArray.IsValidUTF8 ⟨(utf8 text).toArray⟩ := by
    simpa [utf8] using text.isValidUTF8
  unfold decodeUtf8 String.fromUTF8?
  rw [dif_pos valid]
  exact congrArg some (String.toByteArray_inj.mp rfl)

/-! ## Numbers of fixed width -/

/-- Base-256 digits of a number, most significant first. -/
def bigEndian : Nat → Nat → Bytes
  | 0, _ => []
  | width + 1, value => bigEndian width (value / 256) ++ [UInt8.ofNat (value % 256)]

/-- Number whose base-256 digits are given, most significant first. -/
def fromBigEndian (bytes : Bytes) : Nat :=
  bytes.foldl (fun value byte => value * 256 + byte.toNat) 0

@[simp] theorem length_bigEndian (width value : Nat) :
    (bigEndian width value).length = width := by
  induction width generalizing value with
  | zero => rfl
  | succ width inductionHypothesis => simp [bigEndian, inductionHypothesis]

theorem fromBigEndian_append_singleton (bytes : Bytes) (byte : UInt8) :
    fromBigEndian (bytes ++ [byte]) = fromBigEndian bytes * 256 + byte.toNat := by
  simp [fromBigEndian]

/-- A number that fits the width is read back. -/
theorem fromBigEndian_bigEndian
    {width value : Nat}
    (fits : value < 256 ^ width) :
    fromBigEndian (bigEndian width value) = value := by
  induction width generalizing value with
  | zero =>
      have zero : value = 0 := by simpa using fits
      rw [zero]
      rfl
  | succ width inductionHypothesis =>
      have quotientFits : value / 256 < 256 ^ width := by
        rw [pow_succ] at fits
        exact Nat.div_lt_of_lt_mul (by rwa [mul_comm] at fits)
      rw [bigEndian, fromBigEndian_append_singleton,
        inductionHypothesis quotientFits]
      simp only [UInt8.toNat_ofNat']
      omega

/-- Unsigned number of a given width, unless it overflows. -/
def toBytes (width value : Nat) : Option Bytes :=
  if value < 256 ^ width then some (bigEndian width value) else none

/-- Signed number in eight bytes, two's complement, unless it overflows. -/
def int64 (value : Int) : Option Bytes :=
  if -2 ^ 63 ≤ value ∧ value < 2 ^ 63 then
    some (bigEndian 8 (value % 2 ^ 64).toNat)
  else none

/-- A byte string preceded by its length in four bytes. -/
def lengthPrefix (value : Bytes) : Option Bytes :=
  (toBytes 4 value.length).map (· ++ value)

theorem lengthPrefix_eq_some
    {value encoded : Bytes}
    (encodes : lengthPrefix value = some encoded) :
    value.length < 256 ^ 4 ∧ encoded = bigEndian 4 value.length ++ value := by
  unfold lengthPrefix toBytes at encodes
  split at encodes
  · next fits =>
      refine ⟨fits, ?_⟩
      simpa using encodes.symm
  · simp at encodes

/-! ## Hexadecimal and base64 -/

/-- Lower-case hexadecimal digit. -/
def hexDigit (value : Nat) : Char :=
  if value < 10 then Char.ofNat (48 + value) else Char.ofNat (87 + value)

/-- Lower-case hexadecimal text of a byte string. -/
def hexDigits (bytes : Bytes) : List Char :=
  bytes.flatMap fun byte => [hexDigit (byte.toNat / 16), hexDigit (byte.toNat % 16)]

/-- Digit of the URL-safe base64 alphabet. -/
def base64UrlDigit (value : Nat) : Char :=
  if value < 26 then Char.ofNat (65 + value)
  else if value < 52 then Char.ofNat (71 + value)
  else if value < 62 then Char.ofNat (value - 4)
  else if value = 62 then '-'
  else '_'

/-- URL-safe base64 text without padding. -/
def base64UrlDigits : Bytes → List Char
  | first :: second :: third :: rest =>
      let group := first.toNat * 65536 + second.toNat * 256 + third.toNat
      base64UrlDigit (group / 262144) :: base64UrlDigit (group / 4096 % 64) ::
        base64UrlDigit (group / 64 % 64) :: base64UrlDigit (group % 64) ::
        base64UrlDigits rest
  | [first, second] =>
      let group := first.toNat * 1024 + second.toNat * 4
      [base64UrlDigit (group / 4096), base64UrlDigit (group / 64 % 64),
        base64UrlDigit (group % 64)]
  | [first] =>
      let group := first.toNat * 16
      [base64UrlDigit (group / 64), base64UrlDigit (group % 64)]
  | [] => []

/-- Value of a digit of the standard base64 alphabet. -/
def base64Value (character : Char) : Option Nat :=
  if 'A' ≤ character ∧ character ≤ 'Z' then some (character.toNat - 65)
  else if 'a' ≤ character ∧ character ≤ 'z' then some (character.toNat - 71)
  else if '0' ≤ character ∧ character ≤ '9' then some (character.toNat + 4)
  else if character = '+' then some 62
  else if character = '/' then some 63
  else none

/-- Bytes of a base64 text from a position of a group of four digits, with the
bits left over before it, whether a padding mark was seen, and how many count. -/
def decodeBase64From
    (position remaining : Nat)
    (paddingStarted : Bool)
    (pads : Nat) : List Char → Option Bytes
  | [] => if position = 0 then some [] else none
  | character :: rest =>
      if character = '=' then
        if 2 ≤ position ∧ 4 ≤ position + (pads + 1) then
          if rest = [] then some [] else none
        else
          decodeBase64From position remaining true
            (if 2 ≤ position then pads + 1 else pads) rest
      else if paddingStarted then none
      else
        match base64Value character with
        | none => none
        | some value =>
            match position with
            | 0 => decodeBase64From 1 value false 0 rest
            | 1 =>
                (decodeBase64From 2 (value % 16) false 0 rest).map
                  (UInt8.ofNat (remaining * 4 + value / 16) :: ·)
            | 2 =>
                (decodeBase64From 3 (value % 4) false 0 rest).map
                  (UInt8.ofNat (remaining * 16 + value / 4) :: ·)
            | _ =>
                (decodeBase64From 0 0 false 0 rest).map
                  (UInt8.ofNat (remaining * 64 + value) :: ·)

/-- Strict base64 decoding.  Padding may not lead the text, and nothing may
follow the mark that completes a group; marks after complete groups pass. -/
def decodeBase64 (text : List Char) : Option Bytes :=
  if text.head? = some '=' then none else decodeBase64From 0 0 false 0 text

example : decodeBase64 "cHJvb2Y/Pg==".toList = some (utf8 "proof?>") := by decide

example : base64UrlDigits (utf8 "proof?>") = "cHJvb2Y_Pg".toList := by decide

end Bytes
end Foundation
