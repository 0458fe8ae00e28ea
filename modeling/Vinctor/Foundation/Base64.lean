import Vinctor.Foundation.Bytes

/-!
# Base64 texts

Bytes are written in groups of three as four digits, and two or one left over as three or two
digits.  The text of bytes is the text of no other bytes, though it is not padded.
-/

namespace Foundation
namespace Bytes

/-- Value of a digit of the URL-safe base64 alphabet. -/
def base64UrlValue (digit : Char) : Nat :=
  if digit = '-' then 62
  else if digit = '_' then 63
  else if digit.toNat < 58 then digit.toNat + 4
  else if digit.toNat < 91 then digit.toNat - 65
  else digit.toNat - 71

theorem base64UrlValue_base64UrlDigit :
    ∀ value < 64, base64UrlValue (base64UrlDigit value) = value := by
  decide

theorem base64UrlDigit_inj
    {value value' : Nat}
    (small : value < 64)
    (small' : value' < 64)
    (same : base64UrlDigit value = base64UrlDigit value') :
    value = value' := by
  rw [← base64UrlValue_base64UrlDigit value small, same,
    base64UrlValue_base64UrlDigit value' small']

/-- The groups of two texts are read off together. -/
theorem base64UrlDigits_injective : Function.Injective base64UrlDigits := by
  intro bytes others same
  induction bytes using base64UrlDigits.induct generalizing others with
  | case1 first second third rest inductionHypothesis =>
      match others with
      | first' :: second' :: third' :: rest' =>
          simp only [base64UrlDigits, List.cons.injEq] at same
          obtain ⟨one, two, three, four, sameRest⟩ := same
          have bound := first.toNat_lt
          have bound' := first'.toNat_lt
          have := second.toNat_lt
          have := second'.toNat_lt
          have := third.toNat_lt
          have := third'.toNat_lt
          have one := base64UrlDigit_inj (by omega) (by omega) one
          have two := base64UrlDigit_inj (by omega) (by omega) two
          have three := base64UrlDigit_inj (by omega) (by omega) three
          have four := base64UrlDigit_inj (by omega) (by omega) four
          rw [UInt8.toNat_inj.mp (show first.toNat = first'.toNat by omega),
            UInt8.toNat_inj.mp (show second.toNat = second'.toNat by omega),
            UInt8.toNat_inj.mp (show third.toNat = third'.toNat by omega),
            inductionHypothesis sameRest]
      | [first', second'] => simp [base64UrlDigits] at same
      | [first'] => simp [base64UrlDigits] at same
      | [] => simp [base64UrlDigits] at same
  | case2 first second =>
      match others with
      | first' :: second' :: third' :: rest' => simp [base64UrlDigits] at same
      | [first', second'] =>
          simp only [base64UrlDigits, List.cons.injEq, and_true] at same
          obtain ⟨one, two, three⟩ := same
          have := first.toNat_lt
          have := first'.toNat_lt
          have := second.toNat_lt
          have := second'.toNat_lt
          have one := base64UrlDigit_inj (by omega) (by omega) one
          have two := base64UrlDigit_inj (by omega) (by omega) two
          have three := base64UrlDigit_inj (by omega) (by omega) three
          rw [UInt8.toNat_inj.mp (show first.toNat = first'.toNat by omega),
            UInt8.toNat_inj.mp (show second.toNat = second'.toNat by omega)]
      | [first'] => simp [base64UrlDigits] at same
      | [] => simp [base64UrlDigits] at same
  | case3 first =>
      match others with
      | first' :: second' :: third' :: rest' => simp [base64UrlDigits] at same
      | [first', second'] => simp [base64UrlDigits] at same
      | [first'] =>
          simp only [base64UrlDigits, List.cons.injEq, and_true] at same
          obtain ⟨one, two⟩ := same
          have := first.toNat_lt
          have := first'.toNat_lt
          have one := base64UrlDigit_inj (by omega) (by omega) one
          have two := base64UrlDigit_inj (by omega) (by omega) two
          rw [UInt8.toNat_inj.mp (show first.toNat = first'.toNat by omega)]
      | [] => simp [base64UrlDigits] at same
  | case4 =>
      match others with
      | first' :: second' :: third' :: rest' => simp [base64UrlDigits] at same
      | [first', second'] => simp [base64UrlDigits] at same
      | [first'] => simp [base64UrlDigits] at same
      | [] => rfl

end Bytes
end Foundation
