import Mathlib.Data.List.Basic

/-!
# Text as a sequence of code points

Operations on character lists that follow the string methods of the language
the programs are written in: splitting at every or at the first separator,
affixes, and blank text.
-/

namespace Foundation
namespace Text

/-- Cut a text at the first occurrence of a separator: the part before it,
whether it occurs at all, and the part after it. -/
def partition (separator : Char) : List Char → List Char × Bool × List Char
  | [] => ([], false, [])
  | head :: rest =>
      if head = separator then ([], true, rest)
      else
        let tail := partition separator rest
        (head :: tail.1, tail.2.1, tail.2.2)

/-- Cutting recovers a part that is free of the separator. -/
theorem partition_append_separator
    {separator : Char}
    {before : List Char}
    (absent : separator ∉ before)
    (after : List Char) :
    partition separator (before ++ separator :: after) =
      (before, true, after) := by
  induction before with
  | nil => simp [partition]
  | cons head rest inductionHypothesis =>
      rw [List.mem_cons, not_or] at absent
      simp [partition, Ne.symm absent.1, inductionHypothesis absent.2]

/-- The parts and the separator concatenate to the text when the separator
was found. -/
theorem eq_append_of_partition_found
    {separator : Char}
    {text : List Char}
    (found : (partition separator text).2.1 = true) :
    text = (partition separator text).1 ++
      separator :: (partition separator text).2.2 := by
  induction text with
  | nil => simp [partition] at found
  | cons head rest inductionHypothesis =>
      by_cases same : head = separator
      · simp [partition, same]
      · simp only [partition, same, if_false] at found ⊢
        rw [List.cons_append, ← inductionHypothesis found]

/-- The separator is found exactly when it occurs. -/
theorem partition_found_of_mem
    {separator : Char}
    {text : List Char}
    (present : separator ∈ text) :
    (partition separator text).2.1 = true := by
  induction text with
  | nil => simp at present
  | cons head rest inductionHypothesis =>
      by_cases same : head = separator
      · simp [partition, same]
      · simp only [partition, same, if_false]
        rcases List.mem_cons.mp present with equal | inRest
        · exact absurd equal.symm same
        · exact inductionHypothesis inRest

/-- Splitting yields one more part than there are separators. -/
theorem length_splitOn
    (separator : Char)
    (text : List Char) :
    (text.splitOn separator).length = text.count separator + 1 := by
  induction text with
  | nil => simp
  | cons head rest inductionHypothesis =>
      rw [List.splitOn_cons_eq_if_modifyHead]
      by_cases same : head = separator
      · simp [same, inductionHypothesis]
      · simp [same, inductionHypothesis]

/-- The separator is in no part. -/
theorem not_mem_of_mem_splitOn
    {separator : Char}
    {text part : List Char}
    (member : part ∈ text.splitOn separator) :
    separator ∉ part := by
  induction text generalizing part with
  | nil =>
      rw [List.splitOn_nil, List.mem_singleton] at member
      rw [member]
      exact List.not_mem_nil
  | cons head rest inductionHypothesis =>
      rw [List.splitOn_cons_eq_if_modifyHead] at member
      split at member
      · rcases List.mem_cons.mp member with isEmpty | later
        · rw [isEmpty]
          exact List.not_mem_nil
        · exact inductionHypothesis later
      · next different =>
          cases parts : rest.splitOn separator with
          | nil => exact absurd parts (List.splitOn_ne_nil _ _)
          | cons first later =>
              rw [parts, List.modifyHead_cons] at member
              rcases List.mem_cons.mp member with isFirst | isLater
              · rw [isFirst, List.mem_cons, not_or]
                refine ⟨fun same => different (by simp [same]), inductionHypothesis ?_⟩
                rw [parts]
                exact List.mem_cons_self
              · apply inductionHypothesis
                rw [parts]
                exact List.mem_cons_of_mem _ isLater

/-- Drop a suffix when the text ends in it. -/
def removeSuffix (suffix text : List Char) : List Char :=
  if suffix.isSuffixOf text then text.take (text.length - suffix.length)
  else text

@[simp] theorem removeSuffix_append
    (stem suffix : List Char) :
    removeSuffix suffix (stem ++ suffix) = stem := by
  simp [removeSuffix]

/-- White space that `strip` removes. -/
def isSpace (character : Char) : Bool :=
  let code := character.toNat
  (9 ≤ code && code ≤ 13) || (28 ≤ code && code ≤ 32) ||
    code == 0x85 || code == 0xA0 || code == 0x1680 ||
    (0x2000 ≤ code && code ≤ 0x200A) || code == 0x2028 ||
    code == 0x2029 || code == 0x202F || code == 0x205F || code == 0x3000

/-- Text of which `strip` leaves nothing. -/
def isBlank (text : List Char) : Bool := text.all isSpace

/-- Text without the white space at its two ends. -/
def strip (text : List Char) : List Char :=
  ((text.dropWhile isSpace).reverse.dropWhile isSpace).reverse

/-! ## Integer literals -/

/-- Code points of the digit zero in each decimal script. -/
def decimalZeros : List Nat :=
  [0x30, 0x660, 0x6F0, 0x7C0, 0x966, 0x9E6, 0xA66, 0xAE6, 0xB66, 0xBE6, 0xC66, 0xCE6,
    0xD66, 0xDE6, 0xE50, 0xED0, 0xF20, 0x1040, 0x1090, 0x17E0, 0x1810, 0x1946, 0x19D0,
    0x1A80, 0x1A90, 0x1B50, 0x1BB0, 0x1C40, 0x1C50, 0xA620, 0xA8D0, 0xA900, 0xA9D0,
    0xA9F0, 0xAA50, 0xABF0, 0xFF10, 0x104A0, 0x10D30, 0x11066, 0x110F0, 0x11136,
    0x111D0, 0x112F0, 0x11450, 0x114D0, 0x11650, 0x116C0, 0x11730, 0x118E0, 0x11950,
    0x11C50, 0x11D50, 0x11DA0, 0x16A60, 0x16AC0, 0x16B50, 0x1D7CE, 0x1D7D8, 0x1D7E2,
    0x1D7EC, 0x1D7F6, 0x1E140, 0x1E2F0, 0x1E950, 0x1FBF0]

/-- Value of a decimal digit of any script. -/
def decimalValue (character : Char) : Option Nat :=
  (decimalZeros.find? fun start =>
    start ≤ character.toNat && character.toNat < start + 10).map (character.toNat - ·)

/-- Ranges of the digits that are not decimal, by their first code points and
lengths. -/
def otherDigits : List (Nat × Nat) :=
  [(0xB2, 2), (0xB9, 1), (0x1369, 9), (0x19DA, 1), (0x2070, 1), (0x2074, 6), (0x2080, 10),
    (0x2460, 9), (0x2474, 9), (0x2488, 9), (0x24EA, 1), (0x24F5, 9), (0x24FF, 1), (0x2776, 9),
    (0x2780, 9), (0x278A, 9), (0x10A40, 4), (0x10E60, 9), (0x11052, 9), (0x1F100, 11)]

/-- Digits of any script, decimal or not. -/
def isDigit (character : Char) : Bool :=
  (decimalValue character).isSome ||
    otherDigits.any fun range =>
      range.1 ≤ character.toNat && character.toNat < range.1 + range.2

/-- White space that an integer literal may have around it.  The separators
28 to 31 are not among it. -/
def isIntegerSpace (character : Char) : Bool :=
  isSpace character && !(28 ≤ character.toNat && character.toNat ≤ 31)

/-- Digits that continue a run, each preceded by at most one underscore, and
the text that follows. -/
def digitTail : List Char → List Nat × List Char
  | [] => ([], [])
  | [head] =>
      match decimalValue head with
      | none => ([], [head])
      | some digit => ([digit], [])
  | head :: second :: rest =>
      match decimalValue head, decimalValue second with
      | some digit, _ =>
          let tail := digitTail (second :: rest)
          (digit :: tail.1, tail.2)
      | none, some digit =>
          if head = '_' then
            let tail := digitTail rest
            (digit :: tail.1, tail.2)
          else ([], head :: second :: rest)
      | none, none => ([], head :: second :: rest)

/-- Digits at the start of a text and the text that follows them. -/
def digitRun : List Char → List Nat × List Char
  | [] => ([], [])
  | head :: rest =>
      match decimalValue head with
      | none => ([], head :: rest)
      | some digit =>
          let tail := digitTail rest
          (digit :: tail.1, tail.2)

/-- Longest digit string that is converted. -/
def maxIntegerDigits : Nat := 4300

/-- Number that a run of decimal digits stands for. -/
def decimalNumber (run : List Char) : Nat :=
  (run.filterMap decimalValue).foldl (fun value digit => value * 10 + digit) 0

/-- Value of an integer literal: white space, a sign, digits, white space. -/
def parseInteger (text : List Char) : Option Int :=
  let body := text.dropWhile isIntegerSpace
  let signed : Bool × List Char :=
    match body with
    | '+' :: digits => (false, digits)
    | '-' :: digits => (true, digits)
    | digits => (false, digits)
  let run := digitRun signed.2
  if run.1 = [] ∨ maxIntegerDigits < run.1.length ∨ ¬ run.2.all isIntegerSpace then none
  else
    let magnitude : Int := run.1.foldl (fun value digit => value * 10 + digit) 0
    some (if signed.1 then -magnitude else magnitude)

example : parseInteger " -1_000 ".toList = some (-1000) := by decide

example : parseInteger "1__0".toList = none := by decide

/-! ## Decimal texts -/

theorem decimalValue_of_isDigit {character : Char} (digit : character.isDigit = true) :
    decimalValue character = some (character.toNat - 48) := by
  have range : 48 ≤ character.toNat ∧ character.toNat < 58 := by
    simp only [Char.isDigit, Bool.and_eq_true, decide_eq_true_eq] at digit
    have lower : 48 ≤ character.val.toNat := digit.1
    have upper : character.val.toNat ≤ 57 := digit.2
    exact ⟨lower, Nat.lt_succ_of_le upper⟩
  have first :
      (decide (0x30 ≤ character.toNat) && decide (character.toNat < 0x30 + 10)) = true := by
    simpa using range
  rw [decimalValue, decimalZeros, List.find?_cons, first]
  rfl

theorem decimalNumber_eq_ofDigitChars
    {run : List Char}
    (digits : ∀ character ∈ run, character.isDigit = true)
    (start : Nat) :
    (run.filterMap decimalValue).foldl (fun value digit => value * 10 + digit) start =
      Nat.ofDigitChars 10 run start := by
  induction run generalizing start with
  | nil => rfl
  | cons character rest inductionHypothesis =>
      have digit := digits character List.mem_cons_self
      rw [List.filterMap_cons_some (decimalValue_of_isDigit digit), List.foldl_cons,
        inductionHypothesis fun other present => digits other (List.mem_cons_of_mem _ present),
        Nat.ofDigitChars_cons, Nat.mul_comm]
      rfl

/-- The digits of a number are read as the number. -/
theorem decimalNumber_toDigits (number : Nat) :
    decimalNumber (Nat.toDigits 10 number) = number := by
  have digits : ∀ character ∈ Nat.toDigits 10 number, character.isDigit = true :=
    fun character present => Nat.isDigit_of_mem_toDigits (by decide) (by decide) present
  exact (decimalNumber_eq_ofDigitChars digits 0).trans (Nat.ofDigitChars_ten_toDigits)

theorem repr_injective : Function.Injective Nat.repr := by
  intro first second same
  have digits := congrArg String.toList same
  rw [Nat.toList_repr, Nat.toList_repr] at digits
  have values := congrArg (Nat.ofDigitChars 10 · 0) digits
  simpa using values

/-- The sign of a number can be read off its text. -/
theorem repr_ne_repr
    {first second : Int}
    (isPositive : 0 ≤ first)
    (isNegative : ¬ 0 ≤ second) :
    first.repr ≠ second.repr := by
  intro same
  rw [Int.repr_eq_if, Int.repr_eq_if, if_pos isPositive, if_neg isNegative] at same
  have digits := congrArg String.toList same
  rw [Nat.toList_repr, String.toList_append] at digits
  have minus : '-' ∈ Nat.toDigits 10 first.toNat := by
    rw [digits]
    exact List.mem_append_left _ (by decide)
  have isDigit := Nat.isDigit_of_mem_toDigits (by decide) (by decide) minus
  exact absurd isDigit (by decide)

theorem toString_int_injective : Function.Injective (toString : Int → String) := by
  intro first second same
  rw [Int.toString_eq_repr, Int.toString_eq_repr] at same
  by_cases isFirst : 0 ≤ first <;> by_cases isSecond : 0 ≤ second
  · rw [Int.repr_eq_if, Int.repr_eq_if, if_pos isFirst, if_pos isSecond] at same
    have values := repr_injective same
    omega
  · exact absurd same (repr_ne_repr isFirst isSecond)
  · exact absurd same.symm (repr_ne_repr isSecond isFirst)
  · rw [Int.repr_eq_if, Int.repr_eq_if, if_neg isFirst, if_neg isSecond] at same
    have values := repr_injective ((String.append_right_inj "-").mp same)
    omega

end Text
end Foundation
