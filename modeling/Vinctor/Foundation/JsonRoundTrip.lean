import Vinctor.Foundation.Json

/-!
# Writing and reading JSON

Writing a flat object and reading it back gives the object with its members
sorted by key; a lookup does not depend on the order of the members.
-/

namespace Foundation
namespace Json

/-! ## Strings -/

theorem hexValue_hexDigit {digit : Nat} (small : digit < 16) :
    hexValue (Bytes.hexDigit digit) = some digit := by
  revert digit
  decide

theorem hexUnit_digits {unit : Nat} (small : unit < 0x10000) :
    hexUnit (Bytes.hexDigit (unit / 4096 % 16)) (Bytes.hexDigit (unit / 256 % 16))
        (Bytes.hexDigit (unit / 16 % 16)) (Bytes.hexDigit (unit % 16)) = some unit := by
  have digit : ∀ value, hexValue (Bytes.hexDigit (value % 16)) = some (value % 16) :=
    fun value => hexValue_hexDigit (Nat.mod_lt value (by omega))
  simp only [hexUnit, digit, Option.bind_eq_bind, Option.bind_some, Option.some.injEq]
  omega

theorem scanUnits_hex4
    {unit : Nat}
    (small : unit < 0x10000)
    (rest : List Char) :
    scanUnits ('\\' :: 'u' :: hex4 unit ++ rest) =
      (scanUnits rest).map fun (units, after) => (unit :: units, after) := by
  simp only [hex4, List.cons_append, List.nil_append, scanUnits, hexUnit_digits small]
  cases scanUnits rest with
  | none => rfl
  | some found => rfl

theorem codeUnits_lt {character : Char} {unit : Nat} (member : unit ∈ codeUnits character) :
    unit < 0x10000 := by
  have bound : character.toNat < 0x110000 := by
    rcases character.valid with low | high
    · exact Nat.lt_trans low (by decide)
    · exact high.2
  unfold codeUnits at member
  split at member
  · next small =>
      rw [List.mem_singleton] at member
      omega
  · simp only [List.mem_cons, List.not_mem_nil, or_false] at member
    omega

theorem scanUnits_hexUnits
    (units : List Nat)
    (small : ∀ unit ∈ units, unit < 0x10000)
    (rest : List Char) :
    scanUnits ((units.flatMap fun unit => '\\' :: 'u' :: hex4 unit) ++ rest) =
      (scanUnits rest).map fun (found, after) => (units ++ found, after) := by
  induction units with
  | nil =>
      cases h : scanUnits rest with
      | none => simp [h]
      | some found => simp [h]
  | cons unit units inductionHypothesis =>
      have hypothesis := inductionHypothesis fun other member =>
        small other (List.mem_cons_of_mem unit member)
      rw [List.flatMap_cons, List.append_assoc,
        scanUnits_hex4 (small unit List.mem_cons_self), hypothesis, Option.map_map]
      rfl

theorem scanUnits_plain
    {character : Char}
    (notQuote : character ≠ '"')
    (notEscape : character ≠ '\\')
    (printable : 0x20 ≤ character.toNat)
    (rest : List Char) :
    scanUnits (character :: rest) =
      (scanUnits rest).map fun (units, after) => (codeUnits character ++ units, after) := by
  rw [scanUnits]
  · simp [notQuote, notEscape, Nat.not_lt.mpr printable]
  all_goals
    intros
    simp_all

theorem scanUnits_shortEscape
    {mark character : Char}
    (escape : shortEscape mark = some character)
    (small : character.toNat < 0x10000)
    (rest : List Char) :
    scanUnits ('\\' :: mark :: rest) =
      (scanUnits rest).map fun (units, after) => (codeUnits character ++ units, after) := by
  have notUnit : mark ≠ 'u' := by
    intro unit
    rw [unit, show shortEscape 'u' = none from rfl] at escape
    simp at escape
  have units : codeUnits character = [character.toNat] := if_pos small
  rw [scanUnits]
  · rw [escape, units]
    cases scanUnits rest with
    | none => rfl
    | some found => rfl
  · intro a b c d after equal
    exact absurd equal notUnit

/-- An escaped character is read as its code units. -/
theorem scanUnits_escapeChar
    (character : Char)
    (rest : List Char) :
    scanUnits (escapeChar character ++ rest) =
      (scanUnits rest).map fun (units, after) => (codeUnits character ++ units, after) := by
  unfold escapeChar
  split_ifs with quote escape newline ret tab feed back printable
  · subst quote
    exact scanUnits_shortEscape rfl (by decide) rest
  · subst escape
    exact scanUnits_shortEscape rfl (by decide) rest
  · subst newline
    exact scanUnits_shortEscape rfl (by decide) rest
  · subst ret
    exact scanUnits_shortEscape rfl (by decide) rest
  · subst tab
    exact scanUnits_shortEscape rfl (by decide) rest
  · subst feed
    exact scanUnits_shortEscape rfl (by decide) rest
  · subst back
    exact scanUnits_shortEscape rfl (by decide) rest
  · exact scanUnits_plain quote escape printable.1 rest
  · exact scanUnits_hexUnits _ (fun _ => codeUnits_lt) rest

theorem scanUnits_escaped
    (text rest : List Char) :
    scanUnits (text.flatMap escapeChar ++ '"' :: rest) =
      some (text.flatMap codeUnits, rest) := by
  induction text with
  | nil =>
      rw [List.flatMap_nil, List.nil_append, scanUnits]
      · rfl
      all_goals
        intros
        simp_all
  | cons head tail inductionHypothesis =>
      rw [List.flatMap_cons, List.append_assoc, scanUnits_escapeChar, inductionHypothesis]
      rfl

/-- The code units of a character stand for it. -/
theorem joinUnits_codeUnits
    (character : Char)
    (units : List Nat) :
    joinUnits (codeUnits character ++ units) =
      (joinUnits units).map fun text => character :: text := by
  have valid : character.toNat < 0xD800 ∨
      0xDFFF < character.toNat ∧ character.toNat < 0x110000 := character.valid
  unfold codeUnits
  split
  · next small =>
      have notHigh : ¬ (0xD800 ≤ character.toNat ∧ character.toNat < 0xDC00) := by omega
      have notLow : ¬ (0xDC00 ≤ character.toNat ∧ character.toNat < 0xE000) := by omega
      rw [List.singleton_append, joinUnits.eq_def]
      simp only [notHigh, notLow, if_false, Char.ofNat_toNat]
  · next large =>
      dsimp only
      generalize offset : character.toNat - 0x10000 = rest
      have high : 0xD800 ≤ 0xD800 + rest / 0x400 ∧ 0xD800 + rest / 0x400 < 0xDC00 := by omega
      have low : 0xDC00 ≤ 0xDC00 + rest % 0x400 ∧ 0xDC00 + rest % 0x400 < 0xE000 := by omega
      have joined : 0x10000 + (0xD800 + rest / 0x400 - 0xD800) * 0x400 +
          (0xDC00 + rest % 0x400 - 0xDC00) = character.toNat := by omega
      simp only [List.cons_append, List.nil_append, joinUnits, high, low, and_self, if_true,
        joined, Char.ofNat_toNat]

/-- A rendered string is read back. -/
theorem scanString_escaped
    (text : String)
    (rest : List Char) :
    scanString (text.toList.flatMap escapeChar ++ '"' :: rest) = some (text, rest) := by
  have joined : ∀ characters : List Char,
      joinUnits (characters.flatMap codeUnits) = some characters := by
    intro characters
    induction characters with
    | nil => rfl
    | cons head tail inductionHypothesis =>
        rw [List.flatMap_cons, joinUnits_codeUnits, inductionHypothesis]
        rfl
  simp [scanString, scanUnits_escaped, joined]

/-! ## Numbers and words -/

/-- Text that cannot continue a number. -/
def EndsNumber (text : List Char) : Prop :=
  ∀ head ∈ text.head?, head.isDigit = false ∧ head ≠ '.' ∧ head ≠ 'e' ∧ head ≠ 'E'

theorem takeWhile_digits_append
    {digits rest : List Char}
    (areDigits : ∀ digit ∈ digits, digit.isDigit = true)
    (ends : EndsNumber rest) :
    (digits ++ rest).takeWhile Char.isDigit = digits ∧
      (digits ++ rest).dropWhile Char.isDigit = rest := by
  rw [List.takeWhile_append_of_pos areDigits, List.dropWhile_append_of_pos areDigits]
  cases rest with
  | nil => simp
  | cons head tail => simp [(ends head rfl).1]

theorem head_toDigits_ne_zero {value : Nat} (positive : 0 < value) :
    ∀ head ∈ (Nat.toDigits 10 value).head?, head ≠ '0' := by
  induction value using Nat.strongRecOn with
  | ind value inductionHypothesis =>
      by_cases small : value < 10
      · rw [Nat.toDigits_of_lt_base small]
        have digit : ∀ number < 10, 0 < number → number.digitChar ≠ '0' := by decide
        intro head isHead
        rw [List.head?_cons, Option.mem_some_iff] at isHead
        rw [← isHead]
        exact digit value small positive
      · have quotient := inductionHypothesis (value / 10) (by omega) (by omega)
        rw [Nat.toDigits_of_base_le (by omega) (by omega),
          List.head?_append_of_ne_nil _ Nat.toDigits_ne_nil]
        exact quotient

theorem integerPart_toDigits
    (value : Nat)
    {rest : List Char}
    (ends : EndsNumber rest) :
    integerPart (Nat.toDigits 10 value ++ rest) = (Nat.toDigits 10 value, rest) := by
  rcases Nat.eq_zero_or_pos value with zero | positive
  · rw [zero, Nat.toDigits_zero]
    rfl
  · have areDigits : ∀ digit ∈ Nat.toDigits 10 value, digit.isDigit = true :=
      fun digit => Nat.isDigit_of_mem_toDigits (by omega) (by omega)
    have run := takeWhile_digits_append areDigits ends
    have nonzero := head_toDigits_ne_zero positive
    rw [integerPart]
    · rw [run.1, run.2]
    · intro after equal
      have isHead : '0' ∈ (Nat.toDigits 10 value).head? := by
        rw [← List.head?_append_of_ne_nil (Nat.toDigits 10 value) Nat.toDigits_ne_nil, equal]
        rfl
      exact nonzero '0' isHead rfl

theorem fractionPart_of_endsNumber {rest : List Char} (ends : EndsNumber rest) :
    fractionPart rest = ([], rest) := by
  rw [fractionPart]
  intro after equal
  exact (ends '.' (by rw [equal]; rfl)).2.1 rfl

theorem exponentPart_of_endsNumber {rest : List Char} (ends : EndsNumber rest) :
    exponentPart rest = ([], rest) := by
  cases rest with
  | nil => rfl
  | cons head tail =>
      have plain := ends head rfl
      simp [exponentPart, plain.2.2.1, plain.2.2.2]

/-- A rendered integer is read back before a text that does not continue it. -/
theorem scanNumber_renderInt
    {value : Int}
    {text rest : List Char}
    (rendered : renderInt value = some text)
    (ends : EndsNumber rest) :
    scanNumber (text ++ rest) = some (.int value, rest) := by
  unfold renderInt at rendered
  dsimp only at rendered
  split at rendered
  · exact absurd rendered (by simp)
  · next short =>
      have parts := integerPart_toDigits value.natAbs ends
      have nonempty : Nat.toDigits 10 value.natAbs ≠ [] := Nat.toDigits_ne_nil
      split at rendered
      · next negative =>
          obtain rfl := Option.some.inj rendered
          have magnitude : -(value.natAbs : Int) = value := by omega
          simp only [scanNumber, List.cons_append, List.head?_cons, if_true,
            List.length_singleton, List.drop_succ_cons, List.drop_zero, parts,
            fractionPart_of_endsNumber ends, exponentPart_of_endsNumber ends, nonempty,
            short, if_false, and_self, reduceCtorEq, Nat.ofDigitChars_ten_toDigits, magnitude]
      · next nonnegative =>
          obtain rfl := Option.some.inj rendered
          have magnitude : (value.natAbs : Int) = value := by omega
          have unsigned : (Nat.toDigits 10 value.natAbs ++ rest).head? ≠ some '-' := by
            rw [List.head?_append_of_ne_nil _ nonempty]
            intro minus
            have digit := Nat.isDigit_of_mem_toDigits (by omega) (by omega)
              (List.mem_of_mem_head? minus)
            exact absurd digit (by decide)
          simp only [scanNumber, if_neg unsigned, List.length_nil, List.drop_zero, parts,
            fractionPart_of_endsNumber ends, exponentPart_of_endsNumber ends, nonempty,
            short, if_false, if_true, and_self, Nat.ofDigitChars_ten_toDigits, magnitude]

/-- Values without parts that are read back as they were written. -/
def IsScalar : Json → Prop
  | .null => True
  | .bool _ => True
  | .int _ => True
  | .str _ => True
  | _ => False

@[simp] theorem isScalar_null : IsScalar .null := trivial

@[simp] theorem isScalar_bool (value : Bool) : IsScalar (.bool value) := trivial

@[simp] theorem isScalar_int (value : Int) : IsScalar (.int value) := trivial

@[simp] theorem isScalar_str (value : String) : IsScalar (.str value) := trivial

theorem afterWord_of_ne
    {first head : Char}
    (differs : first ≠ head)
    (word tail : List Char) :
    afterWord (first :: word) (head :: tail) = none := by
  simp [afterWord, differs]

theorem ne_of_isDigit
    {digit other : Char}
    (isDigit : digit.isDigit = true)
    (notDigit : other.isDigit = false) :
    other ≠ digit := by
  intro equal
  rw [equal, isDigit] at notDigit
  simp at notDigit

theorem scanAtom_digit
    {digit : Char}
    (isDigit : digit.isDigit = true)
    (tail : List Char) :
    scanAtom (digit :: tail) = scanNumber (digit :: tail) := by
  have miss : ∀ first word, first.isDigit = false →
      afterWord (first :: word) (digit :: tail) = none :=
    fun first word notDigit => afterWord_of_ne (ne_of_isDigit isDigit notDigit) word tail
  simp [scanAtom, miss]

theorem scanAtom_minus
    {digit : Char}
    (isDigit : digit.isDigit = true)
    (tail : List Char) :
    scanAtom ('-' :: digit :: tail) = scanNumber ('-' :: digit :: tail) := by
  have infinite : 'I' ≠ digit := ne_of_isDigit isDigit (by decide)
  simp [scanAtom, afterWord, infinite]

/-- A rendered integer starts with a digit or with a minus sign and a digit. -/
theorem renderInt_shape
    {value : Int}
    {text : List Char}
    (rendered : renderInt value = some text) :
    ∃ digit tail, digit.isDigit = true ∧
      (text = digit :: tail ∨ text = '-' :: digit :: tail) := by
  unfold renderInt at rendered
  dsimp only at rendered
  cases shape : Nat.toDigits 10 value.natAbs with
  | nil => exact absurd shape Nat.toDigits_ne_nil
  | cons digit tail =>
      have member : digit ∈ Nat.toDigits 10 value.natAbs := by
        rw [shape]
        exact List.mem_cons_self
      refine ⟨digit, tail, Nat.isDigit_of_mem_toDigits (by omega) (by omega) member, ?_⟩
      rw [shape] at rendered
      split_ifs at rendered with long negative
      · exact Or.inr (Option.some.inj rendered).symm
      · exact Or.inl (Option.some.inj rendered).symm

theorem scanValue_renderInt
    {value : Int}
    {text rest : List Char}
    (rendered : renderInt value = some text)
    (ends : EndsNumber rest)
    (fuel : Nat) :
    scanValue (fuel + 1) (text ++ rest) = some (.int value, rest) := by
  rw [← scanNumber_renderInt rendered ends]
  obtain ⟨digit, tail, isDigit, rfl | rfl⟩ := renderInt_shape rendered
  · have quote := ne_of_isDigit isDigit (show '"'.isDigit = false by decide)
    have brace := ne_of_isDigit isDigit (show '{'.isDigit = false by decide)
    have bracket := ne_of_isDigit isDigit (show '['.isDigit = false by decide)
    simp only [List.cons_append, scanValue, quote.symm, brace.symm, bracket.symm, if_false,
      scanAtom_digit isDigit]
  · simp [scanValue, scanAtom_minus isDigit]

/-- A rendered scalar is read back. -/
theorem scanValue_dumps
    {value : Json}
    (scalar : IsScalar value)
    {text rest : List Char}
    (rendered : dumps value = some text)
    (ends : EndsNumber rest)
    (fuel : Nat) :
    scanValue (fuel + 1) (text ++ rest) = some (value, rest) := by
  cases value with
  | null =>
      obtain rfl := Option.some.inj rendered
      rfl
  | bool value =>
      obtain rfl := Option.some.inj rendered
      cases value <;> rfl
  | int value =>
      rw [dumps] at rendered
      exact scanValue_renderInt rendered ends fuel
  | str value =>
      obtain rfl := Option.some.inj rendered
      simp [renderString, scanValue, scanString_escaped]
  | float literal => exact scalar.elim
  | arr elements => exact scalar.elim
  | obj members => exact scalar.elim

/-! ## Flat objects -/

theorem skipBlank_cons {head : Char} (visible : isBlank head = false) (tail : List Char) :
    skipBlank (head :: tail) = head :: tail := by
  simp [skipBlank, visible]

theorem isBlank_digit {digit : Char} (isDigit : digit.isDigit = true) :
    isBlank digit = false := by
  have blank := (ne_of_isDigit isDigit (show ' '.isDigit = false by decide)).symm
  have tab := (ne_of_isDigit isDigit (show '\t'.isDigit = false by decide)).symm
  have newline := (ne_of_isDigit isDigit (show '\n'.isDigit = false by decide)).symm
  have ret := (ne_of_isDigit isDigit (show '\r'.isDigit = false by decide)).symm
  simp [isBlank, blank, tab, newline, ret]

/-- A rendered scalar does not start with a blank. -/
theorem skipBlank_dumps
    {value : Json}
    (scalar : IsScalar value)
    {text : List Char}
    (rendered : dumps value = some text)
    (rest : List Char) :
    skipBlank (text ++ rest) = text ++ rest := by
  cases value with
  | null =>
      obtain rfl := Option.some.inj rendered
      rfl
  | bool value =>
      obtain rfl := Option.some.inj rendered
      cases value <;> rfl
  | int value =>
      rw [dumps] at rendered
      obtain ⟨digit, tail, isDigit, rfl | rfl⟩ := renderInt_shape rendered
      · exact skipBlank_cons (isBlank_digit isDigit) (tail ++ rest)
      · exact skipBlank_cons (by decide) (digit :: tail ++ rest)
  | str value =>
      obtain rfl := Option.some.inj rendered
      exact skipBlank_cons (by decide) _
  | float literal => exact scalar.elim
  | arr elements => exact scalar.elim
  | obj members => exact scalar.elim

theorem endsNumber_cons
    {head : Char}
    (mark : head = ',' ∨ head = '}')
    (tail : List Char) :
    EndsNumber (head :: tail) := by
  intro first isFirst
  rw [List.head?_cons, Option.mem_some_iff] at isFirst
  subst isFirst
  rcases mark with rfl | rfl <;> decide

/-- One member, up to the mark that ends it. -/
theorem scanMembers_member
    (key : String)
    {value : Json}
    (scalar : IsScalar value)
    {text : List Char}
    (rendered : dumps value = some text)
    {mark : Char}
    (isMark : mark = ',' ∨ mark = '}')
    (rest : List Char)
    (fuel : Nat) :
    scanMembers (fuel + 2)
        (key.toList.flatMap escapeChar ++ '"' :: ':' :: ' ' :: (text ++ mark :: rest)) =
      if mark = '}' then some ([(key, value)], rest)
      else
        match skipBlank rest with
        | [] => none
        | quote :: after =>
            if quote ≠ '"' then none
            else
              (scanMembers (fuel + 1) after).map fun (members, after) =>
                ((key, value) :: members, after) := by
  have colon : skipBlank (':' :: ' ' :: (text ++ mark :: rest)) =
      ':' :: ' ' :: (text ++ mark :: rest) := skipBlank_cons (by decide) _
  have visible : skipBlank (' ' :: (text ++ mark :: rest)) = text ++ mark :: rest :=
    skipBlank_dumps scalar rendered (mark :: rest)
  have read := scanValue_dumps scalar rendered (endsNumber_cons isMark rest) fuel
  have marked : skipBlank (mark :: rest) = mark :: rest := by
    rcases isMark with rfl | rfl <;> exact skipBlank_cons (by decide) rest
  rw [scanMembers]
  simp only [scanString_escaped, colon, visible, read, marked, ne_eq, not_true_eq_false,
    if_false]
  rcases isMark with rfl | rfl <;> rfl

theorem dumpsMembers_eq_map (members : List (String × Json)) :
    dumpsMembers members = members.map fun member => (member.1, dumps member.2) := by
  induction members with
  | nil => rfl
  | cons member rest inductionHypothesis =>
      rw [dumpsMembers, inductionHypothesis]
      rfl

/-- Rendered members are read back. -/
theorem scanMembers_dumpsMembers
    (members : List (String × Json))
    (nonempty : members ≠ [])
    (scalars : ∀ member ∈ members, IsScalar member.2)
    {texts : List (List Char)}
    (rendered : (dumpsMembers members).mapM renderMember = some texts)
    (rest : List Char)
    {fuel : Nat}
    (enough : members.length < fuel) :
    ∃ body, commaSeparated texts ++ '}' :: rest = '"' :: body ∧
      scanMembers fuel body = some (members, rest) := by
  induction members generalizing texts fuel with
  | nil => exact absurd rfl nonempty
  | cons member others inductionHypothesis =>
      obtain ⟨key, value⟩ := member
      have scalar := scalars (key, value) List.mem_cons_self
      simp only [dumpsMembers, List.mapM_cons, renderMember, Option.bind_eq_bind,
        Option.bind_eq_some_iff, Option.map_eq_some_iff, Option.pure_def,
        Option.some.injEq] at rendered
      obtain ⟨_, ⟨text, valueRendered, rfl⟩, otherTexts, othersRendered, rfl⟩ := rendered
      obtain ⟨fuel, rfl⟩ : ∃ less, fuel = less + 2 :=
        ⟨fuel - 2, by rw [List.length_cons] at enough; omega⟩
      cases others with
      | nil =>
          obtain rfl : [] = otherTexts := by simpa [dumpsMembers] using othersRendered
          refine ⟨_, rfl, ?_⟩
          simpa using scanMembers_member key scalar valueRendered (Or.inr rfl) rest fuel
      | cons other others =>
          obtain ⟨body, read, scanned⟩ := inductionHypothesis (List.cons_ne_nil other others)
            (fun member inOthers => scalars member (List.mem_cons_of_mem _ inOthers))
            othersRendered (show (other :: others).length < fuel + 1 by
              rw [List.length_cons] at enough
              omega)
          have separated : commaSeparated
              ((renderString key ++ [':', ' '] ++ text) :: otherTexts) =
              (renderString key ++ [':', ' '] ++ text) ++ [',', ' '] ++
                commaSeparated otherTexts := by
            cases otherTexts with
            | nil => simp [commaSeparated] at read
            | cons first more => rfl
          refine ⟨key.toList.flatMap escapeChar ++
            '"' :: ':' :: ' ' :: (text ++ ',' :: ' ' :: '"' :: body), ?_, ?_⟩
          · rw [separated, List.append_assoc, read]
            simp [renderString]
          · rw [scanMembers_member key scalar valueRendered (Or.inl rfl) _ fuel,
              show skipBlank (' ' :: '"' :: body) = '"' :: body from rfl]
            simp [scanned]

theorem length_le_length_commaSeparated
    {texts : List (List Char)}
    (nonempty : ∀ text ∈ texts, text ≠ []) :
    texts.length ≤ (commaSeparated texts).length := by
  induction texts with
  | nil => simp
  | cons text rest inductionHypothesis =>
      have first := List.length_pos_of_ne_nil (nonempty text List.mem_cons_self)
      cases rest with
      | nil => exact first
      | cons second rest =>
          have others := inductionHypothesis fun other member =>
            nonempty other (List.mem_cons_of_mem text member)
          simp only [commaSeparated, List.length_append, List.length_cons] at others ⊢
          omega

theorem mapM_renderMember_shape
    {members : List (String × Option (List Char))}
    {texts : List (List Char)}
    (rendered : members.mapM renderMember = some texts) :
    texts.length = members.length ∧ ∀ text ∈ texts, text ≠ [] := by
  induction members generalizing texts with
  | nil =>
      obtain rfl : [] = texts := by simpa using rendered
      simp
  | cons member members inductionHypothesis =>
      simp only [List.mapM_cons, renderMember, Option.bind_eq_bind, Option.bind_eq_some_iff,
        Option.map_eq_some_iff, Option.pure_def, Option.some.injEq] at rendered
      obtain ⟨_, ⟨text, _, rfl⟩, others, othersRendered, rfl⟩ := rendered
      have shape := inductionHypothesis othersRendered
      simp [shape.1, renderString]
      exact shape.2

/-- A rendered flat object is read back with its members sorted by key. -/
theorem loads_dumps_obj
    {members : List (String × Json)}
    (scalars : ∀ member ∈ members, IsScalar member.2)
    {text : List Char}
    (rendered : dumps (.obj members) = some text) :
    loads text = some (.obj (members.insertionSort keyLE)) := by
  have sorted : (dumpsMembers members).insertionSort keyLE =
      dumpsMembers (members.insertionSort keyLE) := by
    rw [dumpsMembers_eq_map, dumpsMembers_eq_map]
    exact (List.map_insertionSort keyLE keyLE
      (fun member : String × Json => (member.1, dumps member.2)) members
      fun _ _ _ _ => Iff.rfl).symm
  rw [dumps, Option.map_eq_some_iff] at rendered
  obtain ⟨texts, renderedMembers, rfl⟩ := rendered
  rw [sorted] at renderedMembers
  have sortedScalars : ∀ member ∈ members.insertionSort keyLE, IsScalar member.2 :=
    fun member inSorted => scalars member ((List.mem_insertionSort keyLE).mp inSorted)
  generalize members.insertionSort keyLE = ordered at renderedMembers sortedScalars ⊢
  have shape := mapM_renderMember_shape renderedMembers
  have count : ordered.length ≤ (commaSeparated texts).length := by
    have bound := length_le_length_commaSeparated shape.2
    rwa [shape.1, dumpsMembers_eq_map, List.length_map] at bound
  cases ordered with
  | nil =>
      obtain rfl : [] = texts := by simpa [dumpsMembers] using renderedMembers
      rfl
  | cons member others =>
      have enough : (member :: others).length < (commaSeparated texts ++ ['}']).length + 1 := by
        rw [List.length_append]
        omega
      obtain ⟨body, read, scanned⟩ := scanMembers_dumpsMembers (member :: others)
        (List.cons_ne_nil member others) sortedScalars renderedMembers [] enough
      have opening : skipBlank ('{' :: '"' :: body) = '{' :: '"' :: body :=
        skipBlank_cons (by decide) _
      have quoted : skipBlank ('"' :: body) = '"' :: body := skipBlank_cons (by decide) _
      rw [read, List.length_cons] at scanned
      rw [List.append_assoc, read, loads]
      simp [opening, scanValue, quoted, scanned, show skipBlank [] = [] from rfl]

/-! ## What can be written -/

theorem isSome_mapM_iff
    {compute : α → Option β}
    {items : List α} :
    (items.mapM compute).isSome ↔ ∀ item ∈ items, (compute item).isSome := by
  induction items with
  | nil => exact ⟨fun _ _ member => absurd member List.not_mem_nil, fun _ => rfl⟩
  | cons item items rest =>
      rw [List.mapM_cons, List.forall_mem_cons, ← rest]
      cases compute item <;> cases items.mapM compute <;> simp

/-- An object has a text where all its members have one. -/
theorem isSome_dumps_obj_iff (members : List (String × Json)) :
    (dumps (.obj members)).isSome ↔ ∀ member ∈ members, (dumps member.2).isSome := by
  rw [dumps, Option.isSome_map, isSome_mapM_iff, dumpsMembers_eq_map]
  simp only [List.mem_insertionSort, List.forall_mem_map, renderMember, Option.isSome_map]

theorem isSome_renderInt_iff (value : Int) :
    (renderInt value).isSome ↔ value.natAbs < 10 ^ maxDigits := by
  have short := Nat.length_toDigits_le_iff (b := 10) (k := maxDigits) (n := value.natAbs)
    (by decide) (by decide)
  rw [← short, renderInt]
  split
  · next long =>
      simp only [Option.isSome_none, Bool.false_eq_true, false_iff]
      omega
  · next fits =>
      simp only [Option.isSome_some, true_iff]
      omega

/-! ## Lookups -/

theorem get?_of_mem
    {members : List (String × Json)}
    (distinct : (members.map Prod.fst).Nodup)
    {key : String}
    {value : Json}
    (member : (key, value) ∈ members) :
    get? members key = some value := by
  unfold get?
  cases found : members.reverse.find? fun member => member.1 = key with
  | none =>
      have absent := List.find?_eq_none.mp found (key, value) (List.mem_reverse.mpr member)
      simp at absent
  | some other =>
      have sameKey : other.1 = key := by simpa using List.find?_some found
      have inMembers : other ∈ members := List.mem_reverse.mp (List.mem_of_find?_eq_some found)
      have same := List.inj_on_of_nodup_map distinct inMembers member sameKey
      rw [same]
      rfl

theorem get?_of_not_mem
    {members : List (String × Json)}
    {key : String}
    (absent : key ∉ members.map Prod.fst) :
    get? members key = none := by
  unfold get?
  rw [Option.map_eq_none_iff, List.find?_eq_none]
  intro member inReverse
  simp only [decide_eq_true_eq]
  intro sameKey
  exact absent (List.mem_map.mpr ⟨member, List.mem_reverse.mp inReverse, sameKey⟩)

/-- The order of the members does not matter to a lookup. -/
theorem get?_of_perm
    {members others : List (String × Json)}
    (distinct : (members.map Prod.fst).Nodup)
    (permuted : others.Perm members)
    (key : String) :
    get? others key = get? members key := by
  have keysPermuted := permuted.map Prod.fst
  by_cases present : key ∈ members.map Prod.fst
  · obtain ⟨⟨_, value⟩, member, rfl⟩ := List.mem_map.mp present
    rw [get?_of_mem distinct member,
      get?_of_mem (keysPermuted.nodup_iff.mpr distinct) (permuted.mem_iff.mpr member)]
  · rw [get?_of_not_mem present,
      get?_of_not_mem fun inOthers => present (keysPermuted.mem_iff.mp inOthers)]

/-- Sorting the members does not change a lookup. -/
theorem get?_insertionSort
    {members : List (String × Json)}
    (distinct : (members.map Prod.fst).Nodup)
    (key : String) :
    get? (members.insertionSort keyLE) key = get? members key :=
  get?_of_perm distinct (List.perm_insertionSort keyLE members) key

/-! ## Members that may be left out -/

/-- The members of the fields that have a value. -/
def present (fields : List (String × Option Json)) : List (String × Json) :=
  fields.filterMap fun field => field.2.map fun value => (field.1, value)

theorem mem_present {fields : List (String × Option Json)} {key : String} {value : Json} :
    (key, value) ∈ present fields ↔ (key, some value) ∈ fields := by
  simp only [present, List.mem_filterMap, Option.map_eq_some_iff, Prod.mk.injEq]
  constructor
  · rintro ⟨⟨name, held⟩, member, found, isHeld, rfl, rfl⟩
    rwa [← isHeld]
  · intro member
    exact ⟨(key, some value), member, value, rfl, rfl, rfl⟩

theorem keys_present_sublist (fields : List (String × Option Json)) :
    ((present fields).map Prod.fst).Sublist (fields.map Prod.fst) := by
  induction fields with
  | nil => exact List.Sublist.refl _
  | cons field fields rest =>
      obtain ⟨name, held⟩ := field
      cases held with
      | none => exact List.Sublist.cons name rest
      | some value => exact List.Sublist.cons_cons name rest

theorem get?_present
    {fields : List (String × Option Json)}
    (distinct : (fields.map Prod.fst).Nodup)
    {key : String}
    {value : Option Json}
    (member : (key, value) ∈ fields) :
    get? (present fields) key = value := by
  cases value with
  | some value =>
      exact get?_of_mem (distinct.sublist (keys_present_sublist fields)) (mem_present.mpr member)
  | none =>
      apply get?_of_not_mem
      intro inPresent
      obtain ⟨⟨_, value⟩, isPresent, rfl⟩ := List.mem_map.mp inPresent
      have same := List.inj_on_of_nodup_map distinct member (mem_present.mp isPresent) rfl
      cases (Prod.mk.inj same).2

theorem get?_present_of_not_mem
    {fields : List (String × Option Json)}
    {key : String}
    (absent : key ∉ fields.map Prod.fst) :
    get? (present fields) key = none :=
  get?_of_not_mem fun member => absent ((keys_present_sublist fields).subset member)

end Json
end Foundation
