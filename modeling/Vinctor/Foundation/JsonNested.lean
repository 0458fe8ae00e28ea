import Vinctor.Foundation.JsonRoundTrip

/-!
# Reading back values with parts

Writing a value without fractions and reading it back gives the value with the members
of every object in it sorted by key.
-/

namespace Foundation
namespace Json

/-! ## Plain and canonical values -/

mutual

/-- No part of the value is a number with a fraction or an exponent. -/
def isPlain : Json → Bool
  | .float _ => false
  | .arr elements => arePlain elements
  | .obj members => membersPlain members
  | .null | .bool _ | .int _ | .str _ => true

def arePlain : List Json → Bool
  | [] => true
  | element :: rest => isPlain element && arePlain rest

def membersPlain : List (String × Json) → Bool
  | [] => true
  | (_, value) :: rest => isPlain value && membersPlain rest

end

mutual

/-- The value with the members of every object in it in the order they are written. -/
def canonical : Json → Json
  | .arr elements => .arr (canonicalElements elements)
  | .obj members => .obj ((canonicalMembers members).insertionSort keyLE)
  | value => value

def canonicalElements : List Json → List Json
  | [] => []
  | element :: rest => canonical element :: canonicalElements rest

def canonicalMembers : List (String × Json) → List (String × Json)
  | [] => []
  | (key, value) :: rest => (key, canonical value) :: canonicalMembers rest

end

@[simp] theorem canonical_str (value : String) : canonical (.str value) = .str value := rfl

@[simp] theorem canonical_arr (elements : List Json) :
    canonical (.arr elements) = .arr (canonicalElements elements) := rfl

@[simp] theorem canonical_obj (members : List (String × Json)) :
    canonical (.obj members) = .obj ((canonicalMembers members).insertionSort keyLE) := rfl

theorem arePlain_iff (elements : List Json) :
    arePlain elements = true ↔ ∀ element ∈ elements, isPlain element = true := by
  induction elements with
  | nil => simp [arePlain]
  | cons element rest inductionHypothesis => simp [arePlain, inductionHypothesis]

theorem membersPlain_iff (members : List (String × Json)) :
    membersPlain members = true ↔ ∀ member ∈ members, isPlain member.2 = true := by
  induction members with
  | nil => simp [membersPlain]
  | cons member rest inductionHypothesis =>
      obtain ⟨key, value⟩ := member
      simp [membersPlain, inductionHypothesis]

theorem canonicalElements_eq_map (elements : List Json) :
    canonicalElements elements = elements.map canonical := by
  induction elements with
  | nil => rfl
  | cons element rest inductionHypothesis =>
      rw [canonicalElements, inductionHypothesis]
      rfl

theorem canonicalMembers_eq_map (members : List (String × Json)) :
    canonicalMembers members = members.map fun member => (member.1, canonical member.2) := by
  induction members with
  | nil => rfl
  | cons member rest inductionHypothesis =>
      rw [canonicalMembers, inductionHypothesis]
      rfl

theorem dumpsElements_eq_map (elements : List Json) :
    dumpsElements elements = elements.map dumps := by
  induction elements with
  | nil => rfl
  | cons element rest inductionHypothesis =>
      rw [dumpsElements, inductionHypothesis]
      rfl

/-- Members are sorted before or after their values are put in order. -/
theorem insertionSort_canonicalMembers (members : List (String × Json)) :
    (canonicalMembers members).insertionSort keyLE =
      canonicalMembers (members.insertionSort keyLE) := by
  rw [canonicalMembers_eq_map, canonicalMembers_eq_map]
  exact (List.map_insertionSort keyLE keyLE
    (fun member : String × Json => (member.1, canonical member.2)) members
    fun _ _ _ _ => Iff.rfl).symm

/-- Members are sorted before or after they are written. -/
theorem insertionSort_dumpsMembers (members : List (String × Json)) :
    (dumpsMembers members).insertionSort keyLE =
      dumpsMembers (members.insertionSort keyLE) := by
  rw [dumpsMembers_eq_map, dumpsMembers_eq_map]
  exact (List.map_insertionSort keyLE keyLE
    (fun member : String × Json => (member.1, dumps member.2)) members
    fun _ _ _ _ => Iff.rfl).symm

/-! ## Heads of texts -/

/-- A character that a value may start with. -/
def opens (head : Char) : Bool := !isBlank head && head ≠ ']' && head ≠ '\uFEFF'

theorem isBlank_of_opens {head : Char} (isOpening : opens head = true) : isBlank head = false := by
  simp only [opens, Bool.and_eq_true, Bool.not_eq_true'] at isOpening
  exact isOpening.1.1

theorem ne_bracket_of_opens {head : Char} (isOpening : opens head = true) : head ≠ ']' := by
  simp only [opens, Bool.and_eq_true, decide_eq_true_eq] at isOpening
  exact isOpening.1.2

theorem ne_mark_of_opens {head : Char} (isOpening : opens head = true) : head ≠ '\uFEFF' := by
  simp only [opens, Bool.and_eq_true, decide_eq_true_eq] at isOpening
  exact isOpening.2

theorem opens_digit {digit : Char} (isDigit : digit.isDigit = true) : opens digit = true := by
  have bracket := (ne_of_isDigit isDigit (show ']'.isDigit = false by decide)).symm
  have mark := (ne_of_isDigit isDigit (show '\uFEFF'.isDigit = false by decide)).symm
  simp [opens, isBlank_digit isDigit, bracket, mark]

theorem dumps_head
    {value : Json}
    (plain : isPlain value = true)
    {text : List Char}
    (rendered : dumps value = some text) :
    ∃ head tail, text = head :: tail ∧ opens head = true := by
  cases value with
  | null => exact ⟨'n', _, (Option.some.inj rendered).symm, by decide⟩
  | bool value =>
      cases value
      · exact ⟨'f', _, (Option.some.inj rendered).symm, by decide⟩
      · exact ⟨'t', _, (Option.some.inj rendered).symm, by decide⟩
  | int value =>
      rw [dumps] at rendered
      obtain ⟨digit, tail, isDigit, rfl | rfl⟩ := renderInt_shape rendered
      · exact ⟨digit, tail, rfl, opens_digit isDigit⟩
      · exact ⟨'-', _, rfl, by decide⟩
  | float literal => cases plain
  | str value => exact ⟨'"', _, (Option.some.inj rendered).symm, by decide⟩
  | arr elements =>
      rw [dumps, Option.map_eq_some_iff] at rendered
      obtain ⟨texts, -, rfl⟩ := rendered
      exact ⟨'[', _, rfl, by decide⟩
  | obj members =>
      rw [dumps, Option.map_eq_some_iff] at rendered
      obtain ⟨texts, -, rfl⟩ := rendered
      exact ⟨'{', _, rfl, by decide⟩

theorem skipBlank_plain
    {value : Json}
    (plain : isPlain value = true)
    {text : List Char}
    (rendered : dumps value = some text)
    (rest : List Char) : skipBlank (text ++ rest) = text ++ rest := by
  obtain ⟨head, tail, rfl, isOpening⟩ := dumps_head plain rendered
  exact skipBlank_cons (isBlank_of_opens isOpening) (tail ++ rest)

theorem commaSeparated_cons_cons (text second : List Char) (rest : List (List Char)) :
    commaSeparated (text :: second :: rest) =
      text ++ [',', ' '] ++ commaSeparated (second :: rest) := rfl

/-- A mark that may follow a value. -/
theorem endsNumber_mark
    {mark : Char}
    (isMark : mark = ',' ∨ mark = '}' ∨ mark = ']')
    (tail : List Char) : EndsNumber (mark :: tail) := by
  intro first isFirst
  rw [List.head?_cons, Option.mem_some_iff] at isFirst
  subst isFirst
  rcases isMark with rfl | rfl | rfl <;> decide

theorem isBlank_mark
    {mark : Char}
    (isMark : mark = ',' ∨ mark = '}' ∨ mark = ']') : isBlank mark = false := by
  rcases isMark with rfl | rfl | rfl <;> decide

/-- Texts start with the head of the first of them. -/
theorem commaSeparated_head (head : Char) (tail : List Char) (rest : List (List Char)) :
    ∃ more, commaSeparated ((head :: tail) :: rest) = head :: more := by
  cases rest with
  | nil => exact ⟨tail, rfl⟩
  | cons second rest => exact ⟨_, rfl⟩

theorem commaSeparated_elements_head
    {element : Json}
    (plain : isPlain element = true)
    {others : List Json}
    {texts : List (List Char)}
    (rendered : (dumpsElements (element :: others)).mapM id = some texts) :
    ∃ head tail, commaSeparated texts = head :: tail ∧ opens head = true := by
  simp only [dumpsElements, List.mapM_cons, id_eq, Option.bind_eq_bind,
    Option.bind_eq_some_iff, Option.pure_def, Option.some.injEq] at rendered
  obtain ⟨text, elementRendered, rest, -, rfl⟩ := rendered
  obtain ⟨head, tail, rfl, isOpening⟩ := dumps_head plain elementRendered
  obtain ⟨more, starts⟩ := commaSeparated_head head tail rest
  exact ⟨head, more, starts, isOpening⟩

/-! ## Reading back -/

/-- With fuel for its text, a value is read back in its order. -/
def ReadsBack (value : Json) : Prop :=
  ∀ (text rest : List Char) (fuel : Nat), dumps value = some text → EndsNumber rest →
    text.length < fuel → scanValue fuel (text ++ rest) = some (canonical value, rest)

theorem readsBack_scalar {value : Json} (scalar : IsScalar value) : ReadsBack value := by
  intro text rest fuel rendered ends enough
  obtain ⟨fuel, rfl⟩ : ∃ less, fuel = less + 1 := ⟨fuel - 1, by omega⟩
  rw [scanValue_dumps scalar rendered ends fuel]
  cases value with
  | float literal => exact scalar.elim
  | arr elements => exact scalar.elim
  | obj members => exact scalar.elim
  | _ => rfl

/-- The elements of an array are read back when each is. -/
theorem scanElements_dumpsElements
    (elements : List Json)
    (nonempty : elements ≠ [])
    (plain : ∀ element ∈ elements, isPlain element = true)
    (reads : ∀ element ∈ elements, ReadsBack element)
    {texts : List (List Char)}
    (rendered : (dumpsElements elements).mapM id = some texts)
    (rest : List Char)
    {fuel : Nat}
    (enough : (commaSeparated texts).length + 1 < fuel) :
    scanElements fuel (commaSeparated texts ++ ']' :: rest) =
      some (canonicalElements elements, rest) := by
  induction elements generalizing texts fuel with
  | nil => exact absurd rfl nonempty
  | cons element others inductionHypothesis =>
      have whole := rendered
      simp only [dumpsElements, List.mapM_cons, id_eq, Option.bind_eq_bind,
        Option.bind_eq_some_iff, Option.pure_def, Option.some.injEq] at rendered
      obtain ⟨text, elementRendered, otherTexts, othersRendered, rfl⟩ := rendered
      have read := reads element List.mem_cons_self text
      obtain ⟨fuel, rfl⟩ : ∃ less, fuel = less + 1 := ⟨fuel - 1, by omega⟩
      cases others with
      | nil =>
          obtain rfl : [] = otherTexts := by simpa [dumpsElements] using othersRendered
          rw [commaSeparated] at enough ⊢
          rw [scanElements, read (']' :: rest) fuel elementRendered
            (endsNumber_mark (.inr (.inr rfl)) rest) (by omega)]
          simp only [skipBlank_cons (show isBlank ']' = false by decide), if_true]
          rfl
      | cons other others =>
          have otherPlain := plain other (List.mem_cons_of_mem _ List.mem_cons_self)
          obtain ⟨head, tail, starts, isOpening⟩ :=
            commaSeparated_elements_head otherPlain othersRendered
          obtain ⟨second, more, rfl⟩ : ∃ second more, otherTexts = second :: more :=
            List.exists_cons_of_ne_nil (by rintro rfl; cases starts)
          rw [commaSeparated_cons_cons] at enough ⊢
          simp only [List.length_append, List.length_cons, List.length_nil] at enough
          have later := inductionHypothesis (List.cons_ne_nil other others)
            (fun found inOthers => plain found (List.mem_cons_of_mem _ inOthers))
            (fun found inOthers => reads found (List.mem_cons_of_mem _ inOthers))
            othersRendered (show (commaSeparated (second :: more)).length + 1 < fuel by omega)
          rw [starts] at later ⊢
          have skipped : skipBlank (' ' :: (head :: tail ++ ']' :: rest)) =
              head :: tail ++ ']' :: rest :=
            skipBlank_cons (isBlank_of_opens isOpening) (tail ++ ']' :: rest)
          have joined : text ++ [',', ' '] ++ (head :: tail) ++ ']' :: rest =
              text ++ ',' :: ' ' :: (head :: tail ++ ']' :: rest) := by simp
          rw [joined, scanElements,
            read _ fuel elementRendered (endsNumber_mark (.inl rfl) _) (by omega)]
          simp only [skipBlank_cons (show isBlank ',' = false by decide), skipped, later,
            Option.map_some]
          rfl

/-- One member, up to the mark that ends it. -/
theorem scanMembers_readsBack
    (key : String)
    {value : Json}
    (plain : isPlain value = true)
    (reads : ReadsBack value)
    {text : List Char}
    (rendered : dumps value = some text)
    {mark : Char}
    (isMark : mark = ',' ∨ mark = '}')
    (rest : List Char)
    {fuel : Nat}
    (enough : text.length < fuel) :
    scanMembers (fuel + 1)
        (key.toList.flatMap escapeChar ++ '"' :: ':' :: ' ' :: (text ++ mark :: rest)) =
      if mark = '}' then some ([(key, canonical value)], rest)
      else
        match skipBlank rest with
        | [] => none
        | quote :: after =>
            if quote ≠ '"' then none
            else
              (scanMembers fuel after).map fun (members, after) =>
                ((key, canonical value) :: members, after) := by
  have colon : skipBlank (':' :: ' ' :: (text ++ mark :: rest)) =
      ':' :: ' ' :: (text ++ mark :: rest) := skipBlank_cons (by decide) _
  have visible : skipBlank (' ' :: (text ++ mark :: rest)) = text ++ mark :: rest :=
    skipBlank_plain plain rendered (mark :: rest)
  have read := reads text (mark :: rest) fuel rendered (endsNumber_cons isMark rest) enough
  have marked : skipBlank (mark :: rest) = mark :: rest := by
    rcases isMark with rfl | rfl <;> exact skipBlank_cons (by decide) rest
  rw [scanMembers]
  simp only [scanString_escaped, colon, visible, read, marked, ne_eq, not_true_eq_false,
    if_false]
  rcases isMark with rfl | rfl <;> rfl

/-- The members of an object are read back when the value of each is. -/
theorem scanMembers_written
    (members : List (String × Json))
    (nonempty : members ≠ [])
    (plain : ∀ member ∈ members, isPlain member.2 = true)
    (reads : ∀ member ∈ members, ReadsBack member.2)
    {texts : List (List Char)}
    (rendered : (dumpsMembers members).mapM renderMember = some texts)
    (rest : List Char)
    {fuel : Nat}
    (enough : (commaSeparated texts).length ≤ fuel) :
    ∃ body, commaSeparated texts ++ '}' :: rest = '"' :: body ∧
      scanMembers fuel body = some (canonicalMembers members, rest) := by
  induction members generalizing texts fuel with
  | nil => exact absurd rfl nonempty
  | cons member others inductionHypothesis =>
      obtain ⟨key, value⟩ := member
      simp only [dumpsMembers, List.mapM_cons, renderMember, Option.bind_eq_bind,
        Option.bind_eq_some_iff, Option.map_eq_some_iff, Option.pure_def,
        Option.some.injEq] at rendered
      obtain ⟨_, ⟨text, valueRendered, rfl⟩, otherTexts, othersRendered, rfl⟩ := rendered
      have first := plain (key, value) List.mem_cons_self
      have read := reads (key, value) List.mem_cons_self
      cases others with
      | nil =>
          obtain rfl : [] = otherTexts := by simpa [dumpsMembers] using othersRendered
          rw [commaSeparated] at enough ⊢
          simp only [renderString, List.length_append, List.length_cons, List.length_nil] at enough
          obtain ⟨fuel, rfl⟩ : ∃ less, fuel = less + 1 := ⟨fuel - 1, by omega⟩
          refine ⟨key.toList.flatMap escapeChar ++ '"' :: ':' :: ' ' :: (text ++ '}' :: rest),
            by simp [renderString], ?_⟩
          rw [scanMembers_readsBack key first read valueRendered (.inr rfl) rest (by omega)]
          rfl
      | cons other others =>
          obtain ⟨second, more, rfl⟩ : ∃ second more, otherTexts = second :: more := by
            have shape := (mapM_renderMember_shape othersRendered).1
            rw [dumpsMembers_eq_map, List.length_map, List.length_cons] at shape
            exact List.exists_cons_of_ne_nil (by rintro rfl; cases shape)
          rw [commaSeparated_cons_cons] at enough ⊢
          simp only [renderString, List.length_append, List.length_cons, List.length_nil] at enough
          obtain ⟨fuel, rfl⟩ : ∃ less, fuel = less + 1 := ⟨fuel - 1, by omega⟩
          obtain ⟨body, starts, scanned⟩ := inductionHypothesis (List.cons_ne_nil other others)
            (fun found inOthers => plain found (List.mem_cons_of_mem _ inOthers))
            (fun found inOthers => reads found (List.mem_cons_of_mem _ inOthers))
            othersRendered (show (commaSeparated (second :: more)).length ≤ fuel by omega)
          refine ⟨key.toList.flatMap escapeChar ++
            '"' :: ':' :: ' ' :: (text ++ ',' :: ' ' :: '"' :: body), ?_, ?_⟩
          · rw [List.append_assoc, starts]
            simp [renderString]
          · rw [scanMembers_readsBack key first read valueRendered (.inl rfl) _ (by omega),
              show skipBlank (' ' :: '"' :: body) = '"' :: body from rfl]
            simp [scanned, canonicalMembers]

/-- A plain value is read back in its order. -/
theorem readsBack (value : Json) (plain : isPlain value = true) : ReadsBack value := by
  match value with
  | .null => exact readsBack_scalar trivial
  | .bool _ => exact readsBack_scalar trivial
  | .int _ => exact readsBack_scalar trivial
  | .str _ => exact readsBack_scalar trivial
  | .float _ => cases plain
  | .arr elements =>
      have plains : ∀ element ∈ elements, isPlain element = true := (arePlain_iff elements).mp plain
      have reads : ∀ element ∈ elements, ReadsBack element :=
        fun element present => readsBack element (plains element present)
      intro text rest fuel rendered ends enough
      rw [dumps, Option.map_eq_some_iff] at rendered
      obtain ⟨texts, renderedElements, rfl⟩ := rendered
      simp only [List.length_append, List.length_cons, List.length_nil] at enough
      obtain ⟨fuel, rfl⟩ : ∃ less, fuel = less + 1 := ⟨fuel - 1, by omega⟩
      cases elements with
      | nil =>
          obtain rfl : [] = texts := by simpa [dumpsElements] using renderedElements
          rfl
      | cons element others =>
          obtain ⟨head, tail, starts, isOpening⟩ := commaSeparated_elements_head
            (plains element List.mem_cons_self) renderedElements
          have scanned := scanElements_dumpsElements (element :: others)
            (List.cons_ne_nil element others) plains reads renderedElements rest
            (show (commaSeparated texts).length + 1 < fuel by omega)
          rw [starts] at scanned ⊢
          have opening : ['['] ++ (head :: tail) ++ [']'] ++ rest =
              '[' :: (head :: tail ++ ']' :: rest) := by simp
          have skipped : skipBlank (head :: tail ++ ']' :: rest) = head :: tail ++ ']' :: rest :=
            skipBlank_cons (isBlank_of_opens isOpening) (tail ++ ']' :: rest)
          rw [opening, scanValue]
          simp only [List.cons_append] at scanned skipped ⊢
          simp [skipped, ne_bracket_of_opens isOpening, scanned]
  | .obj members =>
      have plains : ∀ member ∈ members, isPlain member.2 = true :=
        (membersPlain_iff members).mp plain
      have reads : ∀ member ∈ members, ReadsBack member.2 :=
        fun member present => readsBack member.2 (plains member present)
      intro text rest fuel rendered ends enough
      rw [dumps, Option.map_eq_some_iff] at rendered
      obtain ⟨texts, renderedMembers, rfl⟩ := rendered
      rw [insertionSort_dumpsMembers] at renderedMembers
      rw [canonical_obj, insertionSort_canonicalMembers]
      have sortedPlain : ∀ member ∈ members.insertionSort keyLE, isPlain member.2 = true :=
        fun member inSorted => plains member ((List.mem_insertionSort keyLE).mp inSorted)
      have sortedReads : ∀ member ∈ members.insertionSort keyLE, ReadsBack member.2 :=
        fun member inSorted => reads member ((List.mem_insertionSort keyLE).mp inSorted)
      generalize members.insertionSort keyLE = sorted at renderedMembers sortedPlain sortedReads ⊢
      simp only [List.length_append, List.length_cons, List.length_nil] at enough
      obtain ⟨fuel, rfl⟩ : ∃ less, fuel = less + 1 := ⟨fuel - 1, by omega⟩
      cases sorted with
      | nil =>
          obtain rfl : [] = texts := by simpa [dumpsMembers] using renderedMembers
          rfl
      | cons member others =>
          obtain ⟨body, starts, scanned⟩ := scanMembers_written (member :: others)
            (List.cons_ne_nil member others) sortedPlain sortedReads renderedMembers rest
            (show (commaSeparated texts).length ≤ fuel by omega)
          have opening : ['{'] ++ commaSeparated texts ++ ['}'] ++ rest = '{' :: '"' :: body := by
            rw [← starts]
            simp
          have quoted : skipBlank ('"' :: body) = '"' :: body := skipBlank_cons (by decide) _
          rw [opening, scanValue]
          simp [quoted, scanned]
termination_by sizeOf value
decreasing_by
  · have smaller := List.sizeOf_lt_of_mem present
    simp only [Json.arr.sizeOf_spec]
    omega
  · have smaller := List.sizeOf_lt_of_mem present
    have inside : sizeOf member.2 < sizeOf member := by
      cases member
      simp
    simp only [Json.obj.sizeOf_spec]
    omega

/-- A plain value that has a text is read back from it in its order. -/
theorem loads_dumps
    {value : Json}
    (plain : isPlain value = true)
    {text : List Char}
    (rendered : dumps value = some text) : loads text = some (canonical value) := by
  have read := readsBack value plain text [] (text.length + 1) rendered nofun (by omega)
  obtain ⟨head, tail, rfl, isOpening⟩ := dumps_head plain rendered
  rw [List.append_nil] at read
  rw [loads, skipBlank_cons (isBlank_of_opens isOpening), read]
  simp [ne_mark_of_opens isOpening, show skipBlank [] = [] from rfl]

end Json
end Foundation
