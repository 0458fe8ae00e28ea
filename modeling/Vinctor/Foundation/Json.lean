import Vinctor.Foundation.Bytes
import Mathlib.Data.List.Sort

/-!
# JSON texts

The writer and the reader of JSON of the standard library of the language the
programs are written in.  The writer sorts the keys of an object and escapes
every character outside printable ASCII; the reader accepts every text the
library accepts, up to lone surrogates, which no text of this model holds.
-/

namespace Foundation

/-- A JSON value.  A number with a fraction or an exponent keeps its literal. -/
inductive Json
  | null
  | bool (value : Bool)
  | int (value : Int)
  | float (literal : List Char)
  | str (value : String)
  | arr (elements : List Json)
  | obj (members : List (String × Json))

namespace Json

/-! ## Writing -/

/-- Longest decimal number that is converted to or from text. -/
def maxDigits : Nat := 4300

/-- Four hexadecimal digits of a code unit. -/
def hex4 (unit : Nat) : List Char :=
  [Bytes.hexDigit (unit / 4096 % 16), Bytes.hexDigit (unit / 256 % 16),
    Bytes.hexDigit (unit / 16 % 16), Bytes.hexDigit (unit % 16)]

/-- UTF-16 code units of a character. -/
def codeUnits (character : Char) : List Nat :=
  if character.toNat < 0x10000 then [character.toNat]
  else
    let rest := character.toNat - 0x10000
    [0xD800 + rest / 0x400, 0xDC00 + rest % 0x400]

/-- A character inside a string literal. -/
def escapeChar (character : Char) : List Char :=
  if character = '"' then ['\\', '"']
  else if character = '\\' then ['\\', '\\']
  else if character = '\n' then ['\\', 'n']
  else if character = '\r' then ['\\', 'r']
  else if character = '\t' then ['\\', 't']
  else if character = '\x0c' then ['\\', 'f']
  else if character = '\x08' then ['\\', 'b']
  else if 0x20 ≤ character.toNat ∧ character.toNat ≤ 0x7E then [character]
  else (codeUnits character).flatMap fun unit => '\\' :: 'u' :: hex4 unit

def renderString (text : String) : List Char :=
  ['"'] ++ text.toList.flatMap escapeChar ++ ['"']

/-- Decimal text of an integer, unless it is too long. -/
def renderInt (value : Int) : Option (List Char) :=
  let digits := Nat.toDigits 10 value.natAbs
  if maxDigits < digits.length then none
  else some (if value < 0 then '-' :: digits else digits)

/-- Texts separated by a comma and a blank. -/
def commaSeparated : List (List Char) → List Char
  | [] => []
  | [text] => text
  | text :: rest => text ++ [',', ' '] ++ commaSeparated rest

/-- Order of texts by their code points. -/
def codePointsLE : List Char → List Char → Bool
  | [], _ => true
  | _ :: _, [] => false
  | left :: lefts, right :: rights =>
      if left = right then codePointsLE lefts rights else left.toNat < right.toNat

/-- Order of members by their keys. -/
def keyLE (left right : String × α) : Prop :=
  codePointsLE left.1.toList right.1.toList = true

instance : DecidableRel (@keyLE α) :=
  fun _ _ => inferInstanceAs (Decidable (codePointsLE _ _ = true))

/-- One member of an object whose value is already text. -/
def renderMember (member : String × Option (List Char)) : Option (List Char) :=
  member.2.map fun text => renderString member.1 ++ [':', ' '] ++ text

mutual

/-- JSON text of a value, keys sorted. -/
def dumps : Json → Option (List Char)
  | .null => some "null".toList
  | .bool value => some (if value then "true".toList else "false".toList)
  | .int value => renderInt value
  | .float literal => some literal
  | .str value => some (renderString value)
  | .arr elements =>
      ((dumpsElements elements).mapM id).map fun texts =>
        ['['] ++ commaSeparated texts ++ [']']
  | .obj members =>
      (((dumpsMembers members).insertionSort keyLE).mapM renderMember).map fun texts =>
        ['{'] ++ commaSeparated texts ++ ['}']

def dumpsElements : List Json → List (Option (List Char))
  | [] => []
  | element :: rest => dumps element :: dumpsElements rest

def dumpsMembers : List (String × Json) → List (String × Option (List Char))
  | [] => []
  | (key, value) :: rest => (key, dumps value) :: dumpsMembers rest

end

/-! ## Reading -/

def isBlank (character : Char) : Bool :=
  character = ' ' || character = '\t' || character = '\n' || character = '\r'

def skipBlank (text : List Char) : List Char := text.dropWhile isBlank

/-- Value of a hexadecimal digit. -/
def hexValue (character : Char) : Option Nat :=
  let code := character.toNat
  if 48 ≤ code ∧ code ≤ 57 then some (code - 48)
  else if 97 ≤ code ∧ code ≤ 102 then some (code - 87)
  else if 65 ≤ code ∧ code ≤ 70 then some (code - 55)
  else none

/-- Code unit written in four hexadecimal digits. -/
def hexUnit (first second third fourth : Char) : Option Nat := do
  let a ← hexValue first
  let b ← hexValue second
  let c ← hexValue third
  let d ← hexValue fourth
  some (((a * 16 + b) * 16 + c) * 16 + d)

/-- Character of an escape of two characters. -/
def shortEscape (mark : Char) : Option Char :=
  if mark = '"' then some '"'
  else if mark = '\\' then some '\\'
  else if mark = '/' then some '/'
  else if mark = 'b' then some '\x08'
  else if mark = 'f' then some '\x0c'
  else if mark = 'n' then some '\n'
  else if mark = 'r' then some '\r'
  else if mark = 't' then some '\t'
  else none

/-- Code units of a string literal after its opening quote, and the text after
its closing quote. -/
def scanUnits : List Char → Option (List Nat × List Char)
  | [] => none
  | '\\' :: 'u' :: a :: b :: c :: d :: rest =>
      match hexUnit a b c d, scanUnits rest with
      | some unit, some (units, after) => some (unit :: units, after)
      | _, _ => none
  | '\\' :: mark :: rest =>
      match shortEscape mark, scanUnits rest with
      | some character, some (units, after) => some (character.toNat :: units, after)
      | _, _ => none
  | character :: rest =>
      if character = '"' then some ([], rest)
      else if character = '\\' ∨ character.toNat < 0x20 then none
      else
        (scanUnits rest).map fun (units, after) => (codeUnits character ++ units, after)

/-- Text of a sequence of UTF-16 code units.  A lone surrogate has no text. -/
def joinUnits : List Nat → Option (List Char)
  | [] => some []
  | unit :: rest =>
      if 0xD800 ≤ unit ∧ unit < 0xDC00 then
        match rest with
        | low :: rest =>
            if 0xDC00 ≤ low ∧ low < 0xE000 then
              (joinUnits rest).map fun text =>
                Char.ofNat (0x10000 + (unit - 0xD800) * 0x400 + (low - 0xDC00)) :: text
            else none
        | [] => none
      else if 0xDC00 ≤ unit ∧ unit < 0xE000 then none
      else (joinUnits rest).map fun text => Char.ofNat unit :: text

/-- A string literal after its opening quote. -/
def scanString (text : List Char) : Option (String × List Char) :=
  match scanUnits text with
  | none => none
  | some (units, rest) => (joinUnits units).map fun value => (String.ofList value, rest)

/-- Digits of an integer part: a zero, or digits that start with another. -/
def integerPart : List Char → List Char × List Char
  | '0' :: rest => (['0'], rest)
  | text => (text.takeWhile Char.isDigit, text.dropWhile Char.isDigit)

/-- A decimal point and digits, when both are there. -/
def fractionPart : List Char → List Char × List Char
  | '.' :: rest =>
      let digits := rest.takeWhile Char.isDigit
      if digits = [] then ([], '.' :: rest)
      else ('.' :: digits, rest.dropWhile Char.isDigit)
  | text => ([], text)

/-- An exponent mark, a sign and digits, when mark and digits are there. -/
def exponentPart : List Char → List Char × List Char
  | [] => ([], [])
  | mark :: rest =>
      let sign := if rest.head? = some '+' ∨ rest.head? = some '-' then rest.take 1 else []
      let body := rest.drop sign.length
      let digits := body.takeWhile Char.isDigit
      if (mark = 'e' ∨ mark = 'E') ∧ digits ≠ [] then
        (mark :: sign ++ digits, body.dropWhile Char.isDigit)
      else ([], mark :: rest)

/-- A number.  Only an integer is converted, and only when it is not too
long. -/
def scanNumber (text : List Char) : Option (Json × List Char) :=
  let sign := if text.head? = some '-' then ['-'] else []
  let whole := integerPart (text.drop sign.length)
  let fraction := fractionPart whole.2
  let exponent := exponentPart fraction.2
  if whole.1 = [] then none
  else if fraction.1 = [] ∧ exponent.1 = [] then
    if maxDigits < whole.1.length then none
    else
      let magnitude : Int := Nat.ofDigitChars 10 whole.1 0
      some (.int (if sign = [] then magnitude else -magnitude), exponent.2)
  else some (.float (sign ++ whole.1 ++ fraction.1 ++ exponent.1), exponent.2)

/-- Text after a given word. -/
def afterWord (word text : List Char) : Option (List Char) :=
  if word.isPrefixOf text then some (text.drop word.length) else none

/-- A literal word, or else a number. -/
def scanAtom (text : List Char) : Option (Json × List Char) :=
  match afterWord "null".toList text with
  | some rest => some (.null, rest)
  | none =>
  match afterWord "true".toList text with
  | some rest => some (.bool true, rest)
  | none =>
  match afterWord "false".toList text with
  | some rest => some (.bool false, rest)
  | none =>
  match afterWord "NaN".toList text with
  | some rest => some (.float "NaN".toList, rest)
  | none =>
  match afterWord "Infinity".toList text with
  | some rest => some (.float "Infinity".toList, rest)
  | none =>
  match afterWord "-Infinity".toList text with
  | some rest => some (.float "-Infinity".toList, rest)
  | none => scanNumber text

mutual

/-- A value at the start of a text.  Every call inside a value spends fuel, and
each consumes at least one character, so the length of the text is enough. -/
def scanValue : Nat → List Char → Option (Json × List Char)
  | 0, _ => none
  | _ + 1, [] => none
  | fuel + 1, head :: rest =>
      if head = '"' then (scanString rest).map fun (value, after) => (.str value, after)
      else if head = '{' then
        match skipBlank rest with
        | [] => none
        | next :: after =>
            if next = '}' then some (.obj [], after)
            else if next = '"' then
              (scanMembers fuel after).map fun (members, after) => (.obj members, after)
            else none
      else if head = '[' then
        match skipBlank rest with
        | [] => none
        | next :: after =>
            if next = ']' then some (.arr [], after)
            else
              (scanElements fuel (next :: after)).map fun (elements, after) =>
                (.arr elements, after)
      else scanAtom (head :: rest)

/-- Members of an object after the opening quote of the first key. -/
def scanMembers : Nat → List Char → Option (List (String × Json) × List Char)
  | 0, _ => none
  | fuel + 1, text =>
      match scanString text with
      | none => none
      | some (key, afterKey) =>
      match skipBlank afterKey with
      | [] => none
      | colon :: afterColon =>
          if colon ≠ ':' then none
          else
            match scanValue fuel (skipBlank afterColon) with
            | none => none
            | some (value, afterValue) =>
            match skipBlank afterValue with
            | [] => none
            | next :: after =>
                if next = '}' then some ([(key, value)], after)
                else if next = ',' then
                  match skipBlank after with
                  | [] => none
                  | quote :: afterQuote =>
                      if quote ≠ '"' then none
                      else
                        (scanMembers fuel afterQuote).map fun (members, after) =>
                          ((key, value) :: members, after)
                else none

/-- Elements of an array. -/
def scanElements : Nat → List Char → Option (List Json × List Char)
  | 0, _ => none
  | fuel + 1, text =>
      match scanValue fuel text with
      | none => none
      | some (value, afterValue) =>
      match skipBlank afterValue with
      | [] => none
      | next :: after =>
          if next = ']' then some ([value], after)
          else if next = ',' then
            (scanElements fuel (skipBlank after)).map fun (elements, after) =>
              (value :: elements, after)
          else none

end

/-- Value of a JSON text. -/
def loads (text : List Char) : Option Json :=
  if text.head? = some '\uFEFF' then none
  else
    match scanValue (text.length + 1) (skipBlank text) with
    | none => none
    | some (value, rest) => if skipBlank rest = [] then some value else none

/-! ## Reading values -/

/-- Value of the last member with a key. -/
def get? (members : List (String × Json)) (key : String) : Option Json :=
  (members.reverse.find? fun member => member.1 = key).map Prod.snd

/-- Exponent of a literal of a floating-point number. -/
def floatExponent (literal : List Char) : Int :=
  let mark := literal.dropWhile fun character => character ≠ 'e' ∧ character ≠ 'E'
  let magnitude : Int := Nat.ofDigitChars 10 (mark.filter Char.isDigit) 0
  if mark[1]? = some '-' then -magnitude else magnitude

/-- Literals whose nearest floating-point number is zero. -/
def floatIsZero (literal : List Char) : Bool :=
  let mantissa := literal.takeWhile fun character => character ≠ 'e' ∧ character ≠ 'E'
  let fraction := mantissa.dropWhile (· ≠ '.')
  let digits := Nat.ofDigitChars 10 (mantissa.filter Char.isDigit) 0
  let scale := floatExponent literal - (fraction.filter Char.isDigit).length
  mantissa.any Char.isDigit &&
    (digits = 0 || (scale < 0 && digits * 2 ^ 1075 ≤ 10 ^ scale.natAbs))

/-- Truth value of a value in a condition. -/
def truthy : Json → Bool
  | .null => false
  | .bool value => value
  | .int value => value ≠ 0
  | .float literal => !floatIsZero literal
  | .str value => value ≠ ""
  | .arr elements => !elements.isEmpty
  | .obj members => !members.isEmpty

/-! ## Equality -/

mutual

/-- Whether two values are the same. -/
def sameAs : Json → Json → Bool
  | .null, .null => true
  | .bool left, .bool right => left = right
  | .int left, .int right => left = right
  | .float left, .float right => left = right
  | .str left, .str right => left = right
  | .arr left, .arr right => sameElements left right
  | .obj left, .obj right => sameMembers left right
  | _, _ => false

def sameElements : List Json → List Json → Bool
  | [], [] => true
  | left :: lefts, right :: rights => sameAs left right && sameElements lefts rights
  | _, _ => false

def sameMembers : List (String × Json) → List (String × Json) → Bool
  | [], [] => true
  | (leftKey, left) :: lefts, (rightKey, right) :: rights =>
      leftKey = rightKey && sameAs left right && sameMembers lefts rights
  | _, _ => false

end

mutual

theorem sameAs_iff (left right : Json) : sameAs left right = true ↔ left = right := by
  match left with
  | .null => cases right <;> simp [sameAs]
  | .bool value => cases right <;> simp [sameAs]
  | .int value => cases right <;> simp [sameAs]
  | .float literal => cases right <;> simp [sameAs]
  | .str value => cases right <;> simp [sameAs]
  | .arr elements => cases right <;> simp [sameAs, sameElements_iff elements]
  | .obj members => cases right <;> simp [sameAs, sameMembers_iff members]

theorem sameElements_iff (left right : List Json) :
    sameElements left right = true ↔ left = right := by
  match left, right with
  | [], [] => simp [sameElements]
  | [], _ :: _ => simp [sameElements]
  | _ :: _, [] => simp [sameElements]
  | head :: tail, other :: others =>
      simp [sameElements, sameAs_iff head other, sameElements_iff tail others]

theorem sameMembers_iff (left right : List (String × Json)) :
    sameMembers left right = true ↔ left = right := by
  match left, right with
  | [], [] => simp [sameMembers]
  | [], _ :: _ => simp [sameMembers]
  | _ :: _, [] => simp [sameMembers]
  | (key, value) :: tail, (otherKey, other) :: others =>
      simp [sameMembers, sameAs_iff value other, sameMembers_iff tail others]

end

instance : DecidableEq Json :=
  fun left right => decidable_of_iff _ (sameAs_iff left right)

end Json
end Foundation
