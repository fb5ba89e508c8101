import Mathlib.Data.List.Nodup
import Mathlib.Data.List.TakeWhile

/-!
# The text of JSON values

The writer and the reader of Python's `json` module, with its compact separators and
its escapes to ASCII.  What is written for a value is read back as this value, so no
two values share a text.

Python's numbers with a fraction are left abstract.  Their format has to say how a
finite one is written, and that reading this text gives it back.
-/

namespace ElKeeper

namespace JsonText

/-- The part of a number before its fraction, without a sign: no leading zero. -/
def isIntegerPart (text : List Char) : Bool :=
  text.all Char.isDigit && text ≠ [] && (text.head? ≠ some '0' || text = ['0'])

/-- An optional minus before the rest. -/
def unsigned (text : List Char) : List Char :=
  match text with
  | '-' :: rest => rest
  | rest => rest

def isInteger (text : List Char) : Bool :=
  isIntegerPart (unsigned text)

/-- An optional sign and digits after the `e`. -/
def isExponent (text : List Char) : Bool :=
  match text with
  | '+' :: digits | '-' :: digits | digits => digits.all Char.isDigit && digits ≠ []

/-- A number with a fraction or with an exponent. -/
def isFloat (text : List Char) : Bool :=
  let isMantissa (character : Char) : Bool := character ≠ 'e' && character ≠ 'E'
  let mantissa := (unsigned text).takeWhile isMantissa
  let exponent := (unsigned text).dropWhile isMantissa
  let fraction := mantissa.dropWhile (· ≠ '.')
  isIntegerPart (mantissa.takeWhile (· ≠ '.')) && (exponent ≠ [] || fraction ≠ []) &&
    (exponent = [] || isExponent exponent.tail) &&
    (fraction = [] || (fraction.tail.all Char.isDigit && fraction.tail ≠ []))

/-- The characters that a number can have. -/
def isNumberCharacter (character : Char) : Bool :=
  character.isDigit || character = '-' || character = '+' || character = '.' ||
    character = 'e' || character = 'E'

end JsonText

/-- The numbers of Python's `float`, as far as their text goes. -/
class FloatFormat (F : Type) where
  isFinite : F → Bool
  repr : F → List Char
  parse : List Char → F
  isFloat_repr : ∀ number, isFinite number → JsonText.isFloat (repr number)
  all_repr : ∀ number, isFinite number → (repr number).all JsonText.isNumberCharacter
  parse_repr : ∀ number, isFinite number → parse (repr number) = number

/-- Numbers that are given by their texts. -/
structure FloatText where
  text : List Char
  written : JsonText.isFloat text ∧ text.all JsonText.isNumberCharacter

instance : FloatFormat FloatText where
  isFinite _ := true
  repr := FloatText.text
  parse text :=
    if written : JsonText.isFloat text ∧ text.all JsonText.isNumberCharacter then ⟨text, written⟩
    else ⟨['0', '.', '0'], by decide⟩
  isFloat_repr number _ := number.written.1
  all_repr number _ := number.written.2
  parse_repr number _ := dif_pos number.written

/-- What `json` reads and writes; the entries of an object are in order. -/
inductive JsonValue (F : Type) where
  | null
  | bool (value : Bool)
  | int (value : Int)
  | float (value : F)
  | str (value : String)
  | arr (items : List (JsonValue F))
  | obj (entries : List (String × JsonValue F))

namespace JsonText

variable {F : Type} [FloatFormat F]

/-! ### Writing -/

/-- `{0:04x}`. -/
def hex4 (number : Nat) : List Char :=
  [Nat.digitChar (number / 4096), Nat.digitChar (number / 256 % 16),
    Nat.digitChar (number / 16 % 16), Nat.digitChar (number % 16)]

/-- A character with `ensure_ascii`; one beyond the basic plane is written as two surrogates. -/
def escape (character : Char) : List Char :=
  if character = '"' then ['\\', '"']
  else if character = '\\' then ['\\', '\\']
  else if character = '\n' then ['\\', 'n']
  else if character = '\r' then ['\\', 'r']
  else if character = '\t' then ['\\', 't']
  else if character = '\x0c' then ['\\', 'f']
  else if character = '\x08' then ['\\', 'b']
  else if 32 ≤ character.toNat ∧ character.toNat ≤ 126 then [character]
  else if character.toNat < 0x10000 then '\\' :: 'u' :: hex4 character.toNat
  else
    '\\' :: 'u' :: hex4 (0xd800 + (character.toNat - 0x10000) / 1024) ++
      '\\' :: 'u' :: hex4 (0xdc00 + (character.toNat - 0x10000) % 1024)

def writeString (text : String) : List Char :=
  '"' :: text.toList.flatMap escape ++ ['"']

def writeInt : Int → List Char
  | .ofNat number => Nat.toDigits 10 number
  | .negSucc number => '-' :: Nat.toDigits 10 (number + 1)

mutual

/-- `json.dumps` with `separators=(",", ":")`. -/
def write : JsonValue F → List Char
  | .null => ['n', 'u', 'l', 'l']
  | .bool true => ['t', 'r', 'u', 'e']
  | .bool false => ['f', 'a', 'l', 's', 'e']
  | .int value => writeInt value
  | .float value => FloatFormat.repr value
  | .str value => writeString value
  | .arr [] => ['[', ']']
  | .arr (item :: items) => '[' :: (write item ++ writeItems items)
  | .obj [] => ['{', '}']
  | .obj ((key, value) :: entries) =>
      '{' :: (writeString key ++ ':' :: (write value ++ writeEntries entries))

/-- The items after the first one. -/
def writeItems : List (JsonValue F) → List Char
  | [] => [']']
  | item :: items => ',' :: (write item ++ writeItems items)

def writeEntries : List (String × JsonValue F) → List Char
  | [] => ['}']
  | (key, value) :: entries =>
      ',' :: (writeString key ++ ':' :: (write value ++ writeEntries entries))

end

mutual

/-- Whether `allow_nan=False` admits the value. -/
def isFinite : JsonValue F → Bool
  | .float value => FloatFormat.isFinite value
  | .arr items => areFinite items
  | .obj entries => haveFinite entries
  | _ => true

def areFinite : List (JsonValue F) → Bool
  | [] => true
  | item :: items => isFinite item && areFinite items

def haveFinite : List (String × JsonValue F) → Bool
  | [] => true
  | (_, value) :: entries => isFinite value && haveFinite entries

end

/-- `json.dumps` with `allow_nan=False`. -/
def dumps (value : JsonValue F) : Option (List Char) :=
  if isFinite value then some (write value) else none

/-! ### Reading -/

def isBlank (character : Char) : Bool :=
  character = ' ' || character = '\t' || character = '\n' || character = '\r'

def skipBlanks (text : List Char) : List Char :=
  text.dropWhile isBlank

def hexValue (character : Char) : Option Nat :=
  if '0' ≤ character ∧ character ≤ '9' then some (character.toNat - '0'.toNat)
  else if 'a' ≤ character ∧ character ≤ 'f' then some (character.toNat - 'a'.toNat + 10)
  else if 'A' ≤ character ∧ character ≤ 'F' then some (character.toNat - 'A'.toNat + 10)
  else none

def readHex4 : List Char → Option (Nat × List Char)
  | a :: b :: c :: d :: rest => do
      let a ← hexValue a
      let b ← hexValue b
      let c ← hexValue c
      let d ← hexValue d
      pure (4096 * a + 256 * b + 16 * c + d, rest)
  | _ => none

/-- What follows a backslash.  A surrogate without its partner is no character. -/
def readEscape : List Char → Option (Char × List Char)
  | '"' :: rest => some ('"', rest)
  | '\\' :: rest => some ('\\', rest)
  | '/' :: rest => some ('/', rest)
  | 'b' :: rest => some ('\x08', rest)
  | 'f' :: rest => some ('\x0c', rest)
  | 'n' :: rest => some ('\n', rest)
  | 'r' :: rest => some ('\r', rest)
  | 't' :: rest => some ('\t', rest)
  | 'u' :: rest =>
      match readHex4 rest with
      | none => none
      | some (number, rest) =>
          if 0xd800 ≤ number ∧ number < 0xdc00 then
            match rest with
            | '\\' :: 'u' :: rest =>
                match readHex4 rest with
                | none => none
                | some (second, rest) =>
                    if 0xdc00 ≤ second ∧ second < 0xe000 then
                      some (Char.ofNat (0x10000 + 1024 * (number - 0xd800) + (second - 0xdc00)),
                        rest)
                    else none
            | _ => none
          else if 0xdc00 ≤ number ∧ number < 0xe000 then none
          else some (Char.ofNat number, rest)
  | _ => none

/-- The characters up to the closing quote; control characters have to be escaped. -/
def readString : Nat → List Char → Option (List Char × List Char)
  | 0, _ => none
  | _ + 1, [] => none
  | fuel + 1, character :: rest =>
      if character = '"' then some ([], rest)
      else if character = '\\' then
        match readEscape rest with
        | none => none
        | some (escaped, rest) =>
            (readString fuel rest).map fun (characters, rest) => (escaped :: characters, rest)
      else if character.toNat < 32 then none
      else (readString fuel rest).map fun (characters, rest) => (character :: characters, rest)

def integerValue : List Char → Int
  | '-' :: digits => -(Nat.ofDigitChars 10 digits 0 : Int)
  | digits => (Nat.ofDigitChars 10 digits 0 : Int)

/-- A number, up to the first character that it cannot have. -/
def readNumber (text : List Char) : Option (JsonValue F × List Char) :=
  let number := text.takeWhile isNumberCharacter
  let rest := text.dropWhile isNumberCharacter
  if isInteger number then some (.int (integerValue number), rest)
  else if isFloat number then some (.float (FloatFormat.parse number), rest)
  else none

variable (hook : List (String × JsonValue F) → Option (List (String × JsonValue F)))

mutual

/-- The value that a text starts with, and the rest of the text. -/
def readValue : Nat → List Char → Option (JsonValue F × List Char)
  | 0, _ => none
  | fuel + 1, text =>
      match text with
      | '"' :: rest =>
          (readString rest.length rest).map fun (characters, rest) =>
            (.str (String.ofList characters), rest)
      | '[' :: rest =>
          match skipBlanks rest with
          | ']' :: rest => some (.arr [], rest)
          | rest => (readItems fuel rest).map fun (items, rest) => (.arr items, rest)
      | '{' :: rest =>
          match skipBlanks rest with
          | '}' :: rest => (hook []).map fun entries => (.obj entries, rest)
          | rest => do
              let (pairs, rest) ← readEntries fuel rest
              let entries ← hook pairs
              pure (.obj entries, rest)
      | 'n' :: 'u' :: 'l' :: 'l' :: rest => some (.null, rest)
      | 't' :: 'r' :: 'u' :: 'e' :: rest => some (.bool true, rest)
      | 'f' :: 'a' :: 'l' :: 's' :: 'e' :: rest => some (.bool false, rest)
      | text => readNumber text

/-- Items that are separated by commas, up to the closing bracket. -/
def readItems : Nat → List Char → Option (List (JsonValue F) × List Char)
  | 0, _ => none
  | fuel + 1, text =>
      match readValue fuel text with
      | none => none
      | some (item, rest) =>
          match skipBlanks rest with
          | ']' :: rest => some ([item], rest)
          | ',' :: rest =>
              (readItems fuel (skipBlanks rest)).map fun (items, rest) => (item :: items, rest)
          | _ => none

def readEntries : Nat → List Char → Option (List (String × JsonValue F) × List Char)
  | 0, _ => none
  | fuel + 1, text =>
      match text with
      | '"' :: rest =>
          match readString rest.length rest with
          | none => none
          | some (key, rest) =>
              match skipBlanks rest with
              | ':' :: rest =>
                  match readValue fuel (skipBlanks rest) with
                  | none => none
                  | some (value, rest) =>
                      match skipBlanks rest with
                      | '}' :: rest => some ([(String.ofList key, value)], rest)
                      | ',' :: rest =>
                          (readEntries fuel (skipBlanks rest)).map fun (entries, rest) =>
                            ((String.ofList key, value) :: entries, rest)
                      | _ => none
              | _ => none
      | _ => none

end

/-- `json.loads` with an `object_pairs_hook`. -/
def loadsWith (text : List Char) : Option (JsonValue F) :=
  match readValue hook (text.length + 1) (skipBlanks text) with
  | some (value, rest) => if skipBlanks rest = [] then some value else none
  | none => none

/-- `dictionary[key] = value`: an existing key keeps its place. -/
def setEntry {α : Type} : List (String × α) → String → α → List (String × α)
  | [], key, value => [(key, value)]
  | (other, old) :: rest, key, value =>
      if other = key then (key, value) :: rest else (other, old) :: setEntry rest key value

/-- A dictionary of pairs: the last value of a key counts. -/
def dict {α : Type} (pairs : List (String × α)) : List (String × α) :=
  pairs.foldl (fun entries pair => setEntry entries pair.1 pair.2) []

/-- `json.loads`. -/
def loads (text : List Char) : Option (JsonValue F) :=
  loadsWith (fun pairs => some (dict pairs)) text

/-! ### Strings are read back -/

theorem hexValue_digitChar : ∀ digit < 16, hexValue (Nat.digitChar digit) = some digit := by
  decide

theorem readHex4_hex4 (number : Nat) (bounded : number < 0x10000) (rest : List Char) :
    readHex4 (hex4 number ++ rest) = some (number, rest) := by
  simp only [hex4, List.cons_append, List.nil_append, readHex4]
  rw [hexValue_digitChar _ (by omega), hexValue_digitChar _ (by omega),
    hexValue_digitChar _ (by omega), hexValue_digitChar _ (by omega)]
  simp only [Option.bind_eq_bind, Option.bind_some, Option.pure_def, Option.some.injEq,
    Prod.mk.injEq, and_true]
  omega

/-- A character is not a surrogate. -/
theorem toNat_valid (character : Char) :
    character.toNat < 0xd800 ∨ (0xdfff < character.toNat ∧ character.toNat < 0x110000) :=
  character.valid

theorem readEscape_basic {text rest : List Char} {number : Nat}
    (read : readHex4 text = some (number, rest)) (scalar : number < 0xd800 ∨ 0xe000 ≤ number) :
    readEscape ('u' :: text) = some (Char.ofNat number, rest) := by
  simp only [readEscape, read]
  rw [if_neg (by omega), if_neg (by omega)]

theorem readEscape_pair {text middle rest : List Char} {high low : Nat}
    (readHigh : readHex4 text = some (high, '\\' :: 'u' :: middle))
    (isHigh : 0xd800 ≤ high ∧ high < 0xdc00)
    (readLow : readHex4 middle = some (low, rest)) (isLow : 0xdc00 ≤ low ∧ low < 0xe000) :
    readEscape ('u' :: text) =
      some (Char.ofNat (0x10000 + 1024 * (high - 0xd800) + (low - 0xdc00)), rest) := by
  simp only [readEscape, readHigh]
  rw [if_pos isHigh]
  simp only [readLow]
  rw [if_pos isLow]

theorem readString_backslash {fuel : Nat} {character : Char} {text rest : List Char}
    (escaped : readEscape text = some (character, rest)) :
    readString (fuel + 1) ('\\' :: text) =
      (readString fuel rest).map fun (characters, rest) => (character :: characters, rest) := by
  simp [readString, escaped]

/-- One escaped character is read as that character. -/
theorem readString_escape (fuel : Nat) (character : Char) (rest : List Char) :
    readString (fuel + 1) (escape character ++ rest) =
      (readString fuel rest).map fun (characters, rest) => (character :: characters, rest) := by
  unfold escape
  split
  · subst_vars; rfl
  split
  · subst_vars; rfl
  split
  · subst_vars; rfl
  split
  · subst_vars; rfl
  split
  · subst_vars; rfl
  split
  · subst_vars; rfl
  split
  · subst_vars; rfl
  split
  next notQuote notBackslash _ _ _ _ _ printable =>
    simp [readString, notQuote, notBackslash, Nat.not_lt.mpr printable.1]
  split
  next basic =>
    have valid := toNat_valid character
    have escaped := readEscape_basic (readHex4_hex4 _ basic rest) (by omega)
    rw [Char.ofNat_toNat] at escaped
    exact readString_backslash escaped
  next beyond =>
    have valid := toNat_valid character
    have readLow := readHex4_hex4 (0xdc00 + (character.toNat - 0x10000) % 1024) (by omega) rest
    have readHigh := readHex4_hex4 (0xd800 + (character.toNat - 0x10000) / 1024) (by omega)
      ('\\' :: 'u' :: (hex4 (0xdc00 + (character.toNat - 0x10000) % 1024) ++ rest))
    have escaped := readEscape_pair readHigh (by omega) readLow (by omega)
    have joined : 0x10000 + 1024 * (0xd800 + (character.toNat - 0x10000) / 1024 - 0xd800) +
        (0xdc00 + (character.toNat - 0x10000) % 1024 - 0xdc00) = character.toNat := by
      omega
    rw [joined, Char.ofNat_toNat] at escaped
    simpa only [List.cons_append, List.append_assoc] using readString_backslash escaped

theorem readString_flatMap {characters : List Char} {fuel : Nat} (rest : List Char)
    (enough : characters.length < fuel) :
    readString fuel (characters.flatMap escape ++ '"' :: rest) = some (characters, rest) := by
  induction characters generalizing fuel with
  | nil =>
      obtain ⟨fuel, rfl⟩ : ∃ smaller, fuel = smaller + 1 := ⟨fuel - 1, by omega⟩
      simp [readString]
  | cons character characters ih =>
      rw [List.length_cons] at enough
      obtain ⟨fuel, rfl⟩ : ∃ smaller, fuel = smaller + 1 := ⟨fuel - 1, by omega⟩
      rw [List.flatMap_cons, List.append_assoc, readString_escape, ih (by omega)]
      rfl

theorem length_escape_pos (character : Char) : 0 < (escape character).length := by
  unfold escape
  repeat' split
  all_goals simp

theorem length_le_flatMap (characters : List Char) :
    characters.length ≤ (characters.flatMap escape).length := by
  induction characters with
  | nil => simp
  | cons character characters ih =>
      have one := length_escape_pos character
      simp only [List.flatMap_cons, List.length_append, List.length_cons]
      omega

/-- With its quotes, a string is read from the text after the first one. -/
theorem readString_written (text : String) (rest : List Char) :
    readString (text.toList.flatMap escape ++ '"' :: rest).length
      (text.toList.flatMap escape ++ '"' :: rest) = some (text.toList, rest) := by
  apply readString_flatMap
  have short := length_le_flatMap text.toList
  simp only [List.length_append, List.length_cons]
  omega

/-! ### Numbers are read back -/

theorem head_toDigits {number : Nat} (positive : 0 < number) :
    (Nat.toDigits 10 number).head? ≠ some '0' := by
  induction number using Nat.strongRecOn with
  | ind number ih =>
      by_cases small : number < 10
      · rw [Nat.toDigits_of_lt_base small]
        simp only [List.head?_cons, ne_eq, Option.some.injEq, Nat.digitChar_eq_zero]
        omega
      · have head := ih (number / 10) (by omega) (by omega)
        rw [Nat.toDigits_of_base_le (by omega) (by omega), List.head?_append]
        cases first : (Nat.toDigits 10 (number / 10)).head? with
        | none => exact absurd (List.head?_eq_none_iff.mp first) Nat.toDigits_ne_nil
        | some digit =>
            rw [first] at head
            simpa using head

theorem all_isDigit_toDigits (number : Nat) : (Nat.toDigits 10 number).all Char.isDigit := by
  rw [List.all_eq_true]
  intro digit isIn
  exact Nat.isDigit_of_mem_toDigits (by decide) (by decide) isIn

theorem isIntegerPart_toDigits (number : Nat) : isIntegerPart (Nat.toDigits 10 number) := by
  have digits := all_isDigit_toDigits number
  have nonempty : Nat.toDigits 10 number ≠ [] := Nat.toDigits_ne_nil
  have leading : (Nat.toDigits 10 number).head? ≠ some '0' ∨ Nat.toDigits 10 number = ['0'] := by
    rcases Nat.eq_zero_or_pos number with rfl | positive
    · right
      rfl
    · exact .inl (head_toDigits positive)
  simp [isIntegerPart, digits, nonempty, leading]

theorem unsigned_of_digits {text : List Char} (digits : text.all Char.isDigit) :
    unsigned text = text := by
  unfold unsigned
  split
  · simp at digits
  · rfl

theorem isInteger_writeInt (value : Int) : isInteger (writeInt value) := by
  cases value with
  | ofNat number =>
      rw [writeInt, isInteger, unsigned_of_digits (all_isDigit_toDigits number)]
      exact isIntegerPart_toDigits number
  | negSucc number => exact isIntegerPart_toDigits (number + 1)

theorem integerValue_of_digits {text : List Char} (digits : text.all Char.isDigit) :
    integerValue text = (Nat.ofDigitChars 10 text 0 : Int) := by
  unfold integerValue
  split
  · simp at digits
  · rfl

theorem integerValue_writeInt (value : Int) : integerValue (writeInt value) = value := by
  cases value with
  | ofNat number =>
      rw [writeInt, integerValue_of_digits (all_isDigit_toDigits number),
        Nat.ofDigitChars_ten_toDigits]
      rfl
  | negSucc number =>
      simp only [writeInt, integerValue, Nat.ofDigitChars_ten_toDigits]
      omega

theorem all_isNumberCharacter_of_digits {text : List Char} (digits : text.all Char.isDigit) :
    text.all isNumberCharacter := by
  rw [List.all_eq_true] at digits ⊢
  intro character isIn
  simp [isNumberCharacter, digits character isIn]

theorem all_isNumberCharacter_writeInt (value : Int) : (writeInt value).all isNumberCharacter := by
  cases value with
  | ofNat number => exact all_isNumberCharacter_of_digits (all_isDigit_toDigits number)
  | negSucc number =>
      rw [writeInt, List.all_cons, all_isNumberCharacter_of_digits (all_isDigit_toDigits _)]
      decide

/-- A number with a fraction or an exponent is no integer. -/
theorem not_isInteger_of_isFloat {text : List Char} (isFloatText : isFloat text) :
    isInteger text = false := by
  by_contra isIntegerText
  simp only [Bool.not_eq_false, isInteger, isIntegerPart, Bool.and_eq_true] at isIntegerText
  obtain ⟨⟨digits, -⟩, -⟩ := isIntegerText
  rw [List.all_eq_true] at digits
  have notOther : ∀ character ∈ unsigned text,
      character ≠ 'e' ∧ character ≠ 'E' ∧ character ≠ '.' := by
    intro character isIn
    have digit := digits character isIn
    refine ⟨?_, ?_, ?_⟩
    all_goals
      rintro rfl
      exact absurd digit (by decide)
  have noExponent : (unsigned text).dropWhile
      (fun character => !decide (character = 'e') && !decide (character = 'E')) = [] := by
    rw [List.dropWhile_eq_nil_iff]
    intro character isIn
    simp [notOther character isIn]
  have mantissa : (unsigned text).takeWhile
      (fun character => !decide (character = 'e') && !decide (character = 'E')) =
        unsigned text := by
    rw [List.takeWhile_eq_self_iff]
    intro character isIn
    simp [notOther character isIn]
  have noFraction : (unsigned text).dropWhile (fun character => !decide (character = '.')) =
      [] := by
    rw [List.dropWhile_eq_nil_iff]
    intro character isIn
    simp [notOther character isIn]
  simp [isFloat, noExponent, mantissa, noFraction] at isFloatText

/-- The text does not go on with a number. -/
def Delimited (rest : List Char) : Prop :=
  ∀ character ∈ rest.head?, isNumberCharacter character = false

theorem takeWhile_number {number rest : List Char} (characters : number.all isNumberCharacter)
    (delimited : Delimited rest) : (number ++ rest).takeWhile isNumberCharacter = number := by
  rw [List.takeWhile_append_of_pos (List.all_eq_true.mp characters)]
  cases rest with
  | nil => simp
  | cons character rest => simp [delimited character rfl]

theorem dropWhile_number {number rest : List Char} (characters : number.all isNumberCharacter)
    (delimited : Delimited rest) : (number ++ rest).dropWhile isNumberCharacter = rest := by
  rw [List.dropWhile_append_of_pos (List.all_eq_true.mp characters)]
  cases rest with
  | nil => rfl
  | cons character rest => simp [delimited character rfl]

theorem readNumber_writeInt (value : Int) {rest : List Char} (delimited : Delimited rest) :
    readNumber (F := F) (writeInt value ++ rest) = some (.int value, rest) := by
  have characters := all_isNumberCharacter_writeInt value
  simp [readNumber, takeWhile_number characters delimited, dropWhile_number characters delimited,
    isInteger_writeInt, integerValue_writeInt]

theorem readNumber_repr {value : F} (finite : FloatFormat.isFinite value) {rest : List Char}
    (delimited : Delimited rest) :
    readNumber (FloatFormat.repr value ++ rest) = some (.float value, rest) := by
  have characters := FloatFormat.all_repr value finite
  have isFloatText := FloatFormat.isFloat_repr value finite
  simp [readNumber, takeWhile_number characters delimited, dropWhile_number characters delimited,
    not_isInteger_of_isFloat isFloatText, isFloatText, FloatFormat.parse_repr value finite]

/-! ### Values are read back -/

mutual

/-- Numbers are finite, and an object has every key once. -/
def WellFormed : JsonValue F → Prop
  | .float value => FloatFormat.isFinite value
  | .arr items => AreWellFormed items
  | .obj entries => (entries.map Prod.fst).Nodup ∧ HaveWellFormed entries
  | _ => True

def AreWellFormed : List (JsonValue F) → Prop
  | [] => True
  | item :: items => WellFormed item ∧ AreWellFormed items

def HaveWellFormed : List (String × JsonValue F) → Prop
  | [] => True
  | (_, value) :: entries => WellFormed value ∧ HaveWellFormed entries

end

theorem skipBlanks_cons {character : Char} (visible : isBlank character = false)
    (rest : List Char) : skipBlanks (character :: rest) = character :: rest := by
  simp [skipBlanks, visible]

theorem not_isBlank_of_isNumberCharacter {character : Char}
    (isNumber : isNumberCharacter character) : isBlank character = false := by
  rw [Bool.eq_false_iff]
  intro blank
  simp only [isBlank, Bool.or_eq_true, decide_eq_true_eq] at blank
  rcases blank with ((rfl | rfl) | rfl) | rfl
  all_goals exact absurd isNumber (by decide)

/-- A number starts with one of its characters. -/
theorem number_starts {text : List Char} (characters : text.all isNumberCharacter)
    (nonempty : text ≠ []) :
    ∃ character rest, text = character :: rest ∧ isNumberCharacter character := by
  obtain ⟨character, rest, rfl⟩ := List.exists_cons_of_ne_nil nonempty
  rw [List.all_cons, Bool.and_eq_true] at characters
  exact ⟨character, rest, rfl, characters.1⟩

theorem writeInt_ne_nil (value : Int) : writeInt value ≠ [] := by
  cases value with
  | ofNat number => exact Nat.toDigits_ne_nil
  | negSucc number => simp [writeInt]

theorem repr_ne_nil {value : F} (finite : FloatFormat.isFinite value) :
    FloatFormat.repr value ≠ [] := by
  intro empty
  have isFloatText := FloatFormat.isFloat_repr value finite
  rw [empty] at isFloatText
  exact absurd isFloatText (by decide)

/-- A written value starts with a character that is neither blank nor closes an array. -/
theorem write_starts {value : JsonValue F} (wellFormed : WellFormed value) :
    ∃ character rest, write value = character :: rest ∧ isBlank character = false ∧
      character ≠ ']' := by
  have ofNumber : ∀ text : List Char, text.all isNumberCharacter → text ≠ [] →
      ∃ character rest, text = character :: rest ∧ isBlank character = false ∧
        character ≠ ']' := by
    intro text characters nonempty
    obtain ⟨character, rest, rfl, isNumber⟩ := number_starts characters nonempty
    refine ⟨character, rest, rfl, not_isBlank_of_isNumberCharacter isNumber, ?_⟩
    rintro rfl
    exact absurd isNumber (by decide)
  match value with
  | .null => exact ⟨'n', _, rfl, rfl, by decide⟩
  | .bool true => exact ⟨'t', _, rfl, rfl, by decide⟩
  | .bool false => exact ⟨'f', _, rfl, rfl, by decide⟩
  | .int value =>
      exact ofNumber _ (all_isNumberCharacter_writeInt value) (writeInt_ne_nil value)
  | .float value =>
      exact ofNumber _ (FloatFormat.all_repr value wellFormed) (repr_ne_nil wellFormed)
  | .str value => exact ⟨'"', _, rfl, rfl, by decide⟩
  | .arr [] => exact ⟨'[', _, rfl, rfl, by decide⟩
  | .arr (item :: items) => exact ⟨'[', _, rfl, rfl, by decide⟩
  | .obj [] => exact ⟨'{', _, rfl, rfl, by decide⟩
  | .obj ((key, value) :: entries) => exact ⟨'{', _, rfl, rfl, by decide⟩

theorem skipBlanks_write {value : JsonValue F} (wellFormed : WellFormed value)
    (rest : List Char) : skipBlanks (write value ++ rest) = write value ++ rest := by
  obtain ⟨character, text, starts, visible, -⟩ := write_starts wellFormed
  rw [starts, List.cons_append, skipBlanks_cons visible]

theorem delimited_writeItems (items : List (JsonValue F)) (rest : List Char) :
    Delimited (writeItems items ++ rest) := by
  cases items <;> intro character first <;> cases first <;> rfl

theorem delimited_writeEntries (entries : List (String × JsonValue F)) (rest : List Char) :
    Delimited (writeEntries entries ++ rest) := by
  rcases entries with _ | ⟨⟨key, value⟩, entries⟩ <;> intro character first <;> cases first <;> rfl

variable {hook : List (String × JsonValue F) → Option (List (String × JsonValue F))}

/-- What starts like a number is read as one. -/
theorem readValue_number {fuel : Nat} {text : List Char}
    (starts : ∀ character ∈ text.head?, isNumberCharacter character) :
    readValue hook (fuel + 1) text = readNumber text := by
  unfold readValue
  split
  all_goals first
    | rfl
    | exact absurd (starts _ rfl) (by decide)

theorem readValue_string (fuel : Nat) (text : String) (rest : List Char) :
    readValue hook (fuel + 1) (writeString text ++ rest) = some (.str text, rest) := by
  simp only [writeString, List.cons_append, List.append_assoc, List.nil_append, readValue]
  rw [readString_written]
  simp

theorem readValue_array {fuel : Nat} {text rest : List Char} {items : List (JsonValue F)}
    (notClosed : text.head? ≠ some ']') (visible : skipBlanks text = text)
    (itemsRead : readItems hook fuel text = some (items, rest)) :
    readValue hook (fuel + 1) ('[' :: text) = some (.arr items, rest) := by
  simp only [readValue, visible]
  split
  · exact absurd rfl notClosed
  · rw [itemsRead]
    rfl

theorem readValue_object {fuel : Nat} {text rest : List Char}
    {entries : List (String × JsonValue F)} (starts : text.head? = some '"')
    (entriesRead : readEntries hook fuel text = some (entries, rest))
    (accepted : hook entries = some entries) :
    readValue hook (fuel + 1) ('{' :: text) = some (.obj entries, rest) := by
  have visible : skipBlanks text = text := by
    cases text with
    | nil => rfl
    | cons character text =>
        obtain rfl : character = '"' := by simpa using starts
        exact skipBlanks_cons rfl text
  simp only [readValue, visible]
  split
  · simp at starts
  · simp [entriesRead, accepted]

/-- An entry is read up to the comma or the brace that follows it. -/
theorem readEntries_entry {fuel : Nat} {key : String} {value : JsonValue F}
    {text rest : List Char} (visible : skipBlanks text = text)
    (valueRead : readValue hook fuel text = some (value, rest)) :
    readEntries hook (fuel + 1) (writeString key ++ ':' :: text) =
      match skipBlanks rest with
      | '}' :: rest => some ([(key, value)], rest)
      | ',' :: rest =>
          (readEntries hook fuel (skipBlanks rest)).map fun (entries, rest) =>
            ((key, value) :: entries, rest)
      | _ => none := by
  simp only [writeString, List.cons_append, List.append_assoc, List.nil_append, readEntries]
  rw [readString_written]
  simp only [skipBlanks_cons (show isBlank ':' = false from rfl), visible, valueRead,
    String.ofList_toList]

mutual

theorem readValue_write
    (distinct : ∀ pairs, (pairs.map Prod.fst).Nodup → hook pairs = some pairs) :
    ∀ (value : JsonValue F) (fuel : Nat) (rest : List Char), WellFormed value → Delimited rest →
      (write value).length ≤ fuel → readValue hook fuel (write value ++ rest) = some (value, rest)
  | _, 0, _, wellFormed, _, enough => by
      obtain ⟨character, text, starts, -⟩ := write_starts wellFormed
      rw [starts] at enough
      cases enough
  | .null, _ + 1, _, _, _, _ => rfl
  | .bool true, _ + 1, _, _, _, _ => rfl
  | .bool false, _ + 1, _, _, _, _ => rfl
  | .int value, fuel + 1, rest, _, delimited, _ => by
      obtain ⟨character, text, starts, isNumber⟩ :=
        number_starts (all_isNumberCharacter_writeInt value) (writeInt_ne_nil value)
      rw [write, readValue_number, readNumber_writeInt value delimited]
      rw [starts]
      rintro _ ⟨⟩
      exact isNumber
  | .float value, fuel + 1, rest, finite, delimited, _ => by
      obtain ⟨character, text, starts, isNumber⟩ :=
        number_starts (FloatFormat.all_repr value finite) (repr_ne_nil finite)
      rw [write, readValue_number, readNumber_repr finite delimited]
      rw [starts]
      rintro _ ⟨⟩
      exact isNumber
  | .str value, fuel + 1, rest, _, _, _ => readValue_string fuel value rest
  | .arr [], _ + 1, _, _, _, _ => rfl
  | .arr (item :: items), fuel + 1, rest, wellFormed, _, enough => by
      obtain ⟨character, text, starts, -, notClosing⟩ := write_starts wellFormed.1
      rw [write, List.cons_append, List.append_assoc]
      apply readValue_array
      · rw [starts]
        simpa using notClosing
      · exact skipBlanks_write wellFormed.1 _
      · exact readItems_write distinct item items fuel rest wellFormed
          (by simpa [write] using enough)
  | .obj [], _ + 1, _, _, _, _ => by
      simp [write, readValue, skipBlanks_cons (show isBlank '}' = false from rfl), distinct]
  | .obj ((key, value) :: entries), fuel + 1, rest, wellFormed, _, enough => by
      rw [write, List.cons_append, List.append_assoc]
      refine readValue_object rfl ?_ (distinct _ wellFormed.1)
      exact readEntries_write distinct key value entries fuel rest wellFormed.2
        (by simpa [write] using enough)

theorem readItems_write
    (distinct : ∀ pairs, (pairs.map Prod.fst).Nodup → hook pairs = some pairs) :
    ∀ (item : JsonValue F) (items : List (JsonValue F)) (fuel : Nat) (rest : List Char),
      AreWellFormed (item :: items) → (write item ++ writeItems items).length ≤ fuel →
      readItems hook fuel (write item ++ (writeItems items ++ rest)) = some (item :: items, rest)
  | item, _, 0, _, wellFormed, enough => by
      obtain ⟨character, text, starts, -⟩ := write_starts wellFormed.1
      rw [starts] at enough
      cases enough
  | item, [], fuel + 1, rest, wellFormed, enough => by
      rw [List.length_append] at enough
      have itemRead := readValue_write distinct item fuel (writeItems (F := F) [] ++ rest)
        wellFormed.1 (delimited_writeItems [] rest) (by simp [writeItems] at enough; omega)
      rw [readItems, itemRead]
      rfl
  | item, next :: items, fuel + 1, rest, wellFormed, enough => by
      rw [List.length_append, writeItems, List.length_cons] at enough
      have itemRead := readValue_write distinct item fuel (writeItems (next :: items) ++ rest)
        wellFormed.1 (delimited_writeItems _ rest) (by omega)
      have itemsRead := readItems_write distinct next items fuel rest wellFormed.2 (by omega)
      rw [readItems, itemRead]
      simp only [writeItems, List.cons_append, List.append_assoc,
        skipBlanks_cons (show isBlank ',' = false from rfl), skipBlanks_write wellFormed.2.1,
        itemsRead, Option.map_some]

theorem readEntries_write
    (distinct : ∀ pairs, (pairs.map Prod.fst).Nodup → hook pairs = some pairs) :
    ∀ (key : String) (value : JsonValue F) (entries : List (String × JsonValue F)) (fuel : Nat)
      (rest : List Char), HaveWellFormed ((key, value) :: entries) →
      (writeString key ++ ':' :: (write value ++ writeEntries entries)).length ≤ fuel →
      readEntries hook fuel
          (writeString key ++ (':' :: (write value ++ writeEntries entries) ++ rest)) =
        some ((key, value) :: entries, rest)
  | key, value, _, 0, _, _, enough => by simp [writeString] at enough
  | key, value, [], fuel + 1, rest, wellFormed, enough => by
      have valueRead := readValue_write distinct value fuel (writeEntries (F := F) [] ++ rest)
        wellFormed.1 (delimited_writeEntries [] rest) (by simp [writeString] at enough; omega)
      rw [List.cons_append, List.append_assoc,
        readEntries_entry (skipBlanks_write wellFormed.1 _) valueRead]
      rfl
  | key, value, (nextKey, next) :: entries, fuel + 1, rest, wellFormed, enough => by
      have valueRead := readValue_write distinct value fuel
        (writeEntries ((nextKey, next) :: entries) ++ rest) wellFormed.1
        (delimited_writeEntries _ rest) (by simp [writeString] at enough; omega)
      have entriesRead := readEntries_write distinct nextKey next entries fuel rest wellFormed.2
        (by simp [writeString, writeEntries] at enough ⊢; omega)
      rw [List.cons_append, List.append_assoc,
        readEntries_entry (skipBlanks_write wellFormed.1 _) valueRead]
      have visible : skipBlanks (writeString nextKey ++
          (':' :: (write next ++ writeEntries entries) ++ rest)) = writeString nextKey ++
            (':' :: (write next ++ writeEntries entries) ++ rest) :=
        skipBlanks_cons rfl _
      simp only [writeEntries, List.cons_append, List.append_assoc,
        skipBlanks_cons (show isBlank ',' = false from rfl)] at visible entriesRead ⊢
      rw [visible, entriesRead]
      rfl

end

/-- Whatever the hook does with pairs of different keys, it sees those of the value. -/
theorem loadsWith_write
    (distinct : ∀ pairs, (pairs.map Prod.fst).Nodup → hook pairs = some pairs)
    {value : JsonValue F} (wellFormed : WellFormed value) :
    loadsWith hook (write value) = some value := by
  have read := readValue_write distinct value ((write value).length + 1) [] wellFormed
    (by simp [Delimited]) (by omega)
  have visible := skipBlanks_write wellFormed []
  rw [List.append_nil] at read visible
  rw [loadsWith, visible, read]
  rfl

/-! ### Dictionaries -/

section Dictionaries

variable {α : Type}

theorem setEntry_of_notMem {entries : List (String × α)} {key : String} (value : α)
    (fresh : key ∉ entries.map Prod.fst) :
    setEntry entries key value = entries ++ [(key, value)] := by
  induction entries with
  | nil => rfl
  | cons entry entries ih =>
      rw [List.map_cons, List.mem_cons, not_or] at fresh
      simp [setEntry, Ne.symm fresh.1, ih fresh.2]

theorem keys_setEntry (entries : List (String × α)) (key : String) (value : α) :
    (setEntry entries key value).map Prod.fst =
      if key ∈ entries.map Prod.fst then entries.map Prod.fst
      else entries.map Prod.fst ++ [key] := by
  induction entries with
  | nil => rfl
  | cons entry entries ih =>
      by_cases same : entry.1 = key
      · simp [setEntry, same]
      · simp only [setEntry, same, if_false, List.map_cons, ih, List.mem_cons, Ne.symm same,
          false_or]
        split <;> rfl

theorem nodup_setEntry {entries : List (String × α)} (key : String) (value : α)
    (distinct : (entries.map Prod.fst).Nodup) :
    ((setEntry entries key value).map Prod.fst).Nodup := by
  rw [keys_setEntry]
  split
  · exact distinct
  next fresh => exact distinct.append (List.nodup_singleton key) (List.disjoint_singleton.mpr fresh)

/-- A dictionary has every key once. -/
theorem nodup_dict (pairs : List (String × α)) : ((dict pairs).map Prod.fst).Nodup := by
  unfold dict
  generalize start : ([] : List (String × α)) = entries
  have distinct : (entries.map Prod.fst).Nodup := by simp [← start]
  clear start
  induction pairs generalizing entries with
  | nil => exact distinct
  | cons pair pairs ih => exact ih _ (nodup_setEntry pair.1 pair.2 distinct)

theorem foldl_setEntry (pairs entries : List (String × α))
    (distinct : ((entries ++ pairs).map Prod.fst).Nodup) :
    pairs.foldl (fun entries pair => setEntry entries pair.1 pair.2) entries =
      entries ++ pairs := by
  induction pairs generalizing entries with
  | nil => simp
  | cons pair pairs ih =>
      have fresh : pair.1 ∉ entries.map Prod.fst := by
        rw [List.map_append, List.map_cons] at distinct
        exact fun isIn => List.disjoint_of_nodup_append distinct isIn List.mem_cons_self
      rw [List.foldl_cons, setEntry_of_notMem pair.2 fresh, ih _ (by simpa using distinct)]
      simp

theorem dict_of_nodup {pairs : List (String × α)} (distinct : (pairs.map Prod.fst).Nodup) :
    dict pairs = pairs := by
  have folded := foldl_setEntry pairs [] (by simpa using distinct)
  simpa [dict] using folded

theorem mem_setEntry {entries : List (String × α)} {key : String} {value : α}
    {entry : String × α} (isIn : entry ∈ setEntry entries key value) :
    entry ∈ entries ∨ entry = (key, value) := by
  induction entries with
  | nil => simpa [setEntry] using isIn
  | cons other entries ih =>
      by_cases same : other.1 = key
      · simp only [setEntry, same, if_true, List.mem_cons] at isIn
        rcases isIn with rfl | isIn
        · exact .inr rfl
        · exact .inl (List.mem_cons_of_mem _ isIn)
      · simp only [setEntry, same, if_false, List.mem_cons] at isIn
        rcases isIn with rfl | isIn
        · exact .inl List.mem_cons_self
        · exact (ih isIn).imp_left (List.mem_cons_of_mem _)

/-- A dictionary has no other entries than its pairs. -/
theorem mem_of_mem_dict {pairs : List (String × α)} {entry : String × α}
    (isIn : entry ∈ dict pairs) : entry ∈ pairs := by
  have general : ∀ entries : List (String × α),
      entry ∈ pairs.foldl (fun entries pair => setEntry entries pair.1 pair.2) entries →
        entry ∈ entries ∨ entry ∈ pairs := by
    clear isIn
    intro entries isIn
    induction pairs generalizing entries with
    | nil => exact .inl isIn
    | cons pair pairs ih =>
        rcases ih _ isIn with isIn | isIn
        · rcases mem_setEntry isIn with isIn | rfl
          · exact .inl isIn
          · exact .inr List.mem_cons_self
        · exact .inr (List.mem_cons_of_mem _ isIn)
  simpa using general [] isIn

end Dictionaries

/-- `json.loads` of what `json.dumps` wrote. -/
theorem loads_write {value : JsonValue F} (wellFormed : WellFormed value) :
    loads (write value) = some value :=
  loadsWith_write (fun _ distinct => by rw [dict_of_nodup distinct]) wellFormed

/-- Different values have different texts. -/
theorem write_injective {first second : JsonValue F} (firstFormed : WellFormed first)
    (secondFormed : WellFormed second) (same : write first = write second) : first = second := by
  have read := loads_write firstFormed
  rw [same, loads_write secondFormed] at read
  exact (Option.some.inj read).symm

end JsonText

end ElKeeper
