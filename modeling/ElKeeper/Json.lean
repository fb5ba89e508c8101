import Mathlib.Data.List.Infix

/-!
# JSON values and dictionaries

Stored configurations, run contexts and observations are JSON.  Objects keep
their entries in insertion order.  Two Python dictionaries that differ only in
that order are equal, so no operation here reorders entries.
-/

namespace ElKeeper

inductive Json where
  | null
  | bool (value : Bool)
  | num (value : Rat)
  | str (value : String)
  | arr (items : List Json)
  | obj (entries : List (String × Json))

namespace Json

mutual

/-- Equality of values is decided along their structure. -/
def decEq : (first second : Json) → Decidable (first = second)
  | .null, .null => isTrue rfl
  | .bool first, .bool second => decidable_of_iff (first = second) (by simp)
  | .num first, .num second => decidable_of_iff (first = second) (by simp)
  | .str first, .str second => decidable_of_iff (first = second) (by simp)
  | .arr first, .arr second =>
      @decidable_of_iff _ (first = second) (by simp) (decEqItems first second)
  | .obj first, .obj second =>
      @decidable_of_iff _ (first = second) (by simp) (decEqEntries first second)
  | .null, .bool _ | .null, .num _ | .null, .str _ | .null, .arr _ | .null, .obj _
  | .bool _, .null | .bool _, .num _ | .bool _, .str _ | .bool _, .arr _ | .bool _, .obj _
  | .num _, .null | .num _, .bool _ | .num _, .str _ | .num _, .arr _ | .num _, .obj _
  | .str _, .null | .str _, .bool _ | .str _, .num _ | .str _, .arr _ | .str _, .obj _
  | .arr _, .null | .arr _, .bool _ | .arr _, .num _ | .arr _, .str _ | .arr _, .obj _
  | .obj _, .null | .obj _, .bool _ | .obj _, .num _ | .obj _, .str _ | .obj _, .arr _ =>
      isFalse nofun

def decEqItems : (first second : List Json) → Decidable (first = second)
  | [], [] => isTrue rfl
  | [], _ :: _ | _ :: _, [] => isFalse nofun
  | first :: firsts, second :: seconds =>
      @decidable_of_iff _ (first = second ∧ firsts = seconds) (by simp)
        (@instDecidableAnd _ _ (decEq first second) (decEqItems firsts seconds))

def decEqEntries : (first second : List (String × Json)) → Decidable (first = second)
  | [], [] => isTrue rfl
  | [], _ :: _ | _ :: _, [] => isFalse nofun
  | (firstKey, first) :: firsts, (secondKey, second) :: seconds =>
      @decidable_of_iff _ ((firstKey = secondKey ∧ first = second) ∧ firsts = seconds)
        (by simp)
        (@instDecidableAnd _ _
          (@instDecidableAnd _ _ inferInstance (decEq first second))
          (decEqEntries firsts seconds))

end

instance : DecidableEq Json :=
  decEq

/-- Insert an entry before the first greater key. -/
def insertEntry (entry : String × Json) : List (String × Json) → List (String × Json)
  | [] => [entry]
  | other :: rest =>
      if entry.1 < other.1 then entry :: other :: rest else other :: insertEntry entry rest

mutual

/-- The value that `canonical_json` writes: every object with sorted keys. -/
def canonical : Json → Json
  | .arr items => .arr (canonicalItems items)
  | .obj entries => .obj (canonicalEntries entries)
  | value => value

def canonicalItems : List Json → List Json
  | [] => []
  | item :: items => canonical item :: canonicalItems items

def canonicalEntries : List (String × Json) → List (String × Json)
  | [] => []
  | (key, value) :: entries => insertEntry (key, canonical value) (canonicalEntries entries)

end

/-- `SENSITIVE_KEY_PARTS`. -/
def sensitiveKeyParts : List String :=
  ["api_key", "credential", "enrollment", "passphrase", "password", "private_key",
    "secret", "token"]

/-- `str.lower` for one character, as far as it can produce an ASCII letter:
besides `A` to `Z` only the Kelvin sign does. -/
def lowerCharacter (character : Char) : Char :=
  if character.toNat = 0x212A then 'k' else character.toLower

/-- `_sensitive_key`.  Stripping outer blanks cannot remove an occurrence of a
part, so it is left out. -/
def sensitiveKey (key : String) : Bool :=
  let normalized := key.toList.map fun character =>
    if character = '-' then '_' else lowerCharacter character
  sensitiveKeyParts.any fun part => decide (part.toList <:+: normalized)

mutual

/-- `redact_structure`. -/
def redactStructure : Json → Json
  | .arr items => .arr (redactItems items)
  | .obj entries => .obj (redactEntries entries)
  | value => value

def redactItems : List Json → List Json
  | [] => []
  | item :: items => redactStructure item :: redactItems items

def redactEntries : List (String × Json) → List (String × Json)
  | [] => []
  | (key, value) :: entries =>
      (key, if sensitiveKey key then .str "[REDACTED]" else redactStructure value) ::
        redactEntries entries

end

/-- `_json` of the store, read back: redacted and canonical. -/
def persisted (value : Json) : Json :=
  canonical (redactStructure value)

end Json

/-- A dictionary with string keys. -/
abbrev Dict :=
  List (String × Json)

namespace Dict

/-- `dictionary[key] = value`: an existing key keeps its place. -/
def set : Dict → String → Json → Dict
  | [], key, value => [(key, value)]
  | (other, old) :: rest, key, value =>
      if other = key then (key, value) :: rest else (other, old) :: set rest key value

/-- `{**previous, **update}`. -/
def merge (previous update : Dict) : Dict :=
  update.foldl (fun merged entry => merged.set entry.1 entry.2) previous

/-- `dictionary.get(key)`. -/
def get (dictionary : Dict) (key : String) : Option Json :=
  List.lookup key dictionary

end Dict

end ElKeeper
