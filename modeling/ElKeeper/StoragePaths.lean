import ElKeeper.LexicalPaths
import ElKeeper.RebootContracts
import Mathlib.Tactic.Tauto

/-!
# Storage paths of workloads

The check of a storage path against the system directories.  The check reads the
text of the path, the operating system walks its components.
-/

namespace ElKeeper

open LexicalPaths

/-- `PATH_BLOCKLIST`. -/
def pathBlocklist : List String :=
  ["/etc", "/usr", "/bin", "/sbin", "/lib", "/lib64", "/boot", "/proc", "/sys", "/dev",
    "/run", "/tmp"]

namespace WorkloadPolicyService

/-- `valid_storage_path`. -/
def validStoragePath (blocklist : List String) (value : String) : Bool :=
  if !(['/'].isPrefixOf value.toList) || value == "/" || value.toList.contains ':' ||
      value.toList.any isSpace then
    false
  else
    !(blocklist.any fun path =>
      value == path || (path.toList ++ ['/']).isPrefixOf value.toList)

end WorkloadPolicyService

/-- What a component of a path says where it is read. -/
def pathComponent (text : List Char) : Component (List Char) :=
  if text = [] ∨ text = ['.'] then .stay
  else if text = ['.', '.'] then .up
  else .into text

/-- The components of a path, between its slashes. -/
def pathComponents (value : String) : List (Component (List Char)) :=
  (value.toList.splitOn '/').map pathComponent

/-- The lexical normal form of an absolute path, as the names from the root. -/
def normalForm (value : String) : List (List Char) :=
  destination (pathComponents value)

/-- A path that leads neither to the root nor to or into a listed directory. -/
def LeadsOutside (blocklist : List String) (value : String) : Prop :=
  normalForm value ≠ [] ∧
    ∀ directory ∈ blocklist, ¬normalForm directory <+: normalForm value

/-- A path refused for its form: relative, the root itself, or with a colon or
white space in it. -/
def Misspelt (value : String) : Prop :=
  ¬['/'] <+: value.toList ∨ value = "/" ∨ ':' ∈ value.toList ∨
    ∃ character ∈ value.toList, isSpace character = true

/-- A path whose text is or begins with a listed directory. -/
def NamesListed (blocklist : List String) (value : String) : Prop :=
  ∃ directory ∈ blocklist, value = directory ∨ directory.toList ++ ['/'] <+: value.toList

/-- A path that, standing at the root, goes into a directory that is not listed
and does not go up out of it again. -/
def EntersUnlisted (blocklist : List String) (value : String) : Prop :=
  ∃ before name after, pathComponents value = before ++ .into name :: after ∧
    depth before = 0 ∧ StaysBelow after ∧ String.ofList ('/' :: name) ∉ blocklist

theorem validStoragePath_iff (blocklist : List String) (value : String) :
    WorkloadPolicyService.validStoragePath blocklist value = true ↔
      ¬Misspelt value ∧ ¬NamesListed blocklist value := by
  have listed : (blocklist.any fun path =>
      value == path || (path.toList ++ ['/']).isPrefixOf value.toList) = true ↔
        NamesListed blocklist value := by
    simp only [NamesListed, List.any_eq_true, Bool.or_eq_true, beq_iff_eq,
      List.isPrefixOf_iff_prefix]
  have misspelt : (!(['/'].isPrefixOf value.toList) || value == "/" ||
      value.toList.contains ':' || value.toList.any isSpace) = true ↔ Misspelt value := by
    simp only [Misspelt, Bool.or_eq_true, Bool.not_eq_true', ← Bool.not_eq_true,
      List.isPrefixOf_iff_prefix, beq_iff_eq, List.contains_iff_mem, List.any_eq_true, or_assoc]
  unfold WorkloadPolicyService.validStoragePath
  rw [← listed, ← misspelt]
  split
  next refused =>
    simp only [refused, Bool.false_eq_true, not_true_eq_false, false_and]
  next accepted =>
    rw [Bool.not_eq_true']
    simp only [accepted, not_false_eq_true, true_and, Bool.not_eq_true, Bool.false_eq_true]

/-- Each listed directory lies directly below the root. -/
theorem normalForm_listed {directory : String} (listed : directory ∈ pathBlocklist) :
    ∃ name, normalForm directory = [name] ∧ String.ofList ('/' :: name) = directory := by
  have all : ∀ directory ∈ pathBlocklist, normalForm directory = [directory.toList.tail] ∧
      String.ofList ('/' :: directory.toList.tail) = directory := by
    decide +kernel
  exact ⟨_, all directory listed⟩

theorem leadsOutside_iff (value : String) :
    LeadsOutside pathBlocklist value ↔
      ∃ name, (normalForm value).head? = some name ∧
        String.ofList ('/' :: name) ∉ pathBlocklist := by
  constructor
  · rintro ⟨notRoot, outside⟩
    obtain ⟨name, rest, isForm⟩ := List.exists_cons_of_ne_nil notRoot
    refine ⟨name, by rw [isForm]; rfl, fun listed => ?_⟩
    obtain ⟨own, isOwn, sameText⟩ := normalForm_listed listed
    have sameName : own = name := (List.cons.inj (String.ofList_injective sameText)).2
    apply outside _ listed
    rw [isOwn, sameName, isForm]
    exact (singleton_prefix_iff _ _).mpr rfl
  · rintro ⟨name, isFirst, unlisted⟩
    constructor
    · intro isRoot
      rw [isRoot] at isFirst
      cases isFirst
    · intro directory listed within
      obtain ⟨own, isOwn, sameText⟩ := normalForm_listed listed
      rw [isOwn, singleton_prefix_iff, isFirst] at within
      cases within
      exact unlisted (sameText ▸ listed)

/-- Accepted storage paths lead outside the system directories exactly when the
path is refused on its text, or enters at the root a directory that is not
listed and never goes up out of it. -/
theorem storage_path_outside_iff (value : String) :
    (WorkloadPolicyService.validStoragePath pathBlocklist value = true →
        LeadsOutside pathBlocklist value) ↔
      Misspelt value ∨ NamesListed pathBlocklist value ∨
        EntersUnlisted pathBlocklist value := by
  have entered : LeadsOutside pathBlocklist value ↔ EntersUnlisted pathBlocklist value := by
    rw [leadsOutside_iff]
    simp only [normalForm, head?_destination, EntersUnlisted]
    constructor
    · rintro ⟨name, ⟨before, after, walked, root, below⟩, unlisted⟩
      exact ⟨before, name, after, walked, root, below, unlisted⟩
    · rintro ⟨before, name, after, walked, root, below, unlisted⟩
      exact ⟨name, ⟨before, after, walked, root, below⟩, unlisted⟩
  rw [validStoragePath_iff, entered]
  tauto

/-- A doubled slash or a name that is left again hides a system directory from
the check. -/
theorem storage_path_inside :
    WorkloadPolicyService.validStoragePath pathBlocklist "/data/../etc" = true ∧
      ¬LeadsOutside pathBlocklist "/data/../etc" ∧
      WorkloadPolicyService.validStoragePath pathBlocklist "//" = true ∧
      normalForm "//" = [] := by
  refine ⟨by decide +kernel, fun outside => ?_, by decide +kernel, by decide +kernel⟩
  have listed : "/etc" ∈ pathBlocklist := by decide +kernel
  have same : normalForm "/etc" = normalForm "/data/../etc" := by decide +kernel
  apply outside.2 _ listed
  rw [same]

end ElKeeper
