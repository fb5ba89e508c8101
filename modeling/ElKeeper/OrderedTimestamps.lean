import ElKeeper.CalendarInstants
import Mathlib.Data.Char

/-!
# The order of stored timestamps

The repository stores moments as texts in UTC with six digits of a fraction, so that SQL
can compare them.  Such a text says at what instant the moment is, whatever its zone was,
and the texts are in the order of the instants.
-/

namespace ElKeeper

namespace AwareTimestamp

/-- What aware datetimes are compared by, in microseconds. -/
def instant (timestamp : AwareTimestamp) : Int :=
  timestamp.wall.instant - timestamp.offset * 1000000

theorem utc_eq_some_iff (timestamp : AwareTimestamp) (moment : DateTime) :
    timestamp.utc = some moment ↔ (moment.instant : Int) = timestamp.instant := by
  unfold utc instant
  by_cases atZero : timestamp.offset = 0
  · rw [if_pos atZero, atZero, Int.zero_mul, Int.sub_zero, Option.some_inj, Nat.cast_inj]
    constructor
    · rintro rfl
      rfl
    · intro same
      exact DateTime.instant_injective same.symm
  · rw [if_neg atZero, DateTime.ofInstant_eq_some_iff]

@[simp]
theorem instant_utc (moment : DateTime) :
    (AwareTimestamp.mk moment 0).instant = moment.instant := by
  simp [instant]

end AwareTimestamp

namespace Iso

/-- `replace("+00:00", "Z")`. -/
def replaceUtc : List Char → List Char
  | '+' :: '0' :: '0' :: ':' :: '0' :: '0' :: text => 'Z' :: replaceUtc text
  | character :: text => character :: replaceUtc text
  | [] => []

theorem replaceUtc_append {text : List Char} (unsigned : ∀ character ∈ text, character ≠ '+')
    (zone : List Char) : replaceUtc (text ++ zone) = text ++ replaceUtc zone := by
  induction text with
  | nil => rfl
  | cons character text ih =>
      obtain ⟨first, others⟩ := List.forall_mem_cons.mp unsigned
      have kept : replaceUtc (character :: (text ++ zone)) =
          character :: replaceUtc (text ++ zone) := by
        apply replaceUtc.eq_2
        rintro _ rfl _
        exact first rfl
      rw [List.cons_append, kept, ih others, List.cons_append]

theorem ordered_digit : OrderedField (fun number => [Nat.digitChar number]) 10 := by
  apply OrderedField.single
  intro first second before bounded
  have table : ∀ later < 10, ∀ earlier < later,
      Nat.digitChar earlier < Nat.digitChar later := by decide
  exact table second bounded first before

theorem ordered_pad2 : OrderedField pad2 100 :=
  .pair ordered_digit ordered_digit (by decide)

theorem ordered_pad4 : OrderedField pad4 10000 :=
  .pair ordered_pad2 ordered_pad2 (by decide)

theorem ordered_pad6 : OrderedField pad6 1000000 :=
  .pair ordered_pad4 ordered_pad2 (by decide)

/-- The texts of two readings are in the order of their fields. -/
theorem microseconds_lt_iff (first second : DateTime) (zone : List Char) :
    microseconds first ++ zone < microseconds second ++ zone ↔
      DateTime.Precedes first second := by
  obtain ⟨⟨-, year⟩, ⟨-, month⟩, ⟨-, day⟩, hour, minute, secs, micros⟩ := first.valid
  obtain ⟨⟨-, year'⟩, ⟨-, month'⟩, ⟨-, day'⟩, hour', minute', secs', micros'⟩ := second.valid
  have shortMonth := daysInMonth_lt first.year first.month
  have shortMonth' := daysInMonth_lt second.year second.month
  have separator (character : Char) (text other : List Char) :
      character :: text < character :: other ↔ text < other := by
    simp
  simp only [microseconds, seconds, date, time, List.append_assoc, List.cons_append]
  rw [ordered_pad4 _ (by omega) _ (by omega), separator, ordered_pad2 _ (by omega) _ (by omega),
    separator, ordered_pad2 _ (by omega) _ (by omega), separator,
    ordered_pad2 _ (by omega) _ (by omega), separator, ordered_pad2 _ (by omega) _ (by omega),
    separator, ordered_pad2 _ (by omega) _ (by omega), separator, ordered_pad6 _ micros _ micros']
  simp only [lt_irrefl, and_false, or_false, DateTime.Precedes]

/-! ### Reading a stored text -/

/-- The time of day with all six digits of its fraction. -/
def fullClock (moment : DateTime) : List Char :=
  time moment ++ '.' :: pad6 moment.microsecond

theorem microseconds_eq (moment : DateTime) :
    microseconds moment = date moment ++ 'T' :: fullClock moment := by
  simp [microseconds, seconds, fullClock]

theorem timeOfDay_fullClock (moment : DateTime) :
    timeOfDay (fullClock moment) =
      some (moment.hour, moment.minute, moment.second, moment.microsecond) := by
  obtain ⟨-, -, -, hours, minutes, secs, micros⟩ := moment.valid
  have hour := number_pad2 moment.hour (by omega)
  have minute := number_pad2 moment.minute (by omega)
  have second := number_pad2 moment.second (by omega)
  have fraction := number_pad6 micros
  simp only [pad2] at hour minute second
  simp only [pad6, pad4, pad2, List.cons_append, List.nil_append] at fraction
  simp only [fullClock, time, pad6, pad4, pad2, List.cons_append, List.nil_append, timeOfDay,
    hour, minute, second, fraction]
  rfl

theorem fullClock_characters (moment : DateTime) :
    ∀ character ∈ fullClock moment, character.isDigit ∨ character = ':' ∨ character = '.' := by
  have ofClock := clock_characters moment
  by_cases whole : moment.microsecond = 0
  · have zeros : pad6 0 = ['0', '0', '0', '0', '0', '0'] := rfl
    simp only [clock, whole, if_true] at ofClock
    simp only [fullClock, whole, zeros, List.forall_mem_append, List.forall_mem_cons]
    have zero : ('0').isDigit ∨ '0' = ':' ∨ '0' = '.' := .inl rfl
    exact ⟨ofClock, .inr (.inr trivial), zero, zero, zero, zero, zero, zero, by simp⟩
  · simpa only [clock, if_neg whole, fullClock] using ofClock

theorem microseconds_characters (moment : DateTime) :
    ∀ character ∈ microseconds moment,
      character.isDigit ∨ character = '-' ∨ character = 'T' ∨ character = ':' ∨
        character = '.' := by
  obtain ⟨years, months, ⟨-, days⟩, -⟩ := moment.valid
  have shortMonth := daysInMonth_lt moment.year moment.month
  have digits : ∀ value < 100, ∀ character ∈ pad2 value,
      character.isDigit ∨ character = '-' ∨ character = 'T' ∨ character = ':' ∨
        character = '.' :=
    fun value bounded character isIn => .inl (pad2_digits bounded character isIn)
  rw [microseconds_eq]
  simp only [date, pad4, List.forall_mem_append, List.forall_mem_cons]
  refine ⟨⟨⟨⟨digits _ (by omega), digits _ (by omega)⟩, by decide, digits _ (by omega)⟩,
    by decide, digits _ (by omega)⟩, by decide, ?_⟩
  intro character isIn
  rcases fullClock_characters moment character isIn with digit | colon | point
  · exact .inl digit
  · exact .inr (.inr (.inr (.inl colon)))
  · exact .inr (.inr (.inr (.inr point)))

theorem microseconds_ne (moment : DateTime) {sign : Char} (notDigit : sign.isDigit = false)
    (other : sign ∉ ['-', 'T', ':', '.']) :
    ∀ character ∈ microseconds moment, character ≠ sign := by
  rintro character isIn rfl
  have allowed := microseconds_characters moment character isIn
  rw [notDigit] at allowed
  simp only [Bool.false_eq_true, false_or] at allowed
  simp only [List.mem_cons, List.not_mem_nil, or_false] at other
  exact other allowed

/-- A text with six digits of a fraction is read as it was written. -/
theorem fromIsoformat_microseconds (moment : DateTime) :
    fromIsoformat (microseconds moment ++ ['+', '0', '0', ':', '0', '0']) =
      some ⟨moment, 0⟩ := by
  obtain ⟨years, months, ⟨-, days⟩, -⟩ := moment.valid
  have shortMonth := daysInMonth_lt moment.year moment.month
  have year := number_pad4 moment.year (by omega)
  have month := number_pad2 moment.month (by omega)
  have day := number_pad2 moment.day (by omega)
  have unsigned : ∀ character ∈ fullClock moment, (! isSign character) = true := by
    intro character isIn
    rw [Bool.not_eq_true', Bool.eq_false_iff]
    intro sign
    simp only [isSign, Bool.or_eq_true, decide_eq_true_eq] at sign
    rcases fullClock_characters moment character isIn with digit | rfl | rfl
    · rcases sign with rfl | rfl
      all_goals exact absurd digit (by decide)
    all_goals exact absurd sign (by decide)
  have time : (fullClock moment ++ ['+', '0', '0', ':', '0', '0']).takeWhile (! isSign ·) =
      fullClock moment := by
    rw [List.takeWhile_append_of_pos unsigned]
    simp [isSign]
  have zoned : (fullClock moment ++ ['+', '0', '0', ':', '0', '0']).dropWhile (! isSign ·) =
      ['+', '0', '0', ':', '0', '0'] := by
    rw [List.dropWhile_append_of_pos unsigned]
    rfl
  have atZero : zone ['+', '0', '0', ':', '0', '0'] = some 0 := by decide
  rw [microseconds_eq]
  simp only [pad4, pad2, List.cons_append, List.nil_append] at year month day
  simp only [date, pad4, pad2, List.cons_append, List.nil_append, fromIsoformat, year, month, day,
    time, zoned, timeOfDay_fullClock, atZero]
  simp [make_fields]

end Iso

open Iso

/-- `iso_timestamp` of an aware datetime; the conversion to UTC can overflow. -/
def isoTimestamp (value : AwareTimestamp) : Option (List Char) :=
  value.utc.map fun moment => replaceUtc (microseconds moment ++ ['+', '0', '0', ':', '0', '0'])

/-- `parse_timestamp`. -/
def parseTimestamp (value : List Char) : Option AwareTimestamp := do
  let timestamp ← fromIsoformat (replaceZ value)
  let moment ← timestamp.utc
  pure ⟨moment, 0⟩

theorem isoTimestamp_eq (value : AwareTimestamp) :
    isoTimestamp value = value.utc.map fun moment => microseconds moment ++ ['Z'] := by
  have unsigned (moment : DateTime) :=
    microseconds_ne moment (by decide : ('+').isDigit = false) (by decide)
  simp only [isoTimestamp, replaceUtc_append (unsigned _)]
  rfl

theorem replaceZ_microseconds (moment : DateTime) :
    replaceZ (microseconds moment ++ ['Z']) =
      microseconds moment ++ ['+', '0', '0', ':', '0', '0'] := by
  have unmarked := microseconds_ne moment (by decide : ('Z').isDigit = false) (by decide)
  have kept : (microseconds moment).flatMap (fun character =>
      if character = 'Z' then ['+', '0', '0', ':', '0', '0'] else [character]) =
        microseconds moment := by
    conv_rhs => rw [← List.flatMap_singleton' (microseconds moment)]
    refine List.flatMap_congr fun character isIn => ?_
    rw [if_neg (unmarked character isIn)]
  rw [replaceZ, List.flatMap_append, kept]
  rfl

theorem parseTimestamp_microseconds (moment : DateTime) :
    parseTimestamp (microseconds moment ++ ['Z']) = some ⟨moment, 0⟩ := by
  rw [parseTimestamp, replaceZ_microseconds, fromIsoformat_microseconds]
  rfl

/-- A stored text is that of a reading in UTC at the same instant. -/
theorem isoTimestamp_eq_some_iff {value : AwareTimestamp} {text : List Char} :
    isoTimestamp value = some text ↔
      ∃ moment : DateTime, (moment.instant : Int) = value.instant ∧
        text = microseconds moment ++ ['Z'] := by
  simp only [isoTimestamp_eq, Option.map_eq_some_iff, AwareTimestamp.utc_eq_some_iff,
    @eq_comm _ text]

/-- Stored texts compare as SQL compares them exactly as their instants do. -/
theorem isoTimestamp_lt_iff {first second : AwareTimestamp} {text other : List Char}
    (written : isoTimestamp first = some text) (otherWritten : isoTimestamp second = some other) :
    text < other ↔ first.instant < second.instant := by
  obtain ⟨moment, atInstant, rfl⟩ := isoTimestamp_eq_some_iff.mp written
  obtain ⟨later, laterInstant, rfl⟩ := isoTimestamp_eq_some_iff.mp otherWritten
  rw [microseconds_lt_iff, DateTime.precedes_iff, ← atInstant, ← laterInstant, Nat.cast_lt]

theorem isoTimestamp_le_iff {first second : AwareTimestamp} {text other : List Char}
    (written : isoTimestamp first = some text) (otherWritten : isoTimestamp second = some other) :
    text ≤ other ↔ first.instant ≤ second.instant := by
  rw [← not_lt, ← not_lt, isoTimestamp_lt_iff otherWritten written]

/-- Two moments have one text exactly when they are the same instant. -/
theorem isoTimestamp_eq_iff {first second : AwareTimestamp} {text other : List Char}
    (written : isoTimestamp first = some text) (otherWritten : isoTimestamp second = some other) :
    text = other ↔ first.instant = second.instant := by
  rw [le_antisymm_iff, le_antisymm_iff, isoTimestamp_le_iff written otherWritten,
    isoTimestamp_le_iff otherWritten written]

/-- A stored text is read as the instant that was stored. -/
theorem parseTimestamp_isoTimestamp {value : AwareTimestamp} {text : List Char}
    (written : isoTimestamp value = some text) :
    ∃ read, parseTimestamp text = some read ∧ read.instant = value.instant := by
  obtain ⟨moment, atInstant, rfl⟩ := isoTimestamp_eq_some_iff.mp written
  exact ⟨⟨moment, 0⟩, parseTimestamp_microseconds moment, by simpa using atInstant⟩

theorem isoTimestamp_isSome_iff (value : AwareTimestamp) :
    (isoTimestamp value).isSome ↔
      86400000000 ≤ value.instant ∧ value.instant < 315537984000000000 := by
  have sameInstant : (isoTimestamp value).isSome ↔ (DateTime.ofInstant value.instant).isSome := by
    simp only [Option.isSome_iff_exists, isoTimestamp_eq_some_iff,
      DateTime.ofInstant_eq_some_iff]
    constructor
    · rintro ⟨text, moment, atInstant, -⟩
      exact ⟨moment, atInstant⟩
    · rintro ⟨moment, atInstant⟩
      exact ⟨_, moment, atInstant, rfl⟩
  rw [sameInstant, DateTime.ofInstant_isSome_iff]

/-- A moment is stored exactly when its instant is in the calendar, whatever its zone; what is
stored is read as that instant and is stored again as the same text; and of two stored texts
SQL finds the one less, or equal, exactly when Python finds the moment so. -/
theorem timestamps_ordered (first second : AwareTimestamp) :
    ((isoTimestamp first).isSome ↔
      86400000000 ≤ first.instant ∧ first.instant < 315537984000000000) ∧
    (∀ text, isoTimestamp first = some text →
      ∃ read, parseTimestamp text = some read ∧ read.instant = first.instant ∧
        isoTimestamp read = some text) ∧
    ∀ text other, isoTimestamp first = some text → isoTimestamp second = some other →
      (text ≤ other ↔ first.instant ≤ second.instant) ∧
        (text < other ↔ first.instant < second.instant) ∧
        (text = other ↔ first.instant = second.instant) := by
  refine ⟨isoTimestamp_isSome_iff first, fun text written => ?_,
    fun text other written otherWritten => ⟨isoTimestamp_le_iff written otherWritten,
      isoTimestamp_lt_iff written otherWritten, isoTimestamp_eq_iff written otherWritten⟩⟩
  obtain ⟨read, parsed, atInstant⟩ := parseTimestamp_isoTimestamp written
  obtain ⟨moment, ofFirst, rfl⟩ := isoTimestamp_eq_some_iff.mp written
  exact ⟨read, parsed, atInstant,
    isoTimestamp_eq_some_iff.mpr ⟨moment, ofFirst.trans atInstant.symm, rfl⟩⟩

end ElKeeper
