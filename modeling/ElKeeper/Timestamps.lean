import Mathlib.Algebra.Ring.Nat
import Mathlib.Data.List.Basic

/-!
# Timestamps and their texts

Python's aware `datetime`: the fields of a wall clock and the offset of its zone.  The
text of `isoformat` is read back by `fromisoformat`, which takes what `isoformat` writes.
-/

namespace ElKeeper

def isLeapYear (year : Nat) : Bool :=
  year % 4 = 0 && (year % 100 ≠ 0 || year % 400 = 0)

def daysInMonth (year month : Nat) : Nat :=
  if month = 2 then if isLeapYear year then 29 else 28
  else if month = 4 || month = 6 || month = 9 || month = 11 then 30 else 31

/-- The fields of a `datetime` without a zone. -/
structure DateTime where
  year : Nat
  month : Nat
  day : Nat
  hour : Nat
  minute : Nat
  second : Nat
  microsecond : Nat
  valid : (1 ≤ year ∧ year ≤ 9999) ∧ (1 ≤ month ∧ month ≤ 12) ∧
    (1 ≤ day ∧ day ≤ daysInMonth year month) ∧ hour < 24 ∧ minute < 60 ∧ second < 60 ∧
    microsecond < 1000000
deriving DecidableEq

namespace DateTime

/-- The constructor, which raises `ValueError` for fields out of range. -/
def make (year month day hour minute second microsecond : Nat) : Option DateTime :=
  if valid : (1 ≤ year ∧ year ≤ 9999) ∧ (1 ≤ month ∧ month ≤ 12) ∧
      (1 ≤ day ∧ day ≤ daysInMonth year month) ∧ hour < 24 ∧ minute < 60 ∧ second < 60 ∧
      microsecond < 1000000 then
    some ⟨year, month, day, hour, minute, second, microsecond, valid⟩
  else none

/-- `toordinal`: the first of January of the year 1 is day 1. -/
def ordinal (moment : DateTime) : Nat :=
  let years := moment.year - 1
  years * 365 + years / 4 - years / 100 + years / 400 +
    ((List.range (moment.month - 1)).map fun month => daysInMonth moment.year (month + 1)).sum +
    moment.day

/-- The microseconds since the beginning of the ordinals. -/
def instant (moment : DateTime) : Nat :=
  (((moment.ordinal * 24 + moment.hour) * 60 + moment.minute) * 60 + moment.second) * 1000000 +
    moment.microsecond

/-- `replace(microsecond=0)`. -/
def truncated (moment : DateTime) : DateTime :=
  { moment with
    microsecond := 0
    valid := by
      obtain ⟨year, month, day, hour, minute, second, -⟩ := moment.valid
      exact ⟨year, month, day, hour, minute, second, by omega⟩ }

theorem instant_truncated (moment : DateTime) :
    moment.truncated.instant = moment.instant / 1000000 * 1000000 := by
  have bounded := moment.valid.2.2.2.2.2.2
  have same : moment.truncated.ordinal = moment.ordinal := rfl
  simp only [instant, same]
  simp only [truncated]
  omega

/-- The month of a day of the year, and the day of that month. -/
def monthAndDay (year : Nat) : Nat → Nat → Nat → Nat × Nat
  | 0, month, day => (month, day)
  | fuel + 1, month, day =>
      if day ≤ daysInMonth year month then (month, day)
      else monthAndDay year fuel (month + 1) (day - daysInMonth year month)

/-- The year of an ordinal, and the day of that year. -/
def yearAndDay (ordinal : Nat) : Nat × Nat :=
  let days := ordinal - 1
  let centuries := days % 146097
  let century := min 3 (centuries / 36524)
  let quads := centuries - century * 36524
  let singles := quads % 1461
  let single := min 3 (singles / 365)
  (days / 146097 * 400 + century * 100 + quads / 1461 * 4 + single + 1,
    singles - single * 365 + 1)

/-- The moment of an instant; there is none before the year 1 or after 9999. -/
def ofInstant (instant : Int) : Option DateTime :=
  if instant < 86400000000 then none
  else
    let seconds := instant.toNat / 1000000
    let (year, dayOfYear) := yearAndDay (seconds / 86400)
    let (month, day) := monthAndDay year 11 1 dayOfYear
    make year month day (seconds / 3600 % 24) (seconds / 60 % 60) (seconds % 60)
      (instant.toNat % 1000000)

end DateTime

/-- An aware `datetime`; the offset of its zone is in seconds. -/
structure AwareTimestamp where
  wall : DateTime
  offset : Int
deriving DecidableEq

namespace AwareTimestamp

/-- `astimezone(timezone.utc)`, which can overflow; a moment at no offset is kept. -/
def utc (timestamp : AwareTimestamp) : Option DateTime :=
  if timestamp.offset = 0 then some timestamp.wall
  else DateTime.ofInstant (timestamp.wall.instant - timestamp.offset * 1000000)

theorem utc_of_offset_zero {timestamp : AwareTimestamp} (atZero : timestamp.offset = 0) :
    timestamp.utc = some timestamp.wall := by
  simp [utc, atZero]

end AwareTimestamp

/-! ### Texts -/

namespace Iso

def pad2 (number : Nat) : List Char :=
  [Nat.digitChar (number / 10), Nat.digitChar (number % 10)]

def pad4 (number : Nat) : List Char :=
  pad2 (number / 100) ++ pad2 (number % 100)

def pad6 (number : Nat) : List Char :=
  pad4 (number / 100) ++ pad2 (number % 100)

def date (moment : DateTime) : List Char :=
  pad4 moment.year ++ '-' :: pad2 moment.month ++ '-' :: pad2 moment.day

def time (moment : DateTime) : List Char :=
  pad2 moment.hour ++ ':' :: pad2 moment.minute ++ ':' :: pad2 moment.second

/-- `isoformat(timespec="seconds")`, without the zone. -/
def seconds (moment : DateTime) : List Char :=
  date moment ++ 'T' :: time moment

/-- `isoformat(timespec="microseconds")`. -/
def microseconds (moment : DateTime) : List Char :=
  seconds moment ++ '.' :: pad6 moment.microsecond

/-- `isoformat()`: a fraction is only written where there is one. -/
def auto (moment : DateTime) : List Char :=
  if moment.microsecond = 0 then seconds moment else microseconds moment

/-! ### Reading texts -/

/-- Decimal digits of a field. -/
def number (text : List Char) : Option Nat :=
  if text.all Char.isDigit then some (Nat.ofDigitChars 10 text 0) else none

/-- `HH:MM:SS` with three or six digits of a fraction, or a part of it. -/
def timeOfDay : List Char → Option (Nat × Nat × Nat × Nat)
  | [h, h'] => do pure (← number [h, h'], 0, 0, 0)
  | [h, h', ':', m, m'] => do pure (← number [h, h'], ← number [m, m'], 0, 0)
  | h :: h' :: ':' :: m :: m' :: ':' :: s :: s' :: fraction => do
      let hour ← number [h, h']
      let minute ← number [m, m']
      let second ← number [s, s']
      match fraction with
      | [] => pure (hour, minute, second, 0)
      | ['.', a, b, c] => do pure (hour, minute, second, (← number [a, b, c]) * 1000)
      | ['.', a, b, c, d, e, f] => do pure (hour, minute, second, ← number [a, b, c, d, e, f])
      | _ => none
  | _ => none

/-- The offset of a zone; its sign comes first. -/
def zone : List Char → Option Int
  | sign :: text => do
      let (hour, minute, second, _) ← timeOfDay text
      if text.length ≠ 2 ∧ hour < 24 then
        let offset : Int := (hour * 3600 + minute * 60 + second : Nat)
        pure (if sign = '-' then -offset else offset)
      else none
  | [] => none

def isSign (character : Char) : Bool :=
  character = '+' || character = '-'

/-- `fromisoformat`, for a text with a zone; offsets are whole seconds. -/
def fromIsoformat : List Char → Option AwareTimestamp
  | y :: y' :: y'' :: y''' :: '-' :: m :: m' :: '-' :: d :: d' :: _ :: rest => do
      let year ← number [y, y', y'', y''']
      let month ← number [m, m']
      let day ← number [d, d']
      let (hour, minute, second, microsecond) ← timeOfDay (rest.takeWhile (! isSign ·))
      let offset ← zone (rest.dropWhile (! isSign ·))
      let wall ← DateTime.make year month day hour minute second microsecond
      pure ⟨wall, offset⟩
  | _ => none

/-- `replace("Z", "+00:00")`. -/
def replaceZ (text : List Char) : List Char :=
  text.flatMap fun character =>
    if character = 'Z' then ['+', '0', '0', ':', '0', '0'] else [character]

/-! ### The round trip -/

theorem number_pad2 (value : Nat) (bounded : value < 100) : number (pad2 value) = some value := by
  have tens : (Nat.digitChar (value / 10)).isDigit := by
    rw [Nat.isDigit_digitChar]
    exact decide_eq_true (by omega)
  have ones : (Nat.digitChar (value % 10)).isDigit := by
    rw [Nat.isDigit_digitChar]
    exact decide_eq_true (by omega)
  simp only [number, pad2, List.all_cons, List.all_nil, tens, ones, Bool.and_self, if_true]
  rw [Nat.ofDigitChars_cons_digitChar_of_lt_ten (by omega),
    Nat.ofDigitChars_cons_digitChar_of_lt_ten (by omega), Nat.ofDigitChars_nil]
  congr 1
  omega

theorem number_append {first second : List Char} {a b : Nat} (firstRead : number first = some a)
    (secondRead : number second = some b) :
    number (first ++ second) = some (10 ^ second.length * a + b) := by
  simp only [number, Option.ite_none_right_eq_some, Option.some.injEq] at firstRead secondRead ⊢
  refine ⟨by simp [firstRead.1, secondRead.1], ?_⟩
  rw [Nat.ofDigitChars_append, Nat.ofDigitChars_eq_ofDigitChars_zero, firstRead.2, secondRead.2]

theorem number_pad4 (value : Nat) (bounded : value < 10000) :
    number (pad4 value) = some value := by
  have joined := number_append (number_pad2 (value / 100) (by omega))
    (number_pad2 (value % 100) (by omega))
  rw [pad4, joined]
  congr 1
  simp only [pad2, List.length_cons, List.length_nil]
  omega

theorem number_pad6 {value : Nat} (bounded : value < 1000000) :
    number (pad6 value) = some value := by
  have joined := number_append (number_pad4 (value / 100) (by omega))
    (number_pad2 (value % 100) (by omega))
  rw [pad6, joined]
  congr 1
  simp only [pad2, List.length_cons, List.length_nil]
  omega

/-- The time of day as it is written with or without its fraction. -/
def clock (moment : DateTime) : List Char :=
  if moment.microsecond = 0 then time moment
  else time moment ++ '.' :: pad6 moment.microsecond

theorem auto_eq (moment : DateTime) : auto moment = date moment ++ 'T' :: clock moment := by
  unfold auto clock
  split <;> simp [microseconds, seconds]

theorem timeOfDay_clock (moment : DateTime) :
    timeOfDay (clock moment) =
      some (moment.hour, moment.minute, moment.second, moment.microsecond) := by
  obtain ⟨-, -, -, hours, minutes, secs, micros⟩ := moment.valid
  have hour := number_pad2 moment.hour (by omega)
  have minute := number_pad2 moment.minute (by omega)
  have second := number_pad2 moment.second (by omega)
  have fraction := number_pad6 micros
  simp only [pad2] at hour minute second
  unfold clock
  split
  next whole =>
    simp [time, pad2, timeOfDay, hour, minute, second, whole]
  next =>
    simp only [pad6, pad4, pad2, List.cons_append, List.nil_append] at fraction
    simp only [time, pad6, pad4, pad2, List.cons_append, List.nil_append, timeOfDay, hour, minute,
      second, fraction]
    rfl

theorem pad2_digits {value : Nat} (bounded : value < 100) :
    ∀ character ∈ pad2 value, character.isDigit := by
  intro character isIn
  simp only [pad2, List.mem_cons, List.not_mem_nil, or_false] at isIn
  rcases isIn with rfl | rfl
  all_goals
    rw [Nat.isDigit_digitChar]
    exact decide_eq_true (by omega)

/-- The characters of a time of day are digits, colons and a point. -/
theorem clock_characters (moment : DateTime) :
    ∀ character ∈ clock moment, character.isDigit ∨ character = ':' ∨ character = '.' := by
  obtain ⟨-, -, -, hours, minutes, secs, micros⟩ := moment.valid
  have digits : ∀ value < 100, ∀ character ∈ pad2 value,
      character.isDigit ∨ character = ':' ∨ character = '.' :=
    fun value bounded character isIn => .inl (pad2_digits bounded character isIn)
  have ofTime : ∀ character ∈ time moment,
      character.isDigit ∨ character = ':' ∨ character = '.' := by
    simp only [time, List.forall_mem_append, List.forall_mem_cons]
    exact ⟨⟨digits _ (by omega), .inr (.inl trivial), digits _ (by omega)⟩, .inr (.inl trivial),
      digits _ (by omega)⟩
  unfold clock
  split
  · exact ofTime
  · simp only [pad6, pad4, List.forall_mem_append, List.forall_mem_cons]
    exact ⟨ofTime, .inr (.inr trivial), ⟨digits _ (by omega), digits _ (by omega)⟩,
      digits _ (by omega)⟩

theorem clock_unsigned (moment : DateTime) :
    ∀ character ∈ clock moment, isSign character = false := by
  intro character isIn
  rw [Bool.eq_false_iff]
  intro sign
  simp only [isSign, Bool.or_eq_true, decide_eq_true_eq] at sign
  rcases clock_characters moment character isIn with digit | rfl | rfl
  · rcases sign with rfl | rfl
    all_goals exact absurd digit (by decide)
  all_goals exact absurd sign (by decide)

theorem make_fields (moment : DateTime) :
    DateTime.make moment.year moment.month moment.day moment.hour moment.minute moment.second
      moment.microsecond = some moment := by
  simp [DateTime.make, moment.valid]

theorem daysInMonth_lt (year month : Nat) : daysInMonth year month < 100 := by
  unfold daysInMonth
  repeat' split
  all_goals decide

theorem fromIsoformat_auto (moment : DateTime) :
    fromIsoformat (auto moment ++ ['+', '0', '0', ':', '0', '0']) = some ⟨moment, 0⟩ := by
  obtain ⟨years, months, ⟨-, days⟩, -⟩ := moment.valid
  have shortMonth := daysInMonth_lt moment.year moment.month
  have year := number_pad4 moment.year (by omega)
  have month := number_pad2 moment.month (by omega)
  have day := number_pad2 moment.day (by omega)
  have unsigned : ∀ character ∈ clock moment, (! isSign character) = true := by
    intro character isIn
    rw [clock_unsigned moment character isIn]
    rfl
  have time : (clock moment ++ ['+', '0', '0', ':', '0', '0']).takeWhile (! isSign ·) =
      clock moment := by
    rw [List.takeWhile_append_of_pos unsigned]
    simp [isSign]
  have zoned : (clock moment ++ ['+', '0', '0', ':', '0', '0']).dropWhile (! isSign ·) =
      ['+', '0', '0', ':', '0', '0'] := by
    rw [List.dropWhile_append_of_pos unsigned]
    rfl
  have atZero : zone ['+', '0', '0', ':', '0', '0'] = some 0 := by decide
  rw [auto_eq]
  simp only [pad4, pad2, List.cons_append, List.nil_append] at year month day
  simp only [date, pad4, pad2, List.cons_append, List.nil_append, fromIsoformat, year, month, day,
    time, zoned, timeOfDay_clock, atZero]
  simp [make_fields]

theorem auto_ne_Z (moment : DateTime) : ∀ character ∈ auto moment, character ≠ 'Z' := by
  obtain ⟨years, months, ⟨-, days⟩, -⟩ := moment.valid
  have shortMonth := daysInMonth_lt moment.year moment.month
  have digits : ∀ value < 100, ∀ character ∈ pad2 value, character ≠ 'Z' := by
    rintro value bounded character isIn rfl
    exact absurd (pad2_digits bounded _ isIn) (by decide)
  have ofClock : ∀ character ∈ clock moment, character ≠ 'Z' := by
    rintro character isIn rfl
    exact absurd (clock_characters moment _ isIn) (by decide)
  rw [auto_eq]
  simp only [date, pad4, List.forall_mem_append, List.forall_mem_cons]
  exact ⟨⟨⟨⟨digits _ (by omega), digits _ (by omega)⟩, by decide, digits _ (by omega)⟩, by decide,
    digits _ (by omega)⟩, by decide, ofClock⟩

/-- The text of a moment in UTC is read as that moment. -/
theorem fromIsoformat_replaceZ (moment : DateTime) :
    fromIsoformat (replaceZ (auto moment ++ ['Z'])) = some ⟨moment, 0⟩ := by
  have replaced : replaceZ (auto moment ++ ['Z']) =
      auto moment ++ ['+', '0', '0', ':', '0', '0'] := by
    have kept : (auto moment).flatMap (fun character =>
        if character = 'Z' then ['+', '0', '0', ':', '0', '0'] else [character]) =
          auto moment := by
      conv_rhs => rw [← List.flatMap_singleton' (auto moment)]
      refine List.flatMap_congr fun character isIn => ?_
      rw [if_neg (auto_ne_Z moment character isIn)]
    rw [replaceZ, List.flatMap_append, kept]
    rfl
  rw [replaced, fromIsoformat_auto]

end Iso

end ElKeeper
