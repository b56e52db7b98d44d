import Mathlib.Logic.Function.Basic
import Mathlib.Data.Int.Order.Basic
import Mathlib.Algebra.Group.Int
import Mathlib.Data.List.AList

/-!
# Identities, clock readings and durations

The streaming services keep every instant as a `time.Time` and every span as a
`time.Duration`. Both are modelled as an `Int` count of nanoseconds: an instant
is its Unix nanosecond reading and a duration is the signed `int64` it wraps.
The model lets both range over all of `Int`; Go's `Time.Add` saturates only at
readings hundreds of years away, which no run reaches.

A run of a service is a list of timed events: each event carries the clock
reading at which it takes its lock, and the readings never decrease.

Error texts print an instant as `time.Time.String` (`timeString`), in UTC and
without the monotonic reading Go appends to a time taken from `time.Now()`,
which the model's readings do not carry; its fraction printer `fmtFrac` also
serves `time.Duration.String` in the notification bodies.
-/

namespace LiveStreaming

/-- `livekit.ParticipantIdentity`: an opaque participant, viewer or streamer name. -/
abbrev ParticipantIdentity := String

abbrev RoomName := String

/-- `ReactionType`, a reaction's kind (`like`, `heart`, ...), shared by the
reaction and analytics services. -/
abbrev ReactionType := String

def second : Int := 1000000000

def minute : Int := 60 * second

/-- `24 * time.Hour`, the span `AddDate(0, 0, 1)` adds. -/
def day : Int := 24 * 60 * minute

/-- A `time.Duration` or `int64` value after two's-complement wrap-around. -/
def wrapInt64 (value : Int) : Int :=
  (value + 2 ^ 63) % 2 ^ 64 - 2 ^ 63

@[simp]
theorem minute_eq : minute = 60000000000 := rfl

@[simp]
theorem second_eq : second = 1000000000 := rfl

/-- Whether an optional expiry lies before `now` (`now.After(*expiresAt)`). -/
def expiredAt (now : Int) (expiresAt : Option Int) : Bool :=
  expiresAt.any fun expiry => decide (expiry < now)

/-- `ClockFrom start events finish`: the readings of `events` never decrease,
the first is not before `start`, and `finish` is not before the last one. -/
def ClockFrom {Event : Type} : Int → List (Int × Event) → Int → Prop
  | start, [], finish => start ≤ finish
  | start, (now, _) :: rest, finish => start ≤ now ∧ ClockFrom now rest finish

theorem ClockFrom.le {Event : Type} :
    ∀ {start finish : Int} {events : List (Int × Event)},
      ClockFrom start events finish → start ≤ finish
  | _, _, [], ordered => ordered
  | _, _, (_, _) :: _, ⟨first, rest⟩ => Int.le_trans first (ClockFrom.le rest)

theorem ClockFrom.of_le {Event : Type} {earlier start finish : Int} :
    ∀ {events : List (Int × Event)}, ClockFrom start events finish → earlier ≤ start →
      ClockFrom earlier events finish
  | [], ordered, early => Int.le_trans early ordered
  | (_, _) :: _, ⟨first, rest⟩, early => ⟨Int.le_trans early first, rest⟩

/-- What a lookup finds after an insert into a map: the inserted value under
its key, or what the map held before. -/
theorem lookup_insert_eq_some {α β : Type} [DecidableEq α] {map : AList fun _ : α => β}
    {key other : α} {value found : β} (present : (map.insert key value).lookup other = some found) :
    (other = key ∧ found = value) ∨ map.lookup other = some found := by
  by_cases same : other = key
  · subst same
    rw [AList.lookup_insert] at present
    exact .inl ⟨rfl, (Option.some.inj present).symm⟩
  · rw [AList.lookup_insert_ne same] at present
    exact .inr present

/-! ## Printing durations and instants -/

/-- The digits of `v % 10 ^ prec`, `prec` of them, most significant first. -/
def fractionDigits (v : Nat) : Nat → List Char
  | 0 => []
  | prec + 1 => fractionDigits (v / 10) prec ++ [Nat.digitChar (v % 10)]

/-- `fmtFrac`: the fraction `v % 10 ^ prec` behind a point, without its
trailing zeros and without the point when nothing is left, and `v / 10 ^ prec`. -/
def fmtFrac (v prec : Nat) : String × Nat :=
  let digits := ((fractionDigits v prec).reverse.dropWhile (· = '0')).reverse
  (if digits.isEmpty then "" else String.mk ('.' :: digits), v / 10 ^ prec)

/-- `appendInt` of Go's time package: the sign, then the digits padded with
zeros to `width`. -/
def padInt (x : Int) (width : Nat) : String :=
  let digits := (toString x.natAbs).data
  (if x < 0 then "-" else "") ++ String.mk (List.replicate (width - digits.length) '0' ++ digits)

/-- The year, month and day of a day counted from 1970-01-01 in the proleptic
Gregorian calendar, as Go's `absDate` finds them: by eras of 400 years from a
year that starts in March. -/
def civilFromDays (days : Int) : Int × Int × Int :=
  let z := days + 719468
  let era := z / 146097
  let dayOfEra := z - era * 146097
  let yearOfEra := (dayOfEra - dayOfEra / 1460 + dayOfEra / 36524 - dayOfEra / 146096) / 365
  let dayOfYear := dayOfEra - (365 * yearOfEra + yearOfEra / 4 - yearOfEra / 100)
  let shifted := (5 * dayOfYear + 2) / 153
  let dayOfMonth := dayOfYear - (153 * shifted + 2) / 5 + 1
  let month := if shifted < 10 then shifted + 3 else shifted - 9
  (yearOfEra + era * 400 + (if month ≤ 2 then 1 else 0), month, dayOfMonth)

/-- `time.Time.String` of an instant in UTC: the layout
`2006-01-02 15:04:05.999999999 -0700 MST`, whose fraction drops its trailing
zeros. -/
def timeString (unixNano : Int) : String :=
  let seconds := unixNano / second
  let (year, month, dayOfMonth) := civilFromDays (seconds / 86400)
  let clock := seconds % 86400
  padInt year 4 ++ "-" ++ padInt month 2 ++ "-" ++ padInt dayOfMonth 2 ++ " " ++
    padInt (clock / 3600) 2 ++ ":" ++ padInt (clock / 60 % 60) 2 ++ ":" ++ padInt (clock % 60) 2 ++
    (fmtFrac (unixNano % second).toNat 9).1 ++ " +0000 UTC"

example : timeString (1700000000 * second + 5) = "2023-11-14 22:13:20.000000005 +0000 UTC" := by
  decide

end LiveStreaming
