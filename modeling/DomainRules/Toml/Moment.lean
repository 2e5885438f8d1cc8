import DomainRules.Number.Digits
import DomainRules.Toml.Item

/-!
# Dates and times in TOML

Only their grammar and their ranges: nothing is done with the moment itself.
-/

namespace DomainRules.Toml.Moment

/-- Reads a number of exactly so many digits. -/
def number (size : Nat) : Reader Nat := fun cursor =>
  let ds := (cursor.rest.take size).takeWhile (Digits.isDigit 10)
  if ds.length < size then Fault.next cursor
  else .ok (Digits.natural 10 ds, cursor.advance size)

/-- Reads a number of two digits within bounds; one outside is refused with its
cause, finally or not as the caller decides. -/
def within (low high : Nat) : Reader Nat := fun cursor => do
  let (value, behind) ← number 2 cursor
  if low ≤ value && value ≤ high then .ok (value, behind)
  else .error ⟨cursor.here, false, none, [], some .outOfRange⟩

/-- The number of days of a month. -/
def days (year month : Nat) : Nat :=
  if month = 2 then
    if year % 4 = 0 && (year % 100 ≠ 0 || year % 400 = 0) then 29 else 28
  else if month = 4 || month = 6 || month = 9 || month = 11 then 30
  else 31

/-- Reads a date.  Nothing but a date begins with a year and a dash. -/
def date : Reader Unit := fun cursor => do
  let (year, behind) ← number 4 cursor
  let behind ← literal "-" behind
  settled (do
    let (month, behind) ← within 1 12 behind
    let behind ← literal "-" behind
    let (_, after) ← within 1 (days year month) behind
    .ok ((), after))

/-- Reads a time of day.  Nothing but a time begins with an hour and a colon. -/
def time : Reader Unit := fun cursor => do
  let (_, behind) ← within 0 23 cursor
  let behind ← literal ":" behind
  settled (do
    let (_, behind) ← within 0 59 behind
    let behind ← literal ":" behind
    let (_, behind) ← within 0 60 behind
    match behind.rest with
    | '.' :: rest =>
        let ds := rest.takeWhile (Digits.isDigit 10)
        .ok ((), if ds.isEmpty then behind else behind.advance (1 + ds.length))
    | _ => .ok ((), behind))

/-- Reads the distance of a local time from the universal one, if it comes next. -/
def offset? (cursor : Cursor) : Except Fault Cursor :=
  let read := naming "time offset" (settled (do
    let (_, behind) ← within 0 23 (cursor.advance 1)
    let behind ← literal ":" behind
    let (_, behind) ← within 0 59 behind
    .ok behind))
  match cursor.rest with
  | 'Z' :: _ => .ok (cursor.advance 1)
  | 'z' :: _ => .ok (cursor.advance 1)
  | '+' :: _ => read
  | '-' :: _ => read
  | _ => .ok cursor

/-- Reads a time behind a date, if one comes next. -/
def timeOfDate? (cursor : Cursor) : Except Fault Cursor :=
  match cursor.rest with
  | c :: _ =>
      if c = 'T' || c = 't' || c = ' ' then
        match time (cursor.advance 1) with
        | .ok ((), behind) => offset? behind
        | .error fault => if fault.isFinal then .error fault else .ok cursor
      else .ok cursor
  | [] => .ok cursor

/-- Reads a date, a time or both. -/
def moment : Reader Scalar := fun cursor =>
  match date cursor with
  | .ok ((), behind) =>
      naming "date-time" ((timeOfDate? behind).map fun behind => (.datetime, behind))
  | .error fault =>
      if fault.isFinal then naming "date-time" (.error fault)
      else naming "time" ((time cursor).map fun ((), behind) => (.datetime, behind))

end DomainRules.Toml.Moment
