import AirBnbClone.DartDateTime

/-!
# `DateTime.tryParse`

The accepted texts are a year of four to six digits with an optional sign, month and day of two
digits, then optionally a time of day and a zone; separators may be left out. A text with a zone is
read in UTC, one without in the device's zone. Fields out of range carry over, as in the
constructor, and a result outside the supported range is refused.
-/

namespace AirBnbClone.DateTime

/-- Read exactly `n` decimal digits in front of the accumulated number. -/
def readDigits : ℕ → ℤ → List Char → Option (ℤ × List Char)
  | 0, acc, cs => some (acc, cs)
  | n + 1, acc, c :: cs =>
      if c.isDigit then readDigits n (10 * acc + (c.toNat - '0'.toNat : ℤ)) cs else none
  | _ + 1, _, [] => none

def skipOne (p : Char → Bool) : List Char → List Char
  | c :: cs => if p c then cs else c :: cs
  | [] => []

def readSign : List Char → ℤ × List Char
  | '-' :: cs => (-1, cs)
  | '+' :: cs => (1, cs)
  | cs => (1, cs)

/-- The first six digits of a fraction of a second, as microseconds. -/
def fractionMicroseconds (ds : List Char) : ℤ :=
  ((List.range 6).map (fun i => ds.getD i '0')).foldl
    (fun acc c => 10 * acc + (c.toNat - '0'.toNat : ℤ)) 0

/-- Hours, minutes, seconds and microseconds; each later part may be missing. -/
def readTime (cs : List Char) : Option (ℤ × List Char) := do
  let (hour, cs) ← readDigits 2 0 cs
  match readDigits 2 0 (skipOne (· == ':') cs) with
  | none => some (3600 * hour * 1000000, cs)
  | some (minute, cs) =>
      match readDigits 2 0 (skipOne (· == ':') cs) with
      | none => some ((3600 * hour + 60 * minute) * 1000000, cs)
      | some (second, cs) =>
          let whole := (3600 * hour + 60 * minute + second) * 1000000
          match cs with
          | c :: rest =>
              let ds := rest.takeWhile Char.isDigit
              if (c = '.' ∨ c = ',') ∧ ds ≠ [] then
                some (whole + fractionMicroseconds ds, rest.dropWhile Char.isDigit)
              else some (whole, cs)
          | [] => some (whole, [])

/-- The zone suffix: nothing, or the correction in microseconds that leads to UTC. -/
def readZone (cs : List Char) : Option (Option ℤ) :=
  match cs with
  | [] => some none
  | _ =>
      match skipOne (· == ' ') cs with
      | ['z'] => some (some 0)
      | ['Z'] => some (some 0)
      | c :: rest =>
          if c = '-' ∨ c = '+' then do
            let (sign, _) := readSign [c]
            let (hours, rest) ← readDigits 2 0 rest
            match rest with
            | [] => some (some (-sign * 3600 * hours * 1000000))
            | _ =>
                let (minutes, rest) ← readDigits 2 0 (skipOne (· == ':') rest)
                if rest = [] then some (some (-sign * (3600 * hours + 60 * minutes) * 1000000))
                else none
          else none
      | [] => none

/-- The rest of the text once the year has been read with `n` digits. -/
def readFrom (z : Zone) (n : ℕ) (sign : ℤ) (cs : List Char) : Option DateTime := do
  let (year, cs) ← readDigits n 0 cs
  let (month, cs) ← readDigits 2 0 (skipOne (· == '-') cs)
  let (day, cs) ← readDigits 2 0 (skipOne (· == '-') cs)
  let date := Gregorian.dayNumber (sign * year) month day * microsecondsPerDay
  let (wall, correction) ← match cs with
    | [] => some (date, none)
    | c :: rest =>
        if c = ' ' ∨ c = 'T' then do
          let (time, rest) ← readTime rest
          let correction ← readZone rest
          some (date + time, correction)
        else none
  let t : DateTime := match correction with
    | some shift => ⟨wall + shift, true⟩
    | none => ⟨z.instantOf wall, false⟩
  if |t.microsecondsSinceEpoch| ≤ maxMillisecondsSinceEpoch * 1000 then some t else none

/-- The year takes as many of its four to six digits as let the rest match. -/
def tryParse (z : Zone) (text : String) : Option DateTime :=
  let (sign, cs) := readSign text.toList
  (readFrom z 6 sign cs).or ((readFrom z 5 sign cs).or (readFrom z 4 sign cs))

example : tryParse Zone.utc "2024-01-01T10:30:00Z" = some ⟨1704105000000000, true⟩ := by decide

example : tryParse Zone.utc "soon" = none := by decide

end AirBnbClone.DateTime
