import RoleGraph.Text.Basic

/-!
# Points in time

Dates, optionally with a time of day, a fraction of a second and an offset from universal time.
A date alone and a time without an offset are in universal time. Fractions are kept to nine
digits.
-/

namespace RoleGraph.Yaml

/-- A date and time of day with its offset in minutes; `numbered` says that the offset is written in
digits. -/
structure Timestamp where
  year : Nat
  month : Nat
  day : Nat
  hour : Nat := 0
  minute : Nat := 0
  second : Nat := 0
  nanosecond : Nat := 0
  offset : Int := 0
  numbered : Bool := false
  deriving DecidableEq, Repr

namespace Timestamp

/-- A digit. -/
def digit? (b : UInt8) : Option Nat := if 48 ≤ b && b ≤ 57 then some (b.toNat - 48) else none

/-- A number of one or two digits. -/
def oneOrTwo : Text → Option (Nat × Text)
  | a :: b :: rest =>
    (digit? a).map fun x =>
      match digit? b with
      | some y => (x * 10 + y, rest)
      | none => (x, b :: rest)
  | [a] => (digit? a).map (·, [])
  | [] => none

/-- A number of exactly two digits. -/
def two : Text → Option (Nat × Text)
  | a :: b :: rest => do
    let x ← digit? a
    let y ← digit? b
    some (x * 10 + y, rest)
  | _ => none

/-- A given byte. -/
def expect (b : UInt8) : Text → Option Text
  | c :: rest => if c = b then some rest else none
  | [] => none

/-- Whether a year has a leap day. -/
def isLeap (y : Nat) : Bool := y % 4 == 0 && (y % 100 != 0 || y % 400 == 0)

/-- The number of days of a month. -/
def daysIn (year month : Nat) : Nat :=
  match month with
  | 2 => if isLeap year then 29 else 28
  | 4 | 6 | 9 | 11 => 30
  | _ => 31

/-- A date: four digits, month and day of one or two digits. -/
def date? : Text → Option (Timestamp × Text)
  | a :: b :: c :: d :: rest => do
    let y ← [a, b, c, d].foldlM (fun n x => (digit? x).map (n * 10 + ·)) 0
    let rest ← expect 0x2D rest
    let (m, rest) ← oneOrTwo rest
    if m < 1 || 12 < m then none
    let rest ← expect 0x2D rest
    let (dd, rest) ← oneOrTwo rest
    if dd < 1 || daysIn y m < dd then none
    some ({ year := y, month := m, day := dd }, rest)
  | _ => none

/-- A fraction of a second after a point or a comma, in nanoseconds; none counts as zero. -/
def fraction : Text → Nat × Text
  | c :: d :: rest =>
    if (c == 0x2E || c == 0x2C) && (digit? d).isSome then
      let ds := (d :: rest).takeWhile fun b => (digit? b).isSome
      let kept := ds.take 9
      let n := kept.foldl (fun acc b => acc * 10 + (b.toNat - 48)) 0
      (n * Nat.pow 10 (9 - kept.length), (d :: rest).drop ds.length)
    else (0, c :: d :: rest)
  | t => (0, t)

/-- A time of day with its fraction. -/
def clock? (t : Timestamp) (s : Text) : Option (Timestamp × Text) := do
  let (h, s) ← oneOrTwo s
  let s ← expect 0x3A s
  let (m, s) ← oneOrTwo s
  let s ← expect 0x3A s
  let (sec, s) ← oneOrTwo s
  if 24 ≤ h || 60 ≤ m || 60 ≤ sec then none
  let (n, s) := fraction s
  some ({ t with hour := h, minute := m, second := sec, nanosecond := n }, s)

/-- An offset: `Z`, or a sign with two-digit hours and minutes. The flag says which. -/
def offset? : Text → Option (Int × Bool)
  | [0x5A] => some (0, false)
  | sign :: rest => do
    let (h, rest) ← two rest
    let rest ← expect 0x3A rest
    let (m, rest) ← two rest
    if 24 < h || 60 < m || !rest.isEmpty then none
    let minutes : Int := (h * 60 + m : Nat)
    if sign = 0x2B then some (minutes, true)
    else if sign = 0x2D then some (-minutes, true)
    else none
  | [] => none

/-- Read a point in time. -/
def parse? (s : Text) : Option Timestamp := do
  let (t, rest) ← date? s
  match rest with
  | [] => some t
  | c :: more =>
    if c == 0x54 || c == 0x74 then
      let (t, rest) ← clock? t more
      let (offset, numbered) ← offset? rest
      some { t with offset := offset, numbered := numbered }
    else if c == 0x20 then
      let (t, rest) ← clock? t (more.dropWhile (· == 0x20))
      if rest.isEmpty then some t else none
    else none

/-- A number with at least the given number of digits. -/
def padded (width n : Nat) : Text :=
  let ds := Text.ofNat n
  List.replicate (width - ds.length) (Text.byte '0') ++ ds

/-- The date with hyphens. -/
def dateText (t : Timestamp) : Text :=
  padded 4 t.year ++ "-" ++ padded 2 t.month ++ "-" ++ padded 2 t.day

/-- The time of day, with the shortest fraction. -/
def clockText (t : Timestamp) : Text :=
  let whole := padded 2 t.hour ++ ":" ++ padded 2 t.minute ++ ":" ++ padded 2 t.second
  if t.nanosecond = 0 then whole
  else whole ++ "." ++ Text.dropRightWhile (· == 0x30) (padded 9 t.nanosecond)

/-- The offset as a sign and four digits around a separator. -/
def offsetText (sep : Text) (t : Timestamp) : Text :=
  let n := t.offset.natAbs
  (if t.offset < 0 then Text.ofString "-" else "+") ++ padded 2 (n / 60) ++ sep ++ padded 2 (n % 60)

/-- The compact form with `T` and the offset, `Z` in universal time. -/
def compact (t : Timestamp) : Text :=
  t.dateText ++ "T" ++ t.clockText ++ (if t.offset = 0 then Text.ofString "Z" else t.offsetText ":")

/-- The spaced form with the offset and the name of the zone, which is the offset again when the
zone has no name. -/
def spaced (t : Timestamp) : Text :=
  t.dateText ++ " " ++ t.clockText ++ " " ++ t.offsetText [] ++ " " ++
    (if t.offset = 0 then Text.ofString "UTC" else t.offsetText [])

/-- The number of days from the first of March of the year zero to a date. -/
def dayNumber (year month day : Int) : Int :=
  let y := if month ≤ 2 then year - 1 else year
  let m := if month ≤ 2 then month + 9 else month - 3
  365 * y + y / 4 - y / 100 + y / 400 + (153 * m + 2) / 5 + day - 1

/-- The seconds of a time in universal time, counted from a fixed day. -/
def seconds (t : Timestamp) : Int :=
  dayNumber t.year t.month t.day * 86400 + t.hour * 3600 + t.minute * 60 + t.second - t.offset * 60

/-- The place of a zone among the zones that several times can share: universal time, the offset zero
in digits, and the whole hours from twelve behind to fourteen ahead. Any other offset is a zone of
its own for every time that has it. -/
def sharedZone? (t : Timestamp) : Option Int :=
  if !t.numbered then some (-100)
  else if t.offset = 0 then some (-99)
  else if t.offset % 60 = 0 && -720 ≤ t.offset && t.offset ≤ 840 then some (t.offset / 60)
  else none

/-- Whether two times are the same moment in the same zone. -/
def same (a b : Timestamp) : Bool :=
  a.nanosecond == b.nanosecond && a.seconds == b.seconds && a.sharedZone?.isSome &&
    a.sharedZone? == b.sharedZone?

/-- Whether a time is listed before another: by the fraction of the second, then by the second, then
by the zone. -/
def listedBefore (a b : Timestamp) : Bool :=
  if a.nanosecond ≠ b.nanosecond then a.nanosecond < b.nanosecond
  else if a.seconds ≠ b.seconds then a.seconds < b.seconds
  else match a.sharedZone?, b.sharedZone? with
    | some x, some y => x < y
    | some _, none => true
    | none, _ => false

end Timestamp

end RoleGraph.Yaml
