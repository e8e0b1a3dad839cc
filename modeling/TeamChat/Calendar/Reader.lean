import TeamChat.Calendar.Instant
import TeamChat.Text.Blank

/-!
# Reading instants

The form of RFC 3339 is read with some freedom: blanks may stand before every number and separator, a
blank may stand for the `T`, numbers may have fewer digits, and a year may have a sign. The offset from
UTC is required.

## Contents
- `Fault`, `Fault.message`: why a text is no instant.
- `number`, `item`, `year`, `literal`, `fraction`, `utcOffset`: the parts.
- `Instant.ofText`: the whole form.
-/

namespace TeamChat.Calendar

/-- Why a text is no instant. -/
inductive Fault
  /-- A part beyond its limits. -/
  | outOfRange
  /-- An instant that only its offset moves beyond the representable years. -/
  | impossible
  /-- A character that does not fit. -/
  | invalid
  /-- A text that ends too early. -/
  | short
  /-- More text after the instant. -/
  | trailing
deriving DecidableEq, Repr

/-- A fault in words. -/
def Fault.message : Fault → String
  | .outOfRange => "input is out of range"
  | .impossible => "no possible date and time matching input"
  | .invalid => "input contains invalid characters"
  | .short => "premature end of input"
  | .trailing => "trailing input"

/-! ## Parts

Every reader gives what it read and the text that is left. -/

/-- A decimal digit. -/
def isDigit (c : Char) : Bool :=
  '0' ≤ c && c ≤ '9'

/-- A text without the blanks before it. -/
def skipBlanks (s : List Char) : List Char :=
  s.dropWhile Text.isBlank

/-- The digits a number is made of: as many as follow, up to a limit if there is one. -/
def digitsOf (limit : Option Nat) (s : List Char) : List Char :=
  let run := s.takeWhile isDigit
  match limit with
  | none => run
  | some n => run.take n

/-- A number of at least one digit, below the limit of 63 bits. -/
def number (limit : Option Nat) (s : List Char) : Except Fault (Nat × List Char) :=
  match digitsOf limit s with
  | [] => .error (if s.isEmpty then .short else .invalid)
  | ds =>
    let n := (Numeral.read? 10 ds).getD 0
    if (n : Int) ≤ Int64.maxValue.toInt then .ok (n, s.drop ds.length) else .error .outOfRange

/-- A number of one or two digits within limits. -/
def item (lo hi : Nat) (s : List Char) : Except Fault (Nat × List Char) := do
  let (n, s) ← number (some 2) (skipBlanks s)
  if lo ≤ n ∧ n ≤ hi then .ok (n, s) else .error .outOfRange

/-- A year: up to four digits, or any number after a sign. -/
def year (s : List Char) : Except Fault (Int × List Char) := do
  let (n, s) ← match skipBlanks s with
    | '-' :: r => (number none r).map fun x => (-(x.1 : Int), x.2)
    | '+' :: r => (number none r).map fun x => ((x.1 : Int), x.2)
    | r => (number (some 4) r).map fun x => ((x.1 : Int), x.2)
  if Int32.minValue.toInt ≤ n ∧ n ≤ Int32.maxValue.toInt then .ok (n, s) else .error .outOfRange

/-- A separator, after any blanks. -/
def literal (c : Char) (s : List Char) : Except Fault (List Char) :=
  match skipBlanks s with
  | [] => .error .short
  | d :: r => if d = c then .ok r else .error .invalid

/-- What stands between date and time. -/
def dateEnd : List Char → Except Fault (List Char)
  | [] => .error .short
  | c :: r => if c = 'T' ∨ c = 't' ∨ c = ' ' then .ok r else .error .invalid

/-- A fraction in nanoseconds; digits beyond the ninth do not count. -/
def fraction : List Char → Except Fault (Nat × List Char)
  | '.' :: r => do
    let (n, rest) ← number (some 9) r
    .ok (n * Numeral.powerOfTen (9 - (r.length - rest.length)), rest.dropWhile isDigit)
  | s => .ok (0, s)

/-- The next two characters. A single character of more than one byte is refused as a character, a
single one of one byte as the end of the text. -/
def pair : List Char → Except Fault (Char × Char × List Char)
  | a :: b :: r => .ok (a, b, r)
  | [a] => .error (if a.toNat < 0x80 then .short else .invalid)
  | [] => .error .short

/-- Two digits. -/
def twoDigits (s : List Char) : Except Fault (Nat × List Char) := do
  let (a, b, r) ← pair s
  if isDigit a && isDigit b then .ok ((a.toNat - 48) * 10 + (b.toNat - 48), r) else .error .invalid

/-- A distance from UTC in seconds, after its sign. -/
def distance (s : List Char) : Except Fault (Nat × List Char) := do
  let (hours, s) ← twoDigits s
  let (minutes, s) ← twoDigits (s.dropWhile fun c => c = ':' || Text.isBlank c)
  if minutes < 60 then .ok (hours * 3600 + minutes * 60, s) else .error .outOfRange

/-- An offset from UTC in seconds: `Z`, `UTC`, or hours and minutes after a sign. -/
def utcOffset (s : List Char) : Except Fault (Int × List Char) :=
  match s with
  | [] => .error .short
  | u :: t :: c :: r =>
    if (u = 'U' ∨ u = 'u') ∧ (t = 'T' ∨ t = 't') ∧ (c = 'C' ∨ c = 'c') then .ok (0, r)
    else signed s
  | s => signed s
where
  signed : List Char → Except Fault (Int × List Char)
    | [] => .error .short
    | c :: r =>
      if c = 'Z' ∨ c = 'z' then .ok (0, r)
      else if c = '+' then (distance r).map fun x => ((x.1 : Int), x.2)
      else if c = '-' ∨ c = '\u2212' then (distance r).map fun x => (-(x.1 : Int), x.2)
      else .error .invalid

/-! ## The whole form -/

/-- The parts of an instant as they were read. The second of a leap second is 60. -/
structure Parts where
  date : Date
  hour : Nat
  minute : Nat
  second : Nat
  nanos : Nat
  offset : Int
deriving DecidableEq, Repr

/-- The parts of a whole text. -/
def Parts.ofText (s : List Char) : Except Fault Parts := do
  let (y, s) ← year s
  let (m, s) ← item 1 12 (← literal '-' s)
  let (d, s) ← item 1 31 (← literal '-' s)
  let (hour, s) ← item 0 23 (← dateEnd s)
  let (minute, s) ← item 0 59 (← literal ':' s)
  let (second, s) ← item 0 60 (← literal ':' s)
  let (nanos, s) ← fraction s
  let (off, s) ← utcOffset (skipBlanks s)
  if (skipBlanks s).isEmpty then .ok ⟨⟨y, m, d⟩, hour, minute, second, nanos, off⟩
  else .error .trailing

/-- The instant that the parts name. -/
def Parts.instant (p : Parts) : Except Fault Instant :=
  if !p.date.isValid || p.date.year < -262143 || 262142 < p.date.year then .error .outOfRange
  else if 86400 ≤ p.offset.natAbs then .error .outOfRange
  else
    -- a leap second is the second before it, one second longer
    let second := if p.second = 60 then 59 else p.second
    let nanos := if p.second = 60 then 1000000000 + p.nanos else p.nanos
    let seconds := p.date.toDay * 86400 + (p.hour * 3600 + p.minute * 60 + second : Nat) - p.offset
    if Instant.isRepresentable seconds then .ok ⟨seconds, nanos⟩ else .error .impossible

/-- An instant as it was written. -/
def Instant.ofText (s : String) : Except Fault Instant := do
  (← Parts.ofText s.toList).instant

end TeamChat.Calendar
