import TeamChat.Limiter
import TeamChat.Text.Blank
import TeamChat.Text.Quoted

/-!
# Settings

The settings of a session come from named variables. Only the token is required; a number that is none, or
zero, counts as not given.

## Contents
- `Settings`, `Settings.names`, `Settings.ofLookup`: the settings and the variables that give them.
- `Settings.rate`: the rate of calls that they ask for.
- `Settings.text`: the settings in words, without what is secret.
-/

namespace TeamChat

/-- The settings of a session. -/
structure Settings where
  token : String := ""
  /-- A session cookie, which goes with tokens of browsers. -/
  cookie : Option String := none
  apiUrl : Option String := none
  /-- List only the conversations that the user belongs to. -/
  enterprise : Bool := false
  /-- Show emoji codes as emoji. -/
  emoji : Bool := true
  historyCount : Nat := 100
  historyDays : Nat := 3
  rateTokens : Nat := 20
  /-- The milliseconds in which a token comes back. -/
  rateInterval : Nat := 1000
deriving DecidableEq, Repr

namespace Settings

/-- Why there are no settings. -/
inductive Fault
  | tokenMissing
deriving DecidableEq, Repr

/-- A fault in words. -/
def Fault.message : Fault → String
  | .tokenMissing => "SLACK_TOKEN is not set"

/-! ## Reading -/

/-- Every text but two means yes. -/
def flag (value : String) : Bool :=
  value != "false" && value != "0"

/-- A positive number of 32 bits. -/
def positive? (value : String) : Option Nat :=
  (Numeral.readUnsigned? 10 UInt32.size value.toList).filter (0 < ·)

/-- A text that is not empty. -/
def nonEmpty? (value : Option String) : Option String :=
  value.filter fun s => !s.isEmpty

/-- The variables that are looked at. -/
def names : List String :=
  ["SLACK_TOKEN", "SLACK_COOKIE", "SLACK_API_URL", "SLACK_ENTERPRISE", "SLACK_EMOJI",
    "SLACK_HISTORY_COUNT", "SLACK_HISTORY_DAYS", "SLACK_RATE_TOKENS", "SLACK_RATE_INTERVAL_MS"]

/-- The settings that variables give. -/
def ofLookup (get : String → Option String) : Except Fault Settings :=
  let d : Settings := {}
  let number (name : String) (default : Nat) : Nat := ((get name).bind positive?).getD default
  match (get "SLACK_TOKEN").filter fun t => !(Text.trim t.toList).isEmpty with
  | none => .error .tokenMissing
  | some token => .ok {
      token := token
      cookie := nonEmpty? (get "SLACK_COOKIE")
      apiUrl := nonEmpty? (get "SLACK_API_URL")
      enterprise := ((get "SLACK_ENTERPRISE").map flag).getD d.enterprise
      emoji := ((get "SLACK_EMOJI").map flag).getD d.emoji
      historyCount := number "SLACK_HISTORY_COUNT" d.historyCount
      historyDays := number "SLACK_HISTORY_DAYS" d.historyDays
      rateTokens := number "SLACK_RATE_TOKENS" d.rateTokens
      rateInterval := number "SLACK_RATE_INTERVAL_MS" d.rateInterval }

/-- The rate of calls, by a timer. -/
def rate (timer : Limiter.Timer) (s : Settings) : Limiter.Rate :=
  .make timer s.rateTokens (s.rateInterval * Limiter.millisecond)

/-! ## Writing -/

/-- A time in milliseconds: below a second in milliseconds, else in seconds, with as many places as it
needs. -/
def durationText (ms : Nat) : String :=
  if ms < 1000 then String.ofList (Numeral.decimal ms) ++ "ms"
  else
    let places := (Numeral.padded 3 (ms % 1000)).reverse.dropWhile (· == '0')
    let fraction := if places.isEmpty then [] else '.' :: places.reverse
    String.ofList (Numeral.decimal (ms / 1000) ++ fraction) ++ "s"

/-- What stands in place of a secret. -/
def redacted : String := Text.quote "<redacted>"

/-- A text that may be missing. -/
def optionText : Option String → String
  | none => "None"
  | some s => "Some(" ++ s ++ ")"

/-- A truth value in words. -/
def flagText (b : Bool) : String :=
  if b then "true" else "false"

/-- The settings in words. Token and cookie are secret. -/
def text (s : Settings) : String :=
  let number (n : Nat) := String.ofList (Numeral.decimal n)
  let fields := [
    ("token", redacted),
    ("cookie", optionText (s.cookie.map fun _ => redacted)),
    ("api_url", optionText (s.apiUrl.map Text.quote)),
    ("enterprise", flagText s.enterprise),
    ("emoji", flagText s.emoji),
    ("history_count", number s.historyCount),
    ("history_days", number s.historyDays),
    ("rate_tokens", number s.rateTokens),
    ("rate_interval", durationText s.rateInterval)]
  "ClientConfig \x7b " ++ ", ".intercalate (fields.map fun f => f.1 ++ ": " ++ f.2) ++ " \x7d"

end Settings

end TeamChat
