import TeamChat.Body.Entity
import TeamChat.Emoji
import TeamChat.Text.Word

/-!
# The body of a message

A body is written with emoji codes, mentions of users and character references. A mention is `<@U1>` or
`<@U1|hint>`; the hint is passed over. Codes are replaced first, then mentions, then references.

## Contents
- `Body.mention?`: the mention at the start of a text.
- `Body.Piece`, `Body.pieces`: a text cut at its mentions.
- `Body.users`, `Body.fill`: who is mentioned, and the text with their names.
- `Body.format`: all three stages, given the users' names.
-/

namespace TeamChat.Body

/-! ## Mentions -/

/-- The text behind the end of a mention: behind the next closing bracket, which follows at once or behind
a hint. -/
def mentionEnd? : List Char → Option (List Char)
  | '>' :: rest => some rest
  | '|' :: hint =>
    match hint.dropWhile (· ≠ '>') with
    | _ :: rest => some rest
    | [] => none
  | _ => none

/-- The user of the mention that a text begins with, and the text behind it. -/
def mention? : List Char → Option (List Char × List Char)
  | '<' :: '@' :: s =>
    let user := s.takeWhile Text.isWordChar
    if user.isEmpty then none
    else (mentionEnd? (s.dropWhile Text.isWordChar)).map (user, ·)
  | _ => none

theorem length_lt_of_mentionEnd? {s rest : List Char} (h : mentionEnd? s = some rest) :
    rest.length < s.length := by
  unfold mentionEnd? at h
  split at h
  · cases h
    simp
  · rename_i hint
    have hle := Emoji.length_dropWhile_le (· ≠ '>') hint
    split at h
    · rename_i hd
      cases h
      rw [hd] at hle
      simp only [List.length_cons] at hle ⊢
      omega
    · cases h
  · cases h

theorem length_lt_of_mention? {s user rest : List Char} (h : mention? s = some (user, rest)) :
    rest.length < s.length := by
  unfold mention? at h
  split at h
  · rename_i t
    simp only at h
    split at h
    · cases h
    · obtain ⟨r, hr, hp⟩ := Option.map_eq_some_iff.mp h
      cases hp
      have h1 := length_lt_of_mentionEnd? hr
      have h2 := Emoji.length_dropWhile_le Text.isWordChar t
      simp only [List.length_cons]
      omega
  · cases h

/-! ## Pieces -/

/-- A part of a text: a character, or a mention of a user. -/
inductive Piece
  | char (c : Char)
  | mention (user : String)
deriving DecidableEq, Repr

/-- A text cut at its mentions, which are looked for from left to right. -/
def pieces : List Char → List Piece
  | [] => []
  | c :: s =>
    match h : mention? (c :: s) with
    | some (user, rest) =>
      have := length_lt_of_mention? h
      .mention (String.ofList user) :: pieces rest
    | none => .char c :: pieces s
termination_by s => s.length
decreasing_by
  all_goals simp_wf
  all_goals simp only [List.length_cons] at *
  all_goals omega

/-- The user that a piece mentions. -/
def Piece.user? : Piece → Option String
  | .char _ => none
  | .mention user => some user

/-- The users that a text mentions, each once, in the order of their first mentions. -/
def users (s : List Char) : List String :=
  ((pieces s).filterMap Piece.user?).eraseDups

/-- What is shown for a piece, given the users' names. -/
def Piece.fill (name : String → String) : Piece → List Char
  | .char c => [c]
  | .mention user => '@' :: (name user).toList

/-- A text with the names of the users that it mentions. -/
def fill (name : String → String) (s : List Char) : List Char :=
  (pieces s).flatMap (Piece.fill name)

/-! ## All stages -/

/-- A body after the stage of emoji codes, which may be left out. -/
def withEmoji (emoji : Bool) (text : String) : List Char :=
  if emoji then Emoji.replaceList text.toList else text.toList

/-- A body as it is shown. -/
def format (emoji : Bool) (name : String → String) (text : String) : String :=
  String.ofList (unescapeList (fill name (withEmoji emoji text)))

end TeamChat.Body
