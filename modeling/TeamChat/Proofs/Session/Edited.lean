import TeamChat.Proofs.Body.Hygiene
import TeamChat.Proofs.Emoji.Codes
import TeamChat.Proofs.Session.Messages

/-!
# `Session.ofEvent`: edited posts

The text of an edited post gets a suffix before it is formatted. Whatever the text ends in, the beginning of a code,
of a mention or of a reference, the suffix neither ends it nor becomes a part of it. So it is shown behind what is
shown for the text, the same users are looked up, and the message is the one of the post itself but for the suffix.

## Contents
- `Body.Inert`, `Body.format_append`: texts that may be put behind any other.
- `Session.value_format_append`, `after_format_append`: a body with such a text behind it.
- `Session.buildMessage_append`: a message with such a text behind its body.
- `Session.edited_shown`: edited posts.
-/

namespace TeamChat

namespace Body

/-- A text that may be put behind any other: its first character stops codes and references, and no character of it
    begins one or ends a mention. -/
structure Inert (tail : List Char) : Prop where
  stops : ∃ x r, tail = x :: r ∧ Body.stops x = true ∧ Emoji.stops x = true
  noColon : ':' ∉ tail
  noBracket : '>' ∉ tail
  noAmpersand : '&' ∉ tail

section Inert

variable {text tail : String} (h : Inert tail.toList)

include h

theorem withEmoji_append (emoji : Bool) : withEmoji emoji (text ++ tail) = withEmoji emoji text ++ tail.toList := by
  obtain ⟨x, r, htail, _, hx⟩ := h.stops
  have hr : ':' ∉ r := by
    intro hm
    exact h.noColon (by simp [htail, hm])
  unfold withEmoji
  rw [String.toList_append]
  cases emoji with
  | false => rfl
  | true =>
      show Emoji.replaceList (text.toList ++ tail.toList) = Emoji.replaceList text.toList ++ tail.toList
      rw [htail, Emoji.replaceList_append_stop hx, Emoji.replaceList_plain hr]

theorem unescapeList_append_inert (s : List Char) : unescapeList (s ++ tail.toList) = unescapeList s ++ tail.toList := by
  obtain ⟨x, r, htail, hx, _⟩ := h.stops
  have hr : '&' ∉ r := by
    intro hm
    exact h.noAmpersand (by simp [htail, hm])
  have copied := unescapeList_append_plain (t := []) hr
  rw [List.append_nil, unescapeList, List.append_nil] at copied
  rw [htail, unescapeList_append_stop hx, copied]

/-- **What is put behind a text is shown behind it**, whatever the names are. -/
theorem format_append (emoji : Bool) (name : String → String) :
    format emoji name (text ++ tail) = format emoji name text ++ tail := by
  rw [format, withEmoji_append h, fill_append h.noBracket, unescapeList_append_inert h, String.ofList_append,
    String.ofList_toList]
  rfl

end Inert

end Body

namespace Session

open Body (Inert)

section Append

variable {tail : String} (h : Inert tail.toList) (emoji : Bool) (r : Remote) (w : World)

include h

/-! ## Bodies -/

/-- The same users are mentioned. -/
theorem users_withEmoji_append (text : String) :
    Body.users (Body.withEmoji emoji (text ++ tail)) = Body.users (Body.withEmoji emoji text) := by
  rw [Body.withEmoji_append h, Body.users_append h.noBracket]

theorem value_format_append (text : String) :
    value (format emoji (text ++ tail)) r w = value (format emoji text) r w ++ tail := by
  rw [value_format, value_format, users_withEmoji_append h, Body.format_append h]

theorem after_format_append (text : String) :
    after (format emoji (text ++ tail)) r w = after (format emoji text) r w := by
  rw [after_format, after_format, users_withEmoji_append h]

/-! ## Messages -/

variable (p : Wire.Post)

/-- Only the body of a message reads the text of its post. -/
theorem value_leaf_append :
    value (leaf emoji { p with text := p.text ++ tail }) r w =
      { value (leaf emoji p) r w with content := (value (leaf emoji p) r w).content ++ tail } := by
  unfold leaf
  simp only [value_bind, value_pure, value_format_append h]
  rfl

theorem after_leaf_append :
    after (leaf emoji { p with text := p.text ++ tail }) r w = after (leaf emoji p) r w := by
  unfold leaf
  simp only [after_bind, after_pure, after_format_append h]
  rfl

/-- **A message with a text behind its body** is the message without it, but for that text, and the world behind it
    is the same. -/
theorem buildMessage_append (channel : String) :
    value (buildMessage emoji channel { p with text := p.text ++ tail }) r w =
        { value (buildMessage emoji channel p) r w with
          content := (value (buildMessage emoji channel p) r w).content ++ tail } ∧
      after (buildMessage emoji channel { p with text := p.text ++ tail }) r w =
        after (buildMessage emoji channel p) r w := by
  have same : Wire.Post.startsThread { p with text := p.text ++ tail } = p.startsThread := rfl
  unfold buildMessage
  simp only [value_bind, after_bind, value_leaf_append h, after_leaf_append h, same]
  -- the alias and the replies are found out behind the same world
  by_cases hp : p.startsThread = true
  · rw [if_pos hp, if_pos hp]
    exact ⟨rfl, rfl⟩
  · rw [if_neg hp, if_neg hp]
    exact ⟨rfl, rfl⟩

end Append

/-! ## Edited posts -/

theorem inert_editedSuffix : Inert editedSuffix.toList where
  stops := ⟨' ', "(edited)".toList, by decide, by decide, by decide⟩
  noColon := by decide
  noBracket := by decide
  noAmpersand := by decide

/-- An edited post is built like any other, with the suffix behind its text. -/
theorem ofEvent_of_changed {e : Wire.MessageEvent} {p : Wire.Post} (hkind : e.post.subtype = "message_changed")
    (hp : e.replacement = some p) (emoji : Bool) (channel : String) (r : Remote) (w : World) :
    value (ofEvent emoji channel e) r w =
        .ok (value (buildMessage emoji channel { p with text := p.text ++ editedSuffix }) r w) ∧
      after (ofEvent emoji channel e) r w =
        after (buildMessage emoji channel { p with text := p.text ++ editedSuffix }) r w := by
  unfold ofEvent
  simp only [hkind, hp]
  exact ⟨rfl, rfl⟩

/-- **What is shown for an edited post.** A text with the suffix is shown as the text is, with the suffix behind it,
    and the same users are looked up. So the message of an edited post is the one that is built for the post that
    takes its place, in the same world and with the same world behind it, with the suffix behind its body and
    nothing else changed. -/
theorem edited_shown (emoji : Bool) (r : Remote) (w : World) :
    (∀ text, value (format emoji (text ++ " (edited)")) r w = value (format emoji text) r w ++ " (edited)" ∧
      Body.users (Body.withEmoji emoji (text ++ " (edited)")) = Body.users (Body.withEmoji emoji text) ∧
      after (format emoji (text ++ " (edited)")) r w = after (format emoji text) r w) ∧
    ∀ (channel : String) (e : Wire.MessageEvent) (p : Wire.Post),
      e.post.subtype = "message_changed" → e.replacement = some p →
      let m := value (buildMessage emoji channel p) r w
      value (ofEvent emoji channel e) r w = .ok { m with content := m.content ++ " (edited)" } ∧
        after (ofEvent emoji channel e) r w = after (buildMessage emoji channel p) r w := by
  have h := inert_editedSuffix
  refine ⟨fun text => ⟨value_format_append h emoji r w text, users_withEmoji_append h emoji text,
    after_format_append h emoji r w text⟩, ?_⟩
  intro channel e p hkind hp m
  obtain ⟨hvalue, hafter⟩ := ofEvent_of_changed hkind hp emoji channel r w
  obtain ⟨hmessage, hworld⟩ := buildMessage_append h emoji r w p channel
  rw [hvalue, hafter]
  exact ⟨congrArg Except.ok hmessage, hworld⟩

/-- A reference, a mention and a code that are not finished stay so. -/
theorem edited_unfinished :
    let p : Wire.Post := { stamp := "1", text := "<@U1> &amp <@U2|hint :smile" }
    let e : Wire.MessageEvent := { post := { subtype := "message_changed" }, replacement := some p }
    e.post.subtype = "message_changed" ∧ e.replacement = some p ∧
      value (format true (p.text ++ " (edited)")) silent outset = "@unknown (U1) &amp <@U2|hint :smile (edited)" ∧
      value (ofEvent true "C1" e) silent outset =
        .ok { value (buildMessage true "C1" p) silent outset with
          content := "@unknown (U1) &amp <@U2|hint :smile (edited)" } := by
  intro p e
  obtain ⟨hformat, hevent⟩ := edited_shown true silent outset
  have shown : value (format true p.text) silent outset = "@unknown (U1) &amp <@U2|hint :smile" := by decide +kernel
  have body : (value (buildMessage true "C1" p) silent outset).content = value (format true p.text) silent outset := rfl
  refine ⟨rfl, rfl, ?_, ?_⟩
  · rw [(hformat p.text).1, shown]
    rfl
  · rw [(hevent "C1" e p rfl rfl).1, body, shown]
    rfl

end Session

end TeamChat
