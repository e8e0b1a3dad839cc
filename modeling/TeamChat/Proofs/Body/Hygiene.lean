import TeamChat.Proofs.Body.Mention
import TeamChat.Proofs.Body.Reference
import TeamChat.Proofs.Session.Names

/-!
# `Session.format`: the stages of a body do not interfere

References are decoded last, in a text that holds names by then. Each name stands behind an at sign, which no
reference reaches over. So a name without ampersands is shown as it is, and each part between mentions is
decoded by itself; what a reference stands for is not taken for a mention, since mentions are looked for
before.

## Contents
- `Body.unescapeList_parts`: the parts of a text and the names between them are decoded by themselves.
- `Session.format_hygienic`: what is shown for a body, and who is looked up for it.
-/

namespace TeamChat

namespace Body

/-- No reference reaches over an at sign. -/
theorem stops_at : stops '@' = true := by decide

/-- The parts of a text and the names between them are decoded by themselves, if no name holds an
    ampersand. -/
theorem unescapeList_parts {name : String → String} (first : List Char) {parts : List (String × List Char)}
    (hplain : ∀ p ∈ parts, '&' ∉ (name p.1).toList) :
    unescapeList (first ++ parts.flatMap fun p => '@' :: ((name p.1).toList ++ p.2)) =
      unescapeList first ++ parts.flatMap fun p => '@' :: ((name p.1).toList ++ unescapeList p.2) := by
  -- cut before each at sign: the part before it is done, the name is copied, the rest is like the whole
  induction parts generalizing first with
  | nil => rw [List.flatMap_nil, List.flatMap_nil, List.append_nil, List.append_nil]
  | cons p rest ih =>
      have hp : '&' ∉ (name p.1).toList := hplain p List.mem_cons_self
      have hrest := ih p.2 fun q hq => hplain q (List.mem_cons_of_mem p hq)
      rw [List.flatMap_cons, List.flatMap_cons, List.cons_append, List.append_assoc,
        unescapeList_append_stop stops_at, unescapeList_append_plain hp, hrest, List.cons_append,
        List.append_assoc]

end Body

namespace Session

open Body (Cut)

section Format

variable (emoji : Bool) (text : String) (r : Remote) (w : World)

/-- What is shown for a body, given the names of its users. -/
theorem value_format : value (format emoji text) r w =
    Body.format emoji (nameIn (value (namesOf (Body.users (Body.withEmoji emoji text))) r w)) text := rfl

/-- For a body its users are looked up, and nothing else happens. -/
theorem after_format : after (format emoji text) r w =
    lookedUp r (Body.users (Body.withEmoji emoji text)) w :=
  after_namesOf r w _

end Format

/-- **What is shown for a body.** The text behind the stage of emoji codes is cut at its mentions. Each user
    that it mentions is looked up, once, in the order of the first mentions, and nobody else; so the service
    is asked about none but these. If no name of them holds an ampersand, what is shown is the decoded part
    before the first mention and, for each mention, an at sign, the name as it is, and the decoded part
    behind it. -/
theorem format_hygienic (emoji : Bool) (text : String) (r : Remote) (w : World) :
    ∃ first parts, Cut (Body.withEmoji emoji text) first parts ∧
      let mentioned := (parts.map (·.1)).eraseDups
      let w' := after (format emoji text) r w
      (mentioned.Nodup ∧ w' = lookedUp r mentioned w ∧
        ∃ asked : List String, asked.Sublist mentioned ∧
          w'.trace = w.trace ++ asked.flatMap fun user => [.acquire, .call (.userInfo user)]) ∧
      ∃ name : String → String,
        (∀ user ∈ mentioned, w'.directory.memory.get? user = some (name user)) ∧
        ((∀ user ∈ mentioned, '&' ∉ (name user).toList) →
          (value (format emoji text) r w).toList = Body.unescapeList first ++
            parts.flatMap fun p => '@' :: ((name p.1).toList ++ Body.unescapeList p.2)) := by
  obtain ⟨first, parts, hcut⟩ : ∃ first parts, Cut (Body.withEmoji emoji text) first parts :=
    ⟨_, _, Body.cut_segments _⟩
  have hafter := after_format emoji text r w
  have hvalue := value_format emoji text r w
  rw [hcut.users_eq] at hafter hvalue
  refine ⟨first, parts, hcut, ⟨Body.nodup_eraseDups _, hafter, ?_⟩,
    nameIn (value (namesOf (parts.map (·.1)).eraseDups) r w), fun user hu => ?_, fun hplain => ?_⟩
  · rw [hafter]
    exact trace_lookedUp r w _
  · obtain ⟨name, hn, hm⟩ := get?_namesOf r w user hu
    rw [hafter, hm, nameIn, hn]
    rfl
  · rw [hvalue, Body.format, String.toList_ofList, hcut.fill_eq]
    refine Body.unescapeList_parts first fun p hp => hplain p.1 ?_
    rw [List.mem_eraseDups]
    exact List.mem_map_of_mem hp

/-- A name that looks like a mention and an emoji code is shown as it is, and so is a mention that was
    escaped. -/
theorem format_tokens_in_name :
    ∃ (r : Remote) (w : World), (value (format false "&lt;@U2&gt; <@U1>&gt;") r w).toList =
      "<@U2> @<@U2>;:+1:>".toList := by
  let w : World := { outset with directory := outset.directory.prime "U1" "<@U2>;:+1:" }
  refine ⟨silent, w, ?_⟩
  obtain ⟨first, parts, hcut, _, name, hname, hshown⟩ :=
    format_hygienic false "&lt;@U2&gt; <@U1>&gt;" silent w
  have hseg : Body.segments (Body.pieces "&lt;@U2&gt; <@U1>&gt;".toList) =
      ("&lt;@U2&gt; ".toList, [("U1", "&gt;".toList)]) := by decide +kernel
  obtain ⟨rfl, rfl⟩ := Prod.mk.inj (hseg.symm.trans hcut.unique)
  have hn : name "U1" = "<@U2>;:+1:" := by
    have hw := stepwise_remembers.format false "&lt;@U2&gt; <@U1>&gt;" silent w "U1" "<@U2>;:+1:" rfl
    have hm := hname "U1" (by decide)
    exact Option.some.inj (hm.symm.trans hw)
  have hplain : ∀ user ∈ ([("U1", "&gt;".toList)].map (·.1)).eraseDups, '&' ∉ (name user).toList := by
    intro user hu
    have hu : user = "U1" := by simpa using hu
    rw [hu, hn]
    decide
  rw [hshown hplain, List.flatMap_cons, List.flatMap_nil, hn]
  decide +kernel

end Session

end TeamChat
