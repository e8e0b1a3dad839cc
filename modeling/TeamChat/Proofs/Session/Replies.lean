import TeamChat.Proofs.Session.Payment
import TeamChat.Proofs.Slash.Grammar
import TeamChat.Remote.Http

/-!
# `Service.submit`: what becomes of a reply

A line that begins with `/thread` is meant for a thread. An alias always leads to a timestamp that is not empty,
because threads only come into the table with messages from which they hang (`stamped_takeTurns`), so a reply is
posted with the timestamp of its thread, or is not posted at all (`reply_or_refusal`). A blank before the slash
makes an ordinary message of the line, which is posted in the channel for all to see
(`reply_behind_blank_is_posted`).

## Contents
- `Session.Stamped`, `stamped_takeTurns`: every alias leads to a timestamp, over whole runs.
- `Service.Outcome`: a reply that is posted, an alias that is not known, a line that asks for no reply.
- `reply_or_refusal`: lines whose first word is `/thread`.
-/

namespace TeamChat

open Slash (AsksReply firstWord)

namespace Session

variable {r : Remote} {w : World}

/-! ## Aliases lead to timestamps -/

/-- Every alias leads to a timestamp. -/
def Stamped (w : World) : Prop :=
  ∀ word, w.threads.lookup word ≠ some ""

/-- Nothing that a session does takes the timestamp of an alias away. -/
theorem building_stamped : Building fun w w' => Stamped w → Stamped w' where
  refl _ h := h
  trans h₁ h₂ h := h₂ (h₁ h)
  call c r w h := by
    unfold Stamped
    rw [after_call, threads_called]
    exact h
  resolve user r w h := by
    unfold Stamped
    rw [threads_resolve]
    exact h
  register hne r w h word := by
    show (w.threads.set _ _).get? word ≠ some ""
    rw [Register.get?_set]
    split
    · simpa using hne
    · exact h word
  prime _ _ _ _ h := h
  clear _ _ _ word := by
    show Register.empty.get? word ≠ some ""
    simp

/-- Whatever a session is asked for, every alias leads to a timestamp. -/
theorem stamped_takeTurns (turns : List Turn) (h : Stamped w) : Stamped (after (takeTurns turns) r w) := by
  induction turns generalizing w with
  | nil => exact h
  | cons t rest ih =>
      have hp : Stamped (paused t.duration t.now w) := h
      exact ih (building_stamped.meet t.demand r _ hp)

theorem stamped_start (rate : Limiter.Rate) (now : Int) (clock : Nat) (directory : Directory) :
    Stamped (.start rate now clock directory) := by
  intro word
  show Register.empty.get? word ≠ some ""
  simp

end Session

open Session

namespace Service

variable {s : Service} {r : Remote} {w : World} {channel line : String}

/-! ## Sending a line -/

theorem submit_of_isCommand (h : Slash.isCommand line = true) : s.submit channel line = s.sendCommand channel line :=
  if_pos h

/-- What is no command is posted as it is, for all to see. -/
theorem after_submit_of_not_isCommand (h : Slash.isCommand line = false) :
    after (s.submit channel line) r w = called (.postMessage ⟨channel, line, "", s.username⟩) w := by
  unfold submit
  rw [h]
  rfl

/-! ## Replies -/

/-- **What may become of a line that is meant for a thread**: it asks for a reply in a thread that is known, and one
    call is made, which posts the reply there and nowhere else; or the alias is not known; or the line does not ask
    for a reply. In the last two cases nothing is done. -/
inductive Outcome (s : Service) (channel line : String) (r : Remote) (w : World) :
    Except ClientError Unit → World → Prop
  | posted {word text stamp : String} (asks : AsksReply line word text) (known : w.threads.lookup word = some stamp)
      (stamped : stamp ≠ "")
      (sent : ("thread_ts", stamp) ∈ Remote.Call.form (.postMessage ⟨channel, text, stamp, s.username⟩)) :
      Outcome s channel line r w
        ((r.answer (w.trace ++ [.acquire]) (.postMessage ⟨channel, text, stamp, s.username⟩)).mapError .api)
        (called (.postMessage ⟨channel, text, stamp, s.username⟩) w)
  | unknown {word text : String} (asks : AsksReply line word text) (unknown : w.threads.lookup word = none) :
      Outcome s channel line r w (.error (.unknownThread word)) w
  | refused (none : ∀ word text, ¬ AsksReply line word text) :
      Outcome s channel line r w (.error (.slash .badThread)) w

/-- A line that is meant for a thread is not posted for all to see. -/
theorem Outcome.not_public {answer : Except ClientError Unit} {w' : World}
    (h : Outcome s channel line r w answer w') (text : String) :
    w' ≠ called (.postMessage ⟨channel, text, "", s.username⟩) w := by
  intro he
  have ht := congrArg World.trace he
  rw [trace_called] at ht
  cases h with
  | posted _ _ stamped _ =>
      rw [trace_called] at ht
      simp [stamped] at ht
  | unknown _ _ => simp at ht
  | refused _ => simp at ht

/-- The timestamp of a thread is sent along, unless it is empty. -/
theorem mem_form_postMessage {p : Remote.Posting} (h : p.threadStamp ≠ "") :
    ("thread_ts", p.threadStamp) ∈ Remote.Call.form (.postMessage p) := by
  simp [Remote.Call.form, Remote.unlessEmpty, h]

/-- A command that is right at the beginning of its line. -/
theorem outcome_of_slash (hs : Stamped w) (hslash : line.toList.head? = some '/')
    (hfirst : firstWord line = "/thread".toList) (hline : '\n' ∉ line.toList) :
    Outcome s channel line r w (value (s.submit channel line) r w) (after (s.submit channel line) r w) := by
  obtain ⟨hcommand, ⟨word, text, hp⟩ | hp⟩ := Slash.parse_of_firstWord hslash hfirst hline
  · rw [submit_of_isCommand hcommand]
    have hasks : AsksReply line word text := Slash.parse_eq_thread_iff.mp hp
    cases hk : w.threads.lookup word with
    | none =>
        obtain ⟨hv, ha⟩ := sendCommand_of_unknown s r channel hp hk
        rw [hv, ha]
        exact .unknown hasks hk
    | some stamp =>
        obtain ⟨hv, ha⟩ := sendCommand_of_known s r channel hp hk
        have hstamp : stamp ≠ "" := fun he => hs word (he ▸ hk)
        rw [hv, ha]
        exact .posted hasks hk hstamp (mem_form_postMessage hstamp)
  · rw [submit_of_isCommand hcommand]
    obtain ⟨hv, ha⟩ := sendCommand_of_refused s r channel w hp
    rw [hv, ha]
    refine .refused fun word text hasks => ?_
    exact absurd (hp.symm.trans (Slash.parse_eq_thread_iff.mpr hasks)) (by simp)

/-- **A line whose first word is `/thread`.** Whatever the session did before: if the line begins with the command,
    either a reply is posted, in a thread and with the text of the line, or nothing is done and the line is refused.
    If blanks stand before the command, the line is an ordinary message and is posted as it is. -/
theorem reply_or_refusal (s : Service) (r : Remote) (rate : Limiter.Rate) (now : Int) (clock : Nat)
    (directory : Directory) (turns : List Turn) (channel line : String)
    (hfirst : firstWord line = "/thread".toList) (hline : '\n' ∉ line.toList) :
    let w := after (takeTurns turns) r (.start rate now clock directory)
    let answer := value (s.submit channel line) r w
    let w' := after (s.submit channel line) r w
    (line.toList.head? = some '/' → Outcome s channel line r w answer w') ∧
    (line.toList.head? ≠ some '/' → w' = called (.postMessage ⟨channel, line, "", s.username⟩) w) := by
  intro w answer w'
  have hs : Stamped w := stamped_takeTurns turns (stamped_start rate now clock directory)
  constructor
  · intro hslash
    exact outcome_of_slash hs hslash hfirst hline
  · intro hblank
    exact after_submit_of_not_isCommand (Slash.isCommand_of_head hblank)

/-! ## A thread in a lobby -/

/-- A service where a thread hangs from the one message of a channel. -/
def lobby : Remote where
  answer _
    | .history _ =>
      .ok ⟨[{ user := "U1", text := "question", stamp := "100.000000", threadStamp := "100.000000" }], ""⟩
    | .replies _ => .ok {}
    | .userInfo user => .ok { id := user, name := "alice" }
    | .postMessage _ => .ok ()
    | c => .error (.remote c.method "unknown_method")
  openStream _ := .error (.http .builder)
  horizon := 1

/-- Somebody in the lobby. -/
def visitor : Service := ⟨{}, "U0", "me"⟩

/-- The world after the lobby was looked at. -/
def inLobby : World :=
  after (takeTurns [⟨0, 0, .perform visitor (.loadHistory "C1")⟩]) lobby (.start (.make .exact 20 1000) 0 0 {})

theorem lookup_inLobby : inLobby.threads.lookup "bM" = some "100.000000" := by decide +kernel

/-- In the lobby, `/thread bM  hello ` says hello in the thread. -/
theorem reply_in_lobby :
    let line := "/thread bM  hello "
    let p : Remote.Posting := ⟨"C1", "hello", "100.000000", "me"⟩
    firstWord line = "/thread".toList ∧ '\n' ∉ line.toList ∧ inLobby.threads.lookup "bM" = some "100.000000" ∧
      Outcome visitor "C1" line lobby inLobby (.ok ()) (called (.postMessage p) inLobby) := by
  intro line p
  have hfirst : firstWord line = "/thread".toList := by decide
  have hline : '\n' ∉ line.toList := by decide
  have hout : Outcome visitor "C1" line lobby inLobby (value (visitor.submit "C1" line) lobby inLobby)
      (after (visitor.submit "C1" line) lobby inLobby) :=
    (reply_or_refusal visitor lobby (.make .exact 20 1000) 0 0 {} [⟨0, 0, .perform visitor (.loadHistory "C1")⟩] "C1" line
      hfirst hline).1 (by decide)
  have hp : Slash.parse line = .ok (.thread "bM" "hello") := by decide
  obtain ⟨hv, ha⟩ := sendCommand_of_known visitor lobby "C1" hp lookup_inLobby
  have hcommand : visitor.submit "C1" line = visitor.sendCommand "C1" line := submit_of_isCommand (by decide)
  refine ⟨hfirst, hline, lookup_inLobby, ?_⟩
  rw [hcommand, hv, ha] at hout
  exact hout

/-- **A blank before the slash gives a reply away**: the thread is known, and the line is posted in the channel. -/
theorem reply_behind_blank_is_posted :
    ¬ ∀ (s : Service) (r : Remote) (rate : Limiter.Rate) (now : Int) (clock : Nat) (directory : Directory)
      (turns : List Turn) (channel line : String),
      firstWord line = "/thread".toList → '\n' ∉ line.toList →
      let w := after (takeTurns turns) r (.start rate now clock directory)
      Outcome s channel line r w (value (s.submit channel line) r w) (after (s.submit channel line) r w) := by
  intro h
  have hout := h visitor lobby (.make .exact 20 1000) 0 0 {} [⟨0, 0, .perform visitor (.loadHistory "C1")⟩] "C1"
    " /thread bM hello" (by decide) (by decide)
  exact hout.not_public _ (after_submit_of_not_isCommand (by decide))

end Service

end TeamChat
