import TeamChat.Proofs.Session.Messages

/-!
# `Session.history`: nothing is lost, added or put out of order

A history is as long as the page that the service answered, oldest message first, and it fails exactly if
the page cannot be had. Names, bodies and replies are found out along the way, and whatever becomes of them
changes neither the number nor the order of the messages, nor which of them a thread hangs from.

## Contents
- `Session.historyQuery`, `history_of_error`, `history_of_ok`: the page that is asked for, and what becomes of it.
- `ids_of_built`, `marks_of_built`, `references_of_built`: messages beside the posts for which they are built.
- `history_exact`: a history beside its page.
-/

namespace TeamChat.Session

open Remote (HistoryQuery)

/-! ## The page of a history -/

/-- The page that is asked for. -/
def historyQuery (channel : String) (count days : Nat) (w : World) : HistoryQuery where
  channel := channel
  limit := count
  oldest := String.ofList (Numeral.decimal (oldest w.now days))

section Page

variable {emoji : Bool} {channel : String} {count days : Nat} {r : Remote} {w : World}

/-- If the page cannot be had, nothing but the call was made. -/
theorem history_of_error {e : Remote.ApiError}
    (h : r.answer (w.trace ++ [.acquire]) (.history (historyQuery channel count days w)) = .error e) :
    value (history emoji channel count days) r w = .error e ∧
      after (history emoji channel count days) r w = called (.history (historyQuery channel count days w)) w := by
  have hv := (value_call r w (.history (historyQuery channel count days w))).trans h
  unfold historyQuery at hv
  unfold history
  rw [value_bind, after_bind, value_get, after_get, value_bind, after_bind, hv]
  exact ⟨rfl, rfl⟩

/-- If the page can be had, so can the history. -/
theorem history_of_ok {page : Remote.Page Wire.Post}
    (h : r.answer (w.trace ++ [.acquire]) (.history (historyQuery channel count days w)) = .ok page) :
    value (history emoji channel count days) r w =
      let messages := value (buildMessages emoji channel page.items) r
        (called (.history (historyQuery channel count days w)) w)
      .ok ⟨messages.reverse, messages.filterMap referenceOf?⟩ := by
  have hv := (value_call r w (.history (historyQuery channel count days w))).trans h
  unfold historyQuery at hv
  unfold history
  rw [value_bind, value_get, after_get, value_bind, hv]
  rfl

end Page

/-! ## Messages beside their posts -/

section Beside

variable {emoji : Bool} {channel : String} {r : Remote} {posts : List Wire.Post} {ms : List Message}

theorem ids_of_built (h : List.Forall₂ (IsBuilt emoji channel r) posts ms) :
    ms.map (·.id) = posts.map (·.stamp) := by
  induction h with
  | nil => rfl
  | cons hm _ ih =>
      obtain ⟨w, rfl⟩ := hm
      rw [List.map_cons, List.map_cons, ih, id_buildMessage]

/-- The alias that a message shows is the one of its thread, and there is one exactly if a thread hangs from
    the post. -/
theorem marks_of_built (h : List.Forall₂ (IsBuilt emoji channel r) posts ms) :
    List.Forall₂ (fun p m => m.startsThread = p.startsThread ∧
      m.thread = if p.startsThread then Thread.aliasOf p.stamp else "") posts ms := by
  refine h.imp fun p m hm => ?_
  obtain ⟨w, rfl⟩ := hm
  exact ⟨startsThread_buildMessage .., thread_buildMessage ..⟩

/-- The references of messages are one for each post from which a thread hangs. -/
theorem references_of_built (h : List.Forall₂ (IsBuilt emoji channel r) posts ms) :
    ms.filterMap referenceOf? =
      ((posts.zip ms).filter (·.1.startsThread)).map fun x => ⟨x.2.thread, x.1.stamp⟩ := by
  induction h with
  | nil => rfl
  | @cons p m posts ms hm _ ih =>
      obtain ⟨w, rfl⟩ := hm
      rw [List.filterMap_cons, List.zip_cons_cons, List.filter_cons, referenceOf?, startsThread_buildMessage,
        id_buildMessage]
      -- the test on the message and the test on the post are one
      by_cases hp : p.startsThread = true
      · simp only [hp, if_true, List.map_cons, ih]
      · simp only [hp, ih]
        rfl

end Beside

/-! ## A history beside its page -/

/-- **A history is what its page is.** It fails exactly if the page cannot be had, and then nobody was looked
    up and no alias was remembered. Otherwise it holds one message for each post of the page, the last post
    first, under the post's timestamp; a thread hangs from a message exactly if one hangs from its post; and
    the references are one for each of these, in the order of the page, each of the alias that the message
    shows and the timestamp of the post. -/
theorem history_exact (emoji : Bool) (channel : String) (count days : Nat) (r : Remote) (w : World) :
    let call : Remote.Call := .history (historyQuery channel count days w)
    let answer := r.answer (w.trace ++ [.acquire]) (.history (historyQuery channel count days w))
    let result := value (history emoji channel count days) r w
    let w' := after (history emoji channel count days) r w
    ((∃ e, result = .error e) ↔ ∃ e, answer = .error e) ∧
    (∀ e, answer = .error e → result = .error e ∧ w'.directory = w.directory ∧ w'.threads = w.threads ∧
      w'.trace = w.trace ++ [.acquire, .call call]) ∧
    ∀ page, answer = .ok page → ∃ h, result = .ok h ∧
      h.messages.length = page.items.length ∧
      h.messages.map (·.id) = (page.items.map (·.stamp)).reverse ∧
      List.Forall₂ (fun p m => m.startsThread = p.startsThread ∧
        m.thread = if p.startsThread then Thread.aliasOf p.stamp else "") page.items h.messages.reverse ∧
      h.threads = ((page.items.zip h.messages.reverse).filter (·.1.startsThread)).map
        fun x => ⟨x.2.thread, x.1.stamp⟩ := by
  intro call answer result w'
  have hfail : ∀ e, answer = .error e → result = .error e ∧ w' = called call w := fun e he => history_of_error he
  refine ⟨⟨?_, fun ⟨e, he⟩ => ⟨e, (hfail e he).1⟩⟩, fun e he => ?_, fun page hpage => ?_⟩
  · rintro ⟨e, he⟩
    cases ha : answer with
    | error e' => exact ⟨e', rfl⟩
    | ok page => exact absurd ((history_of_ok ha).symm.trans he) (by simp)
  · obtain ⟨hr, hw⟩ := hfail e he
    rw [hw]
    exact ⟨hr, directory_called w call, threads_called w call, trace_called w call⟩
  · -- the messages are built in the order of the page, and then turned round
    have hb := forall₂_buildMessages emoji channel page.items r (called call w)
    refine ⟨_, history_of_ok hpage, ?_, ?_, ?_, ?_⟩
    · rw [List.length_reverse, hb.length_eq]
    · rw [List.map_reverse, ids_of_built hb]
    · rw [List.reverse_reverse]
      exact marks_of_built hb
    · rw [List.reverse_reverse]
      exact references_of_built hb

end TeamChat.Session
