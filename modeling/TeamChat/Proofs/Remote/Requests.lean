import TeamChat.Proofs.Remote.Form
import TeamChat.Remote.Http

/-!
# `Client.request`: what a request says

The body of a request is a form, and it is read back as the form of its call: whatever stands in a text, a
command or an id, it is the value of its own key. A form has each key once, so the value that is found under
a key is the argument that was put there (`Form.value`); an argument that is left out since it is empty is
found as the empty one. Hence calls of one name with the same form have the same arguments.

## Contents
- `Form.value`: what a form holds under a key.
- `flagText_inj`, `countText_inj`, `Listing.typesText_inj`: arguments that are no texts.
- `Call.nodup_keys`: each key of a form stands there once.
- `Call.eq_of_form`: calls of one name with the same form.
- `request_lossless`: requests.
-/

namespace TeamChat

/-! ## Arguments that are no texts -/

namespace Numeral

/-- Numbers that are written alike are alike. -/
theorem decimal_inj {m n : Nat} (h : decimal m = decimal n) : m = n := by
  have back (k : Nat) : read? 10 (decimal k) = some k := by
    unfold decimal
    rw [read?_digits (by decide) (digits_ne_nil 10 k) fun d hd => digits_lt (by decide) hd, value_digits]
  have hr := congrArg (read? 10) h
  rw [back, back] at hr
  exact Option.some.inj hr

end Numeral

theorem Json.countText_inj {m n : Nat} (h : Json.countText m = Json.countText n) : m = n :=
  Numeral.decimal_inj (String.ofList_inj.mp h)

namespace Remote

open Json (countText)

theorem flagText_inj {a b : Bool} (h : flagText a = flagText b) : a = b := by
  revert h
  cases a <;> cases b <;> decide

/-- Names of types are told apart by the comma between them: no name is empty or holds one. -/
theorem ListingType.text_undivided (t : ListingType) : ',' ∉ t.text.toList ∧ t.text.toList ≠ [] := by
  cases t <;> decide

theorem ListingType.text_inj (t u : ListingType) (h : t.text.toList = u.text.toList) : t = u := by
  revert h
  cases t <;> cases u <;> decide

/-- The types of a listing, read back name by name. -/
theorem Listing.splitOn_typesText (q : Listing) :
    (q.typesText.toList.splitOn ',').filter (fun name => !name.isEmpty) = q.types.map fun t => t.text.toList := by
  unfold typesText
  rw [String.toList_intercalate, List.map_map]
  cases q.types with
  | nil => rfl
  | cons t rest =>
      have undivided : ∀ name ∈ (t :: rest).map (String.toList ∘ ListingType.text), ',' ∉ name := by
        intro name hname
        obtain ⟨u, _, rfl⟩ := List.mem_map.mp hname
        exact u.text_undivided.1
      have comma : ",".toList = [','] := rfl
      rw [comma, List.splitOn_intercalate ',' undivided (by simp), List.filter_eq_self.mpr]
      · rfl
      · intro name hname
        obtain ⟨u, _, rfl⟩ := List.mem_map.mp hname
        simpa using u.text_undivided.2

theorem Listing.typesText_inj {q q' : Listing} (h : q.typesText = q'.typesText) : q.types = q'.types := by
  have names := q.splitOn_typesText
  rw [h, q'.splitOn_typesText] at names
  exact ((List.map_inj_right ListingType.text_inj).mp names).symm

/-! ## Keys and values -/

namespace Form

/-- What a form holds under a key, nothing if the key is left out. -/
def value (key : String) (fields : List (String × String)) : String :=
  (fields.lookup key).getD ""

section Value

variable {key other v : String} {fields : List (String × String)}

@[simp] theorem value_nil : value key [] = "" := rfl

@[simp] theorem value_cons_self : value key ((key, v) :: fields) = v := by
  simp [value]

@[simp] theorem value_cons_of_ne (h : key ≠ other) : value key ((other, v) :: fields) = value key fields := by
  have hb : (key == other) = false := by simpa using h
  simp [value, List.lookup_cons, hb]

/-- An argument that may be left out is found under its key either way. -/
@[simp] theorem value_unlessEmpty_append_self (h : value key fields = "") :
    value key (unlessEmpty key v ++ fields) = v := by
  unfold unlessEmpty
  by_cases hv : v.isEmpty = true
  · rw [if_pos hv, List.nil_append, h, String.isEmpty_iff.mp hv]
  · rw [if_neg hv, List.singleton_append, value_cons_self]

@[simp] theorem value_unlessEmpty_append_of_ne (h : key ≠ other) :
    value key (unlessEmpty other v ++ fields) = value key fields := by
  unfold unlessEmpty
  split
  · rfl
  · exact value_cons_of_ne h

@[simp] theorem value_unlessEmpty_self : value key (unlessEmpty key v) = v := by
  rw [← List.append_nil (unlessEmpty key v), value_unlessEmpty_append_self value_nil]

@[simp] theorem value_unlessEmpty_of_ne (h : key ≠ other) : value key (unlessEmpty other v) = "" := by
  rw [← List.append_nil (unlessEmpty other v), value_unlessEmpty_append_of_ne h, value_nil]

end Value

end Form

theorem keys_unlessEmpty (key v : String) : ((unlessEmpty key v).map Prod.fst).Sublist [key] := by
  unfold unlessEmpty
  split
  · exact List.nil_sublist _
  · exact List.Sublist.refl _

namespace Call

/-- The keys that the form of a call can have. -/
def keys : Call → List String
  | .authTest => []
  | .listConversations _ => ["types", "exclude_archived", "limit", "cursor"]
  | .userConversations _ => ["types", "exclude_archived", "limit", "cursor"]
  | .history _ => ["channel", "limit", "inclusive", "oldest", "latest", "cursor"]
  | .replies _ => ["channel", "ts", "limit", "cursor"]
  | .userInfo _ => ["user"]
  | .userPresence _ => ["user"]
  | .setPresence _ => ["presence"]
  | .postMessage _ => ["channel", "text", "as_user", "link_names", "thread_ts", "username"]
  | .sendCommand _ _ _ => ["channel", "command", "text"]
  | .markRead _ _ => ["channel", "ts"]
  | .connectEvents => []

theorem nodup_keys (c : Call) : c.keys.Nodup := by
  cases c <;> simp [keys]

/-- Keys stand in a form in one order, and some may be left out. -/
theorem keys_form (c : Call) : (c.form.map Prod.fst).Sublist c.keys := by
  have last (key v : String) := keys_unlessEmpty key v
  cases c with
  | listConversations q => simpa [form, Listing.form, keys] using last "cursor" q.cursor
  | userConversations q => simpa [form, Listing.form, keys] using last "cursor" q.cursor
  | history q =>
      have optional := ((last "oldest" q.oldest).append (last "latest" q.latest)).append (last "cursor" q.cursor)
      simpa [form, keys] using optional
  | replies q => simpa [form, keys] using last "cursor" q.cursor
  | postMessage p => simpa [form, keys] using (last "thread_ts" p.threadStamp).append (last "username" p.username)
  | _ => exact List.Sublist.refl _

/-! ## Calls with the same form -/

theorem listing_eq_of_form {q q' : Listing} (h : q.form = q'.form) : q = q' := by
  have found (key : String) := congrArg (Form.value key) h
  have types : q.typesText = q'.typesText := by simpa [Listing.form] using found "types"
  have archived : flagText q.excludeArchived = flagText q'.excludeArchived := by
    simpa [Listing.form] using found "exclude_archived"
  have limit : countText q.limit = countText q'.limit := by simpa [Listing.form] using found "limit"
  have cursor : q.cursor = q'.cursor := by simpa [Listing.form] using found "cursor"
  cases q
  cases q'
  simp only [Listing.mk.injEq]
  exact ⟨Listing.typesText_inj types, flagText_inj archived, Json.countText_inj limit, cursor⟩

theorem history_eq_of_form {q q' : HistoryQuery} (h : form (.history q) = form (.history q')) : q = q' := by
  have found (key : String) := congrArg (Form.value key) h
  have channel : q.channel = q'.channel := by simpa [form] using found "channel"
  have limit : countText q.limit = countText q'.limit := by simpa [form] using found "limit"
  have inclusive : flagText q.inclusive = flagText q'.inclusive := by simpa [form] using found "inclusive"
  have oldest : q.oldest = q'.oldest := by simpa [form] using found "oldest"
  have latest : q.latest = q'.latest := by simpa [form] using found "latest"
  have cursor : q.cursor = q'.cursor := by simpa [form] using found "cursor"
  cases q
  cases q'
  simp only [HistoryQuery.mk.injEq]
  exact ⟨channel, Json.countText_inj limit, oldest, latest, flagText_inj inclusive, cursor⟩

theorem replies_eq_of_form {q q' : RepliesQuery} (h : form (.replies q) = form (.replies q')) : q = q' := by
  have found (key : String) := congrArg (Form.value key) h
  have channel : q.channel = q'.channel := by simpa [form] using found "channel"
  have stamp : q.stamp = q'.stamp := by simpa [form] using found "ts"
  have limit : countText q.limit = countText q'.limit := by simpa [form] using found "limit"
  have cursor : q.cursor = q'.cursor := by simpa [form] using found "cursor"
  cases q
  cases q'
  simp only [RepliesQuery.mk.injEq]
  exact ⟨channel, stamp, Json.countText_inj limit, cursor⟩

theorem posting_eq_of_form {p p' : Posting} (h : form (.postMessage p) = form (.postMessage p')) : p = p' := by
  have found (key : String) := congrArg (Form.value key) h
  have channel : p.channel = p'.channel := by simpa [form] using found "channel"
  have text : p.text = p'.text := by simpa [form] using found "text"
  have thread : p.threadStamp = p'.threadStamp := by simpa [form] using found "thread_ts"
  have username : p.username = p'.username := by simpa [form] using found "username"
  cases p
  cases p'
  simp only [Posting.mk.injEq]
  exact ⟨channel, text, thread, username⟩

/-- **Calls of one name with the same form have the same arguments.** -/
theorem eq_of_form {c c' : Call} (hm : c.method = c'.method) (hf : c.form = c'.form) : c = c' := by
  -- no two names are the same, so both calls are of one form
  cases c <;> cases c' <;> simp only [method, String.reduceEq] at hm
  case authTest.authTest => rfl
  case listConversations.listConversations q q' => exact congrArg _ (listing_eq_of_form hf)
  case userConversations.userConversations q q' => exact congrArg _ (listing_eq_of_form hf)
  case history.history q q' => exact congrArg _ (history_eq_of_form hf)
  case replies.replies q q' => exact congrArg _ (replies_eq_of_form hf)
  case userInfo.userInfo u u' => simpa [form] using hf
  case userPresence.userPresence u u' => simpa [form] using hf
  case setPresence.setPresence s s' => simpa [form] using hf
  case postMessage.postMessage p p' => exact congrArg _ (posting_eq_of_form hf)
  case sendCommand.sendCommand => simpa [form] using hf
  case markRead.markRead => simpa [form] using hf
  case connectEvents.connectEvents => rfl

end Call

/-! ## Requests -/

/-- The token and the cookie of a client can be values of headers. -/
def Client.Usable (k : Client) : Prop :=
  isHeaderValue k.token = true ∧ k.cookie.all isHeaderValue = true

/-- A client whose token and cookie can be written makes a request of every call. -/
theorem Client.request_of_usable {k : Client} (hk : k.Usable) (c : Call) :
    k.request c = .ok ⟨k.url c, "Bearer " ++ k.token, k.cookie, Form.encode c.form⟩ := by
  unfold Client.request
  rw [if_pos]
  rw [hk.1, hk.2]
  rfl

/-- **Requests lose nothing, and nothing in them passes for something else.** A client that can make requests
    makes one of every call, whatever its arguments. The body is read back as the form of the call, pair by
    pair. The keys of a form are those of its kind of call, in their order and none of them twice, so no
    argument adds a parameter or takes the place of one. Two requests of one kind with the same body are of
    the same call. -/
theorem request_lossless {k k' : Client} (hk : k.Usable) (hk' : k'.Usable) (c c' : Call) :
    ∃ q q', k.request c = .ok q ∧ k'.request c' = .ok q' ∧
      Form.decode? q.body = some c.form ∧ (c.form.map Prod.fst).Sublist c.keys ∧ c.keys.Nodup ∧
      (c.method = c'.method → q.body = q'.body → c = c') := by
  refine ⟨_, _, k.request_of_usable hk c, k'.request_of_usable hk' c', ?_, c.keys_form, c.nodup_keys, ?_⟩
  · exact Form.decode?_encode c.form
  · intro hm he
    exact Call.eq_of_form hm (Form.encode_inj he)

/-- A client. -/
def plainClient : Client := .make "xoxp" none none

/-- A message whose text looks like more of a form. -/
def feint : Posting := { channel := "C1", text := "a&thread_ts=1.0 %26" }

/-- The message, as a reply, that the text seems to ask for. -/
def feinted : Posting := { channel := "C1", text := "a", threadStamp := "1.0 %26" }

/-- The text that looks like more of a form is read back as it was, and the request is not the one that the
    text seems to ask for. -/
theorem request_of_feint :
    plainClient.Usable ∧ ∃ q q', plainClient.request (.postMessage feint) = .ok q ∧
      plainClient.request (.postMessage feinted) = .ok q' ∧
      Form.decode? q.body =
        some [("channel", "C1"), ("text", "a&thread_ts=1.0 %26"), ("as_user", "true"), ("link_names", "1")] ∧
      q.body ≠ q'.body := by
  have usable : plainClient.Usable := ⟨by decide, rfl⟩
  obtain ⟨q, q', hq, hq', hread, _, _, hsame⟩ :=
    request_lossless usable usable (.postMessage feint) (.postMessage feinted)
  exact ⟨usable, q, q', hq, hq', hread, fun he => absurd (hsame rfl he) (by decide)⟩

end Remote

end TeamChat
