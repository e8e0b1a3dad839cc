import TeamChat.Proofs.Text.Bytes
import TeamChat.Session.Channels

/-!
# `Channel.arrange`: the order of the sidebar

The kinds follow one another, inside a kind the names come in the order of their bytes, and entries of one
kind and one name stay as they were listed. That leaves every entry in its place (`filter_arrange`), so
nothing is lost or doubled on the way (`arrange_perm`).

## Contents
- `Channel.InOrder`, `pairwise_arrange`: the order of the kinds and of the names.
- `Channel.filter_arrange`: entries of one kind and one name stay as they were listed.
- `Channel.arrange_perm`: the entries of the sidebar are those that were listed.
-/

namespace TeamChat.Channel

open Remote.Form (bytes bytes_le_bytes_iff)

variable {entries : List Entry} {k : Kind}

/-! ## Entries of one kind -/

/-- The order by names is transitive. -/
theorem name_trans (a b c : Entry) :
    decide (a.name ≤ b.name) → decide (b.name ≤ c.name) → decide (a.name ≤ c.name) := by
  rw [decide_eq_true_iff, decide_eq_true_iff, decide_eq_true_iff]
  exact String.le_trans

/-- Of any two entries one comes first by its name, or they have the same name. -/
theorem name_total (a b : Entry) : decide (a.name ≤ b.name) || decide (b.name ≤ a.name) := by
  rw [Bool.or_eq_true, decide_eq_true_iff, decide_eq_true_iff]
  exact String.le_total a.name b.name

theorem mem_ofKind {e : Entry} : e ∈ ofKind k entries ↔ e ∈ entries ∧ e.kind = k := by
  rw [ofKind, List.mem_mergeSort, List.mem_filter, decide_eq_true_iff]

theorem pairwise_ofKind : (ofKind k entries).Pairwise fun a b => a.name ≤ b.name := by
  have h := List.pairwise_mergeSort name_trans name_total (entries.filter fun e => e.kind = k)
  exact h.imp of_decide_eq_true

/-- Sorting by name leaves entries of one name as they are. -/
theorem filter_ofKind (name : String) :
    ((ofKind k entries).filter fun e => e.name = name) =
      (entries.filter fun e => e.kind = k).filter fun e => e.name = name := by
  have hsub : ((entries.filter fun e => e.kind = k).filter fun e => e.name = name).Sublist
      (ofKind k entries) := by
    refine List.sublist_mergeSort name_trans name_total ?_ List.filter_sublist
    -- entries of one name are in order as they are
    refine List.pairwise_of_forall_mem_list fun a ha b hb => ?_
    rw [List.mem_filter, decide_eq_true_iff] at ha hb
    have hab : a.name = b.name := ha.2.trans hb.2.symm
    exact decide_eq_true (hab ▸ String.le_refl a.name)
  have hfil := hsub.filter fun e => decide (e.name = name)
  rw [List.filter_filter] at hfil
  simp only [Bool.and_self] at hfil
  have hperm := (List.mergeSort_perm (entries.filter fun e => e.kind = k) fun a b => a.name ≤ b.name).filter
    fun e => decide (e.name = name)
  exact (hfil.eq_of_length hperm.length_eq.symm).symm

/-! ## All kinds -/

/-- The order of the sidebar: by kind, and inside a kind by the bytes of the names. -/
def InOrder (a b : Entry) : Prop :=
  a.kind.index < b.kind.index ∨ a.kind = b.kind ∧ bytes a.name ≤ bytes b.name

theorem mem_arrange {e : Entry} : e ∈ arrange entries ↔ e ∈ entries := by
  rw [arrange, List.mem_flatMap]
  constructor
  · rintro ⟨k, _, he⟩
    exact (mem_ofKind.mp he).1
  · intro he
    refine ⟨e.kind, ?_, mem_ofKind.mpr ⟨he, rfl⟩⟩
    exact List.mem_of_getElem? (Kind.order_getElem?_index e.kind)

/-- **The sidebar is in order.** -/
theorem pairwise_arrange : (arrange entries).Pairwise InOrder := by
  rw [arrange, List.pairwise_flatMap]
  constructor
  · intro k _
    refine pairwise_ofKind.imp_of_mem fun {a b} ha hb hab => .inr ⟨?_, bytes_le_bytes_iff.mpr hab⟩
    rw [(mem_ofKind.mp ha).2, (mem_ofKind.mp hb).2]
  · have hkinds : Kind.order.Pairwise fun k l => k.index < l.index := by decide
    refine hkinds.imp fun {k l} hkl a ha b hb => .inl ?_
    rw [(mem_ofKind.mp ha).2, (mem_ofKind.mp hb).2]
    exact hkl

/-- The entries of one kind, as they stand in the sidebar. -/
theorem filter_kind_arrange : ((arrange entries).filter fun e => e.kind = k) = ofKind k entries := by
  have part (l : Kind) :
      ((ofKind l entries).filter fun e => e.kind = k) = if l = k then ofKind l entries else [] := by
    by_cases hl : l = k
    · rw [if_pos hl, List.filter_eq_self]
      intro e he
      exact decide_eq_true ((mem_ofKind.mp he).2.trans hl)
    · rw [if_neg hl, List.filter_eq_nil_iff]
      intro e he
      rw [(mem_ofKind.mp he).2, decide_eq_true_iff]
      exact hl
  rw [arrange, List.filter_flatMap]
  simp only [part]
  cases k <;> simp [Kind.order]

/-- **Entries of one kind and one name stay as they were listed.** -/
theorem filter_arrange (name : String) :
    ((arrange entries).filter fun e => e.kind = k ∧ e.name = name) =
      entries.filter fun e => e.kind = k ∧ e.name = name := by
  have split (l : List Entry) : (l.filter fun e => e.kind = k ∧ e.name = name) =
      (l.filter fun e => e.kind = k).filter fun e => e.name = name := by
    rw [List.filter_filter]
    exact List.filter_congr fun e _ => by rw [Bool.decide_and, Bool.and_comm]
  rw [split, split, filter_kind_arrange, filter_ofKind]

/-- The entries of the sidebar are those that were listed, each as often as it was. -/
theorem arrange_perm : (arrange entries).Perm entries := by
  rw [List.perm_iff_count]
  intro e
  have keeps (l : List Entry) :
      (l.filter fun e' => e'.kind = e.kind ∧ e'.name = e.name).count e = l.count e :=
    List.count_filter (p := fun e' : Entry => decide (e'.kind = e.kind ∧ e'.name = e.name))
      (decide_eq_true ⟨rfl, rfl⟩)
  rw [← keeps, filter_arrange, keeps]

end TeamChat.Channel
