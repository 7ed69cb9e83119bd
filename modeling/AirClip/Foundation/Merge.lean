import Mathlib.Data.List.Basic

/-!
# Merges of lists

Several parties append to one list.  Whoever reads the list finds the items of each party in the order in
which that party has appended them, and nothing else.
-/

namespace Foundation

variable {κ α β : Type*} [DecidableEq κ]

/-- The items of one party. -/
def itemsOf (labelled : List (κ × α)) (party : κ) : List α :=
  (labelled.filter fun item ↦ decide (item.1 = party)).map Prod.snd

/-- The list consists of what the parties have appended, each in its own order. -/
def IsMerge (whole : List α) (parts : κ → List α) : Prop :=
  ∃ labelled : List (κ × α), labelled.map Prod.snd = whole ∧
    ∀ party, itemsOf labelled party = parts party

theorem itemsOf_append (labelled later : List (κ × α)) (party : κ) :
    itemsOf (labelled ++ later) party = itemsOf labelled party ++ itemsOf later party := by
  rw [itemsOf, List.filter_append, List.map_append]
  rfl

theorem itemsOf_map_mk (items : List α) (party : κ) :
    itemsOf (items.map (Prod.mk party)) party = items := by
  simp [itemsOf, List.filter_map, Function.comp_def]

theorem itemsOf_map_mk_of_ne (items : List α) {party other : κ} (h : other ≠ party) :
    itemsOf (items.map (Prod.mk party)) other = [] := by
  simp [itemsOf, List.filter_map, Function.comp_def, h.symm]

theorem itemsOf_filterMap (choose : α → Option β) (labelled : List (κ × α)) (party : κ) :
    itemsOf (labelled.filterMap fun item ↦ (choose item.2).map (Prod.mk item.1)) party =
      (itemsOf labelled party).filterMap choose := by
  induction labelled with
  | nil => rfl
  | cons item labelled ih =>
    obtain ⟨other, value⟩ := item
    unfold itemsOf at ih ⊢
    by_cases hparty : other = party <;> rcases hchoose : choose value with - | chosen <;>
      simp [hparty, hchoose, ih]

namespace IsMerge

variable {whole : List α} {parts : κ → List α}

theorem nil : IsMerge ([] : List α) fun _ : κ ↦ [] := ⟨[], rfl, fun _ ↦ rfl⟩

/-- One party appends some items. -/
theorem append (h : IsMerge whole parts) {parts' : κ → List α} (party : κ) {items : List α}
    (hparty : parts' party = parts party ++ items)
    (hothers : ∀ other ≠ party, parts' other = parts other) : IsMerge (whole ++ items) parts' := by
  obtain ⟨labelled, hwhole, hparts⟩ := h
  refine ⟨labelled ++ items.map (Prod.mk party), ?_, fun other ↦ ?_⟩
  · rw [List.map_append, hwhole, List.map_map]
    simp [Function.comp_def]
  · rw [itemsOf_append, hparts]
    by_cases hother : other = party
    · rw [hother, itemsOf_map_mk, hparty]
    · rw [itemsOf_map_mk_of_ne items hother, List.append_nil, hothers other hother]

theorem congr (h : IsMerge whole parts) {parts' : κ → List α}
    (hparts : ∀ party, parts' party = parts party) : IsMerge whole parts' := funext hparts ▸ h

/-- A selection of the list is a merge of the selections of the parts. -/
theorem filterMap (h : IsMerge whole parts) (choose : α → Option β) :
    IsMerge (whole.filterMap choose) fun party ↦ (parts party).filterMap choose := by
  obtain ⟨labelled, rfl, hparts⟩ := h
  refine ⟨labelled.filterMap fun item ↦ (choose item.2).map (Prod.mk item.1), ?_, fun party ↦ ?_⟩
  · rw [List.map_filterMap, List.filterMap_map]
    simp [Function.comp_def, Option.map_map]
  · rw [itemsOf_filterMap, hparts]

/-- Every item is that of some party. -/
theorem mem_iff (h : IsMerge whole parts) {item : α} : item ∈ whole ↔ ∃ party, item ∈ parts party := by
  obtain ⟨labelled, rfl, hparts⟩ := h
  simp only [← hparts, itemsOf, List.mem_map, List.mem_filter, decide_eq_true_eq]
  constructor
  · rintro ⟨labelledItem, hmem, rfl⟩
    exact ⟨labelledItem.1, labelledItem, ⟨hmem, rfl⟩, rfl⟩
  · rintro ⟨party, labelledItem, ⟨hmem, -⟩, rfl⟩
    exact ⟨labelledItem, hmem, rfl⟩

end IsMerge

end Foundation
