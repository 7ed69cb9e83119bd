import Mathlib.Data.List.Nodup
import Mathlib.Logic.Function.Basic

/-!
# Lists as maps

A list whose entries carry keys represents a map if no key occurs twice.  Leaving out an entry, and
putting one in the place of that with its key, are the updates of the map.
-/

namespace Foundation.KeyedList

variable {κ β : Type*} (key : β → κ)

/-- The entries of the list are those of the map, each under its own key. -/
structure Represents (all : List β) (map : κ → Option β) : Prop where
  nodup : (all.map key).Nodup
  mem_iff : ∀ entry, entry ∈ all ↔ map (key entry) = some entry
  keyed : ∀ {id entry}, map id = some entry → key entry = id

theorem represents_nil : Represents key [] fun _ ↦ none :=
  ⟨List.nodup_nil, fun _ ↦ iff_of_false List.not_mem_nil nofun, nofun⟩

variable {key} {all : List β} {map : κ → Option β}

namespace Represents

variable [DecidableEq κ]

theorem erase (h : Represents key all map) (id : κ) :
    Represents key (all.filter fun entry ↦ decide (key entry ≠ id)) (Function.update map id none) := by
  constructor
  · exact h.nodup.sublist (List.filter_sublist.map key)
  · intro entry
    rw [List.mem_filter, h.mem_iff, decide_eq_true_iff]
    by_cases hid : key entry = id
    · rw [hid, Function.update_self]
      exact iff_of_false (fun hentry ↦ hentry.2 rfl) nofun
    · rw [Function.update_of_ne hid]
      exact and_iff_left hid
  · intro other entry hentry
    by_cases hid : other = id
    · rw [hid, Function.update_self] at hentry
      cases hentry
    · rw [Function.update_of_ne hid] at hentry
      exact h.keyed hentry

theorem upsert (h : Represents key all map) (entry : β) :
    Represents key (all.filter (fun other ↦ decide (key other ≠ key entry)) ++ [entry])
      (Function.update map (key entry) (some entry)) := by
  have herased := h.erase (key entry)
  constructor
  · rw [List.map_append, List.map_singleton, ← List.concat_eq_append]
    apply List.Nodup.concat _ herased.nodup
    intro hmem
    obtain ⟨other, hother, hkey⟩ := List.mem_map.mp hmem
    exact of_decide_eq_true (List.mem_filter.mp hother).2 hkey
  · intro other
    rw [List.mem_append, herased.mem_iff, List.mem_singleton]
    by_cases hkey : key other = key entry
    · rw [hkey, Function.update_self, Function.update_self, Option.some.injEq, eq_comm (a := entry)]
      exact or_iff_right nofun
    · rw [Function.update_of_ne hkey, Function.update_of_ne hkey]
      exact or_iff_left fun hother ↦ hkey (congrArg key hother)
  · intro id other hother
    by_cases hid : id = key entry
    · rw [hid, Function.update_self, Option.some.injEq] at hother
      rw [hid, hother]
    · rw [Function.update_of_ne hid] at hother
      exact h.keyed hother

end Represents

end Foundation.KeyedList
