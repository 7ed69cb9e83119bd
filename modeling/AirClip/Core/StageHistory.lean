import AirClip.Core.Stage
import AirClip.Foundation.RecentHistory

/-!
# History of the staged clips

The ring refines its history: it holds the last copies it has accepted since it was cleared, as many
as it is deep.  Copies that are oversize or for which no id can be drawn are not accepted.
-/

open Foundation

namespace AirClip

/-- A local copy offered to the ring, with the random draw for its id. -/
structure LocalCopy where
  contentType : ContentType
  body : Bytes
  nowMs : UInt64
  randomId : Option (Octets 8)
deriving DecidableEq

/-- The clip that is staged for a copy. -/
def LocalCopy.accepted (copy : LocalCopy) : Option StagedClip :=
  if maxTextClip < copy.body.length then none
  else copy.randomId.map fun stageId ↦ ⟨stageId, copy.contentType, copy.body, copy.nowMs⟩

theorem LocalCopy.body_of_accepted {copy : LocalCopy} {clip : StagedClip}
    (h : copy.accepted = some clip) : clip.body = copy.body ∧ clip.body.length ≤ maxTextClip := by
  unfold accepted at h
  split_ifs at h with hlarge
  obtain ⟨stageId, -, rfl⟩ := Option.map_eq_some_iff.mp h
  exact ⟨rfl, not_lt.mp hlarge⟩

theorem LocalCopy.filterMap_accepted (copy : LocalCopy) :
    [copy].filterMap LocalCopy.accepted = copy.accepted.toList := by
  cases h : copy.accepted <;> simp [h]

/-- A call on the ring. -/
inductive StageCall where
  | copy (copy : LocalCopy)
  | clear
deriving DecidableEq

/-- The clips that some calls stage, whatever becomes of them. -/
def stagedBy (calls : List StageCall) : List StagedClip :=
  calls.filterMap fun
    | .copy copy => copy.accepted
    | .clear => none

theorem stagedBy_append (calls later : List StageCall) :
    stagedBy (calls ++ later) = stagedBy calls ++ stagedBy later := List.filterMap_append ..

theorem mem_stagedBy {calls : List StageCall} {clip : StagedClip} :
    clip ∈ stagedBy calls ↔ ∃ offered, .copy offered ∈ calls ∧ offered.accepted = some clip := by
  rw [stagedBy, List.mem_filterMap]
  constructor
  · rintro ⟨call, hmem, hclip⟩
    cases call with
    | copy offered => exact ⟨offered, hmem, hclip⟩
    | clear => cases hclip
  · rintro ⟨offered, hmem, hclip⟩
    exact ⟨.copy offered, hmem, hclip⟩

/-- What a call makes of the clips staged since the last clear, oldest first. -/
def StageCall.history (staged : List StagedClip) : StageCall → List StagedClip
  | .copy offered => staged ++ offered.accepted.toList
  | .clear => []

/-- The clips staged since the last clear, oldest first. -/
def stagedSince (calls : List StageCall) : List StagedClip := calls.foldl StageCall.history []

/-- Without a clear the history grows by what is staged, and it is a part of everything staged. -/
theorem foldl_history (staged : List StagedClip) (calls : List StageCall) :
    (.clear ∉ calls → calls.foldl StageCall.history staged = staged ++ stagedBy calls) ∧
      (calls.foldl StageCall.history staged).Sublist (staged ++ stagedBy calls) := by
  induction calls generalizing staged with
  | nil => simp [stagedBy]
  | cons call calls ih =>
    cases call with
    | copy copy =>
      obtain ⟨hkept, hsublist⟩ := ih (staged ++ copy.accepted.toList)
      have hstaged : staged ++ copy.accepted.toList ++ stagedBy calls =
          staged ++ stagedBy (.copy copy :: calls) := by
        cases haccepted : copy.accepted <;> simp [stagedBy, haccepted]
      rw [hstaged] at hkept hsublist
      refine ⟨fun hclear ↦ hkept fun hmem ↦ hclear (List.mem_cons_of_mem _ hmem), hsublist⟩
    | clear =>
      obtain ⟨-, hsublist⟩ := ih []
      exact ⟨fun hclear ↦ absurd List.mem_cons_self hclear,
        hsublist.trans (List.sublist_append_right _ _)⟩

theorem stagedSince_append (calls later : List StageCall) :
    stagedSince (calls ++ later) = later.foldl StageCall.history (stagedSince calls) :=
  List.foldl_append ..

theorem stagedSince_sublist (calls : List StageCall) :
    (stagedSince calls).Sublist (stagedBy calls) := (foldl_history [] calls).2

namespace StageRing

/-- A copy that is not accepted leaves the ring alone, and one that is drops the oldest clip of a full
ring. -/
theorem push_items (ring : StageRing) (copy : LocalCopy) :
    (ring.push copy.contentType copy.body copy.nowMs copy.randomId).2.depth = ring.depth ∧
    (ring.push copy.contentType copy.body copy.nowMs copy.randomId).2.items =
      match copy.accepted with
      | none => ring.items
      | some clip =>
        (if ring.items.length = ring.depth then ring.items.tail else ring.items) ++ [clip] := by
  by_cases hlarge : maxTextClip < copy.body.length
  · simp [push, LocalCopy.accepted, hlarge]
  · cases hid : copy.randomId with
    | none => simp [push, LocalCopy.accepted, hid, hlarge]
    | some stageId => simp [push, LocalCopy.accepted, hid, hlarge, pushWithId]

/-- A ring of any depth that holds the last clips of a history goes on doing so. -/
theorem push_rtake {ring : StageRing} {staged : List StagedClip}
    (h : ring.items = staged.rtake ring.depth) (copy : LocalCopy) :
    (ring.push copy.contentType copy.body copy.nowMs copy.randomId).2.items =
      (staged ++ copy.accepted.toList).rtake ring.depth := by
  rw [(ring.push_items copy).2]
  cases copy.accepted with
  | none => simpa using h
  | some clip =>
    rw [h]
    exact rtake_push ring.depth_pos staged clip

/-- The ring holds the last clips of a history. -/
structure Holds (ring : StageRing) (staged : List StagedClip) : Prop where
  depth : ring.depth = stageDepth
  items : ring.items = staged.rtake stageDepth

theorem holds_default : default.Holds [] := ⟨rfl, rfl⟩

theorem Holds.push {ring : StageRing} {staged : List StagedClip} (h : ring.Holds staged)
    (copy : LocalCopy) : (ring.push copy.contentType copy.body copy.nowMs copy.randomId).2.Holds
      (staged ++ copy.accepted.toList) := by
  refine ⟨(ring.push_items copy).1.trans h.depth, ?_⟩
  rw [← h.depth]
  apply push_rtake
  rw [h.depth]
  exact h.items

/-- Among clips with distinct ids, a clip is found under its id as long as the ring holds it. -/
theorem get_cases {ring : StageRing} {clips : List StagedClip} (hitems : ring.items ⊆ clips)
    (hids : (clips.map StagedClip.stageId).Nodup) {clip : StagedClip} (hclip : clip ∈ clips) :
    ring.get clip.stageId = some clip ∨ ring.get clip.stageId = none ∧ clip ∉ ring.items := by
  rcases hget : ring.get clip.stageId with - | found
  · refine .inr ⟨rfl, fun hmem ↦ ?_⟩
    simpa using List.find?_eq_none.mp hget clip hmem
  · have hid : found.stageId = clip.stageId := by simpa using List.find?_some hget
    have hfound : found ∈ clips := hitems (List.mem_of_find?_eq_some hget)
    exact .inl (congrArg some (List.inj_on_of_nodup_map hids hfound hclip hid))

/-- Carry out a call on the ring. -/
def perform (ring : StageRing) : StageCall → StageRing
  | .copy copy => (ring.push copy.contentType copy.body copy.nowMs copy.randomId).2
  | .clear => ring.clear

def performAll (ring : StageRing) (calls : List StageCall) : StageRing := calls.foldl perform ring

theorem Holds.perform {ring : StageRing} {staged : List StagedClip} (h : ring.Holds staged)
    (call : StageCall) : (ring.perform call).Holds (call.history staged) := by
  cases call with
  | copy copy => exact h.push copy
  | clear => exact ⟨h.depth, rfl⟩

/-- A ring of default depth holds the last clips staged since the last clear. -/
theorem holds_performAll (calls : List StageCall) :
    (default.performAll calls).Holds (stagedSince calls) := by
  have hrun (ring : StageRing) (staged : List StagedClip) (h : ring.Holds staged) :
      (ring.performAll calls).Holds (calls.foldl StageCall.history staged) := by
    induction calls generalizing ring staged with
    | nil => exact h
    | cons call calls ih => exact ih _ _ (h.perform call)
  exact hrun default [] holds_default

/-- The ring holds nothing but clips that have been staged. -/
theorem performAll_items_subset (calls : List StageCall) :
    (default.performAll calls).items ⊆ stagedBy calls := by
  calc
    _ = (stagedSince calls).rtake stageDepth := (holds_performAll calls).items
    _ ⊆ stagedSince calls := (rtake_suffix _ _).subset
    _ ⊆ stagedBy calls := (stagedSince_sublist calls).subset

/-- A clip leaves the ring by a clear, or after as many newer ones as the ring is deep. -/
theorem cleared_or_evicted {before after : List StageCall} {offered : LocalCopy} {clip : StagedClip}
    (haccepted : offered.accepted = some clip)
    (hmem : clip ∉ (default.performAll (before ++ .copy offered :: after)).items) :
    .clear ∈ after ∨ stageDepth ≤ (stagedBy after).length := by
  by_cases hclear : .clear ∈ after
  · exact .inl hclear
  · have hsince : stagedSince (before ++ .copy offered :: after) =
        stagedSince before ++ clip :: stagedBy after := by
      rw [stagedSince_append, List.foldl_cons, StageCall.history, haccepted,
        (foldl_history _ _).1 hclear]
      simp
    rw [(holds_performAll _).items, hsince] at hmem
    exact .inr (le_length_of_not_mem_rtake hmem)

end StageRing

end AirClip
