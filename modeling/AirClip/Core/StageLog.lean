import AirClip.Core.StageHistory
import AirClip.Foundation.Runs

/-!
# The ring as a bounded log

A ring of any depth refines the log of the clips it has accepted since it was cleared: its content is
the end of that log.  Everything that can be read from the ring is read from there.
-/

open Foundation

namespace AirClip

/-- A call that changes the ring. -/
inductive RingCall where
  | push (copy : LocalCopy)
  | pushWithId (stageId : Octets 8) (contentType : ContentType) (body : Bytes) (nowMs : UInt64)
  | clear
deriving DecidableEq

namespace RingCall

/-- The clip that the call stages, as it was offered. -/
def accepted : RingCall → Option StagedClip
  | .push copy => copy.accepted
  | .pushWithId stageId contentType body nowMs =>
    if maxTextClip < body.length then none else some ⟨stageId, contentType, body, nowMs⟩
  | .clear => none

theorem body_of_accepted {call : RingCall} {clip : StagedClip} (h : call.accepted = some clip) :
    clip.body.length ≤ maxTextClip := by
  cases call with
  | push copy => exact (LocalCopy.body_of_accepted h).2
  | pushWithId stageId contentType body nowMs =>
    rw [accepted] at h
    split_ifs at h with hlarge
    cases h
    exact not_lt.mp hlarge
  | clear => cases h

/-- What the call makes of the log. -/
def log (accepted : List StagedClip) : RingCall → List StagedClip
  | .clear => []
  | call => accepted ++ call.accepted.toList

end RingCall

/-- The clips accepted since the last clear, oldest first. -/
def acceptedSince (calls : List RingCall) : List StagedClip := calls.foldl RingCall.log []

/-- No oversize clip gets into the log. -/
theorem body_of_mem_acceptedSince {calls : List RingCall} {clip : StagedClip}
    (h : clip ∈ acceptedSince calls) : clip.body.length ≤ maxTextClip := by
  have hkept : ∀ log, ∀ call ∈ calls, (∀ clip ∈ log, clip.body.length ≤ maxTextClip) →
      ∀ clip ∈ RingCall.log log call, clip.body.length ≤ maxTextClip := by
    intro log call _ hlog
    have hgrown : ∀ clip ∈ log ++ call.accepted.toList, clip.body.length ≤ maxTextClip := by
      intro clip hmem
      obtain hearlier | hlast := List.mem_append.mp hmem
      · exact hlog clip hearlier
      · exact RingCall.body_of_accepted (Option.mem_toList.mp hlast)
    cases call with
    | push | pushWithId => exact hgrown
    | clear => simp [RingCall.log]
  exact foldl_invariant hkept (by simp) clip h

namespace StageRing

def call (ring : StageRing) : RingCall → StageRing
  | .push copy => (ring.push copy.contentType copy.body copy.nowMs copy.randomId).2
  | .pushWithId stageId contentType body nowMs =>
    (ring.pushWithId stageId contentType body nowMs).2
  | .clear => ring.clear

def callAll (ring : StageRing) (calls : List RingCall) : StageRing := calls.foldl call ring

/-- Staging under a given id is staging a copy that draws this id. -/
theorem pushWithId_eq_push (ring : StageRing) (stageId : Octets 8) (contentType : ContentType)
    (body : Bytes) (nowMs : UInt64) : (ring.pushWithId stageId contentType body nowMs).2 =
      (ring.push contentType body nowMs (some stageId)).2 := by
  by_cases hlarge : maxTextClip < body.length <;> simp [push, pushWithId, hlarge]

/-- The ring refines the log: a call keeps its content at the end of the log. -/
theorem call_items {ring : StageRing} {accepted : List StagedClip}
    (h : ring.items = accepted.rtake ring.depth) (call : RingCall) :
    (ring.call call).depth = ring.depth ∧
      (ring.call call).items = (call.log accepted).rtake ring.depth := by
  cases call with
  | push copy => exact ⟨(ring.push_items copy).1, push_rtake h copy⟩
  | pushWithId stageId contentType body nowMs =>
    let copy : LocalCopy := ⟨contentType, body, nowMs, some stageId⟩
    have hcopy : copy.accepted = (RingCall.pushWithId stageId contentType body nowMs).accepted := by
      rw [LocalCopy.accepted, RingCall.accepted, Option.map_some]
    rw [call, pushWithId_eq_push, RingCall.log, ← hcopy]
    · exact ⟨(ring.push_items copy).1, push_rtake h copy⟩
    · simp
  | clear => exact ⟨rfl, (List.rtake_nil _).symm⟩

theorem callAll_items (depth : ℕ) (calls : List RingCall) :
    ((new depth).callAll calls).depth = max depth 1 ∧
      ((new depth).callAll calls).items = (acceptedSince calls).rtake (max depth 1) := by
  have hrun (ring : StageRing) (accepted : List StagedClip)
      (h : ring.items = accepted.rtake ring.depth) :
      (ring.callAll calls).depth = ring.depth ∧
        (ring.callAll calls).items = (calls.foldl RingCall.log accepted).rtake ring.depth := by
    induction calls generalizing ring accepted with
    | nil => exact ⟨rfl, h⟩
    | cons call calls ih =>
      obtain ⟨hdepth, hitems⟩ := call_items h call
      rw [← hdepth] at hitems ⊢
      exact ih _ _ hitems
  exact hrun (new depth) [] (List.rtake_nil _).symm

/-! ## What the ring answers -/

/-- A call returns normally exactly if the clip is accepted, and then under its id. -/
theorem push_ok_iff (ring : StageRing) (copy : LocalCopy) :
    (ring.push copy.contentType copy.body copy.nowMs copy.randomId).1.toOption =
      copy.accepted.map StagedClip.stageId := by
  unfold push LocalCopy.accepted
  split_ifs with hlarge
  · rfl
  · cases copy.randomId with
    | none => rfl
    | some stageId => simp [pushWithId, hlarge, Except.toOption]

/-- An oversize clip is refused, and the ring is left exactly as it was. -/
theorem push_oversize (ring : StageRing) {body : Bytes} (hlarge : maxTextClip < body.length)
    (contentType : ContentType) (nowMs : UInt64) :
    (∀ randomId, ring.push contentType body nowMs randomId =
      (.error (.frameTooLarge (UInt32.ofNat body.length)), ring)) ∧
    ∀ stageId, ring.pushWithId stageId contentType body nowMs =
      (.error (.frameTooLarge (UInt32.ofNat body.length)), ring) :=
  ⟨fun _ ↦ if_pos hlarge, fun _ ↦ if_pos hlarge⟩

/-- Among clips with distinct ids, exactly those in the ring are found, each under its id. -/
theorem get_eq_some_iff {ring : StageRing} (hids : (ring.items.map StagedClip.stageId).Nodup)
    {stageId : Octets 8} {clip : StagedClip} :
    ring.get stageId = some clip ↔ clip ∈ ring.items ∧ clip.stageId = stageId := by
  constructor
  · intro hget
    exact ⟨List.mem_of_find?_eq_some hget, by simpa using List.find?_some hget⟩
  · rintro ⟨hmem, rfl⟩
    obtain hget | ⟨-, habsent⟩ := get_cases (List.Subset.refl ring.items) hids hmem
    · exact hget
    · exact absurd hmem habsent

/-- The newest clip of the ring is the last of the log. -/
theorem newest_eq {ring : StageRing} {accepted : List StagedClip}
    (h : ring.items = accepted.rtake ring.depth) : ring.newest = accepted.getLast? := by
  have hdepth := ring.depth_pos
  rw [newest, h, List.rtake, List.getLast?_drop]
  split_ifs with hempty
  · rw [List.eq_nil_of_length_eq_zero (by omega : accepted.length = 0)]
    rfl
  · rfl

/-- A ring of any depth refines the bounded log, after any calls: its content is the end of what has
been accepted since the last clear, oldest first, and what it lists, finds and reports as newest is
read from that content.  A copy that is refused leaves it alone. -/
theorem ring_refines_log (depth : ℕ) (calls : List RingCall) :
    let ring := (new depth).callAll calls
    ring.items = (acceptedSince calls).rtake (max depth 1) ∧
    ring.list = ring.items.reverse.map (fun clip ↦ ⟨clip.stageId, clip.contentType,
      previewOf clip.body, UInt32.ofNat clip.body.length, clip.copiedAtMs⟩) ∧
    ring.newest = (acceptedSince calls).getLast? ∧
    ((ring.items.map StagedClip.stageId).Nodup → ∀ stageId clip,
      ring.get stageId = some clip ↔ clip ∈ ring.items ∧ clip.stageId = stageId) ∧
    (∀ copy : LocalCopy, (ring.push copy.contentType copy.body copy.nowMs copy.randomId).1.toOption =
      copy.accepted.map StagedClip.stageId) ∧
    ∀ contentType body nowMs, maxTextClip < body.length →
      (∀ randomId, ring.push contentType body nowMs randomId =
        (.error (.frameTooLarge (UInt32.ofNat body.length)), ring)) ∧
      ∀ stageId, ring.pushWithId stageId contentType body nowMs =
        (.error (.frameTooLarge (UInt32.ofNat body.length)), ring) := by
  intro ring
  obtain ⟨hdepth, hitems⟩ := callAll_items depth calls
  refine ⟨hitems, rfl, ?_, fun hids stageId clip ↦ get_eq_some_iff hids, ring.push_ok_iff,
    fun contentType body nowMs hlarge ↦ ring.push_oversize hlarge contentType nowMs⟩
  apply newest_eq
  rw [hdepth]
  exact hitems

def clipOf (id : UInt8) : StagedClip := ⟨⟨List.replicate 8 id, rfl⟩, .text, [id], 0⟩

def threeClips : List RingCall :=
  [1, 2, 3].map fun id ↦ .pushWithId (clipOf id).stageId .text [id] 0

/-- The third of three clips replaces the first in a ring of depth two, and a clip that is one byte too
large replaces none. -/
theorem ring_refines_log_three_clips :
    let ring := (new 2).callAll threeClips
    ring.items = [clipOf 2, clipOf 3] ∧ ring.newest = some (clipOf 3) ∧
      ring.get (clipOf 2).stageId = some (clipOf 2) ∧
      (ring.push .text (List.replicate 262145 0) 0 none).2 = ring := by
  intro ring
  obtain ⟨hitems, -, hnewest, hget, -, hoversize⟩ := ring_refines_log 2 threeClips
  have hcontent : ring.items = [clipOf 2, clipOf 3] := hitems.trans (by decide)
  have hids : (ring.items.map StagedClip.stageId).Nodup := by
    rw [hcontent]
    decide
  refine ⟨hcontent, hnewest.trans (by decide), (hget hids _ _).mpr ⟨?_, rfl⟩, ?_⟩
  · rw [hcontent]
    exact List.mem_cons_self
  · have hlarge : maxTextClip < (List.replicate 262145 (0 : UInt8)).length := by
      rw [List.length_replicate]
      decide
    rw [(hoversize .text _ 0 hlarge).1 none]

end StageRing

end AirClip
