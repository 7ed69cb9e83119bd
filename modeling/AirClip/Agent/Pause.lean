import AirClip.Traffic.StagedPull

/-!
# Pausing and staged clips

The agent as a whole: local copies are staged, the tray sets the pause flag, and any number of sessions
run their loops on the shared state.  Setting the pause flag leaves the staged clips alone, so a clip
staged before a pause is handed out after it as long as the ring holds it.
-/

open Foundation

namespace AirClip

/-- The shared state that the loops of sessions read: the staged clips and the pause flag. -/
structure AgentState where
  stage : StageRing
  paused : Bool

section Serving

variable [Primitives] [Ciborium] {ι : Type} [DecidableEq ι]

/-- The agent at work: its shared state, and the loops of its sessions.  Between reading the pause flag and
calling its session, a loop has the value it has read. -/
structure Serving (ι : Type) extends AgentState where
  tasks : ι → Option SessionTask
  flags : ι → Option Bool

/-- What happens to the serving. -/
inductive ServingInput (ι : Type) where
  /-- A local copy is to be staged. -/
  | copy (offered : LocalCopy)
  /-- The tray command. -/
  | setPaused (paused : Bool)
  /-- A connection is accepted and its first frame opens a session. -/
  | connect (connection : ι) (identity : IdentityKeypair) (peerKeys : List PeerKey) (nowMs : UInt64)
      (first : Frame)
  /-- The loop of a session reads the pause flag for the frame it has received. -/
  | readPaused (connection : ι)
  /-- The loop of a session goes on. -/
  | onFrame (connection : ι) (nowMs : UInt64) (seed : Option Key32)
  | act (connection : ι) (works : Bool)
  | next (connection : ι) (inbound : Inbound)

/-- The clips that are staged by some inputs, whatever becomes of them, oldest first. -/
def stagedCopies (inputs : List (ServingInput ι)) : List StagedClip :=
  inputs.filterMap fun
    | .copy offered => offered.accepted
    | _ => none

namespace Serving

def start : Serving ι :=
  { stage := .default, paused := false, tasks := fun _ ↦ none, flags := fun _ ↦ none }

/-- The loop of one session takes a step. -/
def drive (serving : Serving ι) (connection : ι) (input : SessionTask.Input) : Serving ι :=
  { serving with
    tasks := Function.update serving.tasks connection
      ((serving.tasks connection).map fun task ↦ task.step input) }

def step (serving : Serving ι) : ServingInput ι → Serving ι
  | .copy offered => { serving with
      stage := (serving.stage.push offered.contentType offered.body offered.nowMs offered.randomId).2 }
  | .setPaused paused => { serving with paused }
  | .connect connection identity peerKeys nowMs first =>
    match serving.tasks connection with
    | some _ => serving
    | none => { serving with
        tasks := Function.update serving.tasks connection
          (some (SessionTask.start identity peerKeys nowMs serving.paused first)) }
  | .readPaused connection =>
    match (serving.tasks connection).map SessionTask.phase, serving.flags connection with
    | some (.received _), none => { serving with
        flags := Function.update serving.flags connection (some serving.paused) }
    | _, _ => serving
  | .onFrame connection nowMs seed =>
    match serving.flags connection with
    | some paused =>
      { serving with flags := Function.update serving.flags connection none }.drive connection
        (.onFrame paused nowMs seed)
    | none => serving
  | .act connection works => serving.drive connection (.act serving.stage works)
  | .next connection inbound => serving.drive connection (.next inbound)

def run (serving : Serving ι) (inputs : List (ServingInput ι)) : Serving ι := inputs.foldl step serving

/-- The event that a step of the agent handles. -/
def handling (serving : Serving ι) : ServingInput ι → Option SessionEvent
  | .act connection _ =>
    match (serving.tasks connection).map SessionTask.phase with
    | some (.acting (.emit event :: _)) => some event
    | _ => none
  | _ => none

/-! ## What the agent hands out -/

/-- The ring holds the last clips staged. -/
theorem step_holds {serving : Serving ι} {staged : List StagedClip} (h : serving.stage.Holds staged)
    (input : ServingInput ι) : (serving.step input).stage.Holds (staged ++ stagedCopies [input]) := by
  cases input with
  | copy offered =>
    have hpush := h.push offered
    cases haccepted : offered.accepted <;> rw [haccepted] at hpush <;>
      simpa [step, stagedCopies, haccepted] using hpush
  | connect connection =>
    rw [step]
    split <;> simpa [stagedCopies] using h
  | readPaused connection | onFrame connection =>
    rw [step]
    split <;> simpa [drive, stagedCopies] using h
  | setPaused | act | next => simpa [step, drive, stagedCopies] using h

theorem run_holds (inputs : List (ServingInput ι)) :
    (start.run inputs).stage.Holds (stagedCopies inputs) := by
  have hrun (serving : Serving ι) (staged : List StagedClip) (h : serving.stage.Holds staged) :
      (serving.run inputs).stage.Holds (staged ++ stagedCopies inputs) := by
    induction inputs generalizing serving staged with
    | nil => simpa [run, stagedCopies] using h
    | cons input inputs ih =>
      have hlater := ih _ _ (step_holds h input)
      rw [List.append_assoc, stagedCopies, stagedCopies, ← List.filterMap_append] at hlater
      exact hlater
  simpa using hrun start [] StageRing.holds_default

end Serving

/-- The clips in the ring, each with its place among all staged so far. -/
def heldCopies (staged : List StagedClip) : List (StagedClip × ℕ) := staged.zipIdx.rtake stageDepth

/-- The clips that the answer to a request hands out, newest first. -/
def handedOut (staged : List StagedClip) : SessionEvent → List (StagedClip × ℕ)
  | .stageListRequested => (heldCopies staged).reverse
  | .stageItemRequested stageId =>
    ((heldCopies staged).find? fun copy ↦ decide (copy.1.stageId = stageId)).toList
  | _ => []

/-- The answer that hands out some clips. -/
def answerOf (copies : List (StagedClip × ℕ)) : SessionEvent → Option Message
  | .stageListRequested => some (.stageList (copies.map fun copy ↦ copy.1.row))
  | .stageItemRequested _ =>
    some (match copies with
      | [] => .stageList []
      | copy :: _ => .stageItem copy.1)
  | _ => none

omit [Primitives] [Ciborium] in
theorem map_heldCopies (staged : List StagedClip) :
    (heldCopies staged).map Prod.fst = staged.rtake stageDepth := by
  rw [heldCopies, map_rtake, List.zipIdx_map_fst]

omit [Primitives] [Ciborium] in
/-- The ring answers with what it hands out. -/
theorem answer_eq_answerOf {stage : StageRing} {staged : List StagedClip} (h : stage.Holds staged)
    (event : SessionEvent) : stage.answer event = answerOf (handedOut staged event) event := by
  have hitems : stage.items = (heldCopies staged).map Prod.fst := by
    rw [h.items, map_heldCopies]
  cases event with
  | stageListRequested =>
    rw [StageRing.answer, answerOf, handedOut, StageRing.list, hitems, ← List.map_reverse,
      List.map_map]
    rfl
  | stageItemRequested stageId =>
    have hget : stage.get stageId = ((heldCopies staged).find? fun copy ↦
        decide (copy.1.stageId = stageId)).map Prod.fst := by
      rw [StageRing.get, hitems, List.find?_map]
      rfl
    simp only [StageRing.answer, answerOf, handedOut, hget]
    generalize (heldCopies staged).find? _ = found
    cases found <;> rfl
  | established | clipArrived | clipAcked | stageList | stageItem | peerError => rfl

/-! ## What a pause leaves staged -/

/-- The clips staged before a pause that are still held after some more. -/
def stillHeld (before since : List StagedClip) : List StagedClip :=
  before.rtake (stageDepth - since.length)

omit [Primitives] [Ciborium] in
/-- Exactly the clips staged before and still held may be handed out with those staged since. -/
theorem handedOut_since_iff (before since : List StagedClip) (event : SessionEvent) :
    (∀ copy ∈ handedOut (before ++ since) event, before.length ≤ copy.2) ↔
      (event = .stageListRequested → stillHeld before since = []) ∧
      ∀ stageId, event = .stageItemRequested stageId →
        ∀ clip ∈ stillHeld before since, clip.stageId ≠ stageId := by
  have hheld : heldCopies (before ++ since) =
      before.zipIdx.rtake (stageDepth - since.length) ++
        (since.zipIdx before.length).rtake stageDepth := by
    rw [heldCopies, List.zipIdx_append, rtake_append, List.length_zipIdx, Nat.zero_add]
  have hold {copy : StagedClip × ℕ} (hmem : copy ∈ before.zipIdx.rtake (stageDepth - since.length)) :
      ¬ before.length ≤ copy.2 := by
    have hcopy := (rtake_suffix _ _).subset hmem
    have hlt := List.snd_lt_of_mem_zipIdx hcopy
    omega
  have hnew {copy : StagedClip × ℕ} (hmem : copy ∈ (since.zipIdx before.length).rtake stageDepth) :
      before.length ≤ copy.2 :=
    List.le_snd_of_mem_zipIdx ((rtake_suffix _ _).subset hmem)
  have hstill : stillHeld before since =
      (before.zipIdx.rtake (stageDepth - since.length)).map Prod.fst := by
    rw [stillHeld, map_rtake, List.zipIdx_map_fst]
  generalize before.zipIdx.rtake (stageDepth - since.length) = old at hheld hold hstill
  generalize (since.zipIdx before.length).rtake stageDepth = new at hheld hnew
  cases event with
  | stageListRequested =>
    simp only [handedOut, hheld, hstill, List.mem_reverse, List.mem_append, forall_const,
      reduceCtorEq, false_implies, and_true, List.map_eq_nil_iff]
    constructor
    · refine fun hall ↦ List.eq_nil_iff_forall_not_mem.mpr fun copy hmem ↦ ?_
      exact hold hmem (hall copy (.inl hmem))
    · rintro rfl copy (hmem | hmem)
      · simp at hmem
      · exact hnew hmem
  | stageItemRequested stageId =>
    simp only [handedOut, hheld, hstill, List.find?_append, reduceCtorEq, false_implies, true_and,
      SessionEvent.stageItemRequested.injEq, forall_eq', Option.mem_toList]
    rcases hfind : old.find? (fun copy ↦ decide (copy.1.stageId = stageId)) with - | found
    · rw [hfind, Option.none_or]
      refine iff_of_true (fun copy hmem ↦ hnew (List.mem_of_find?_eq_some hmem)) fun clip hmem ↦ ?_
      obtain ⟨copy, hcopy, rfl⟩ := List.mem_map.mp hmem
      simpa using List.find?_eq_none.mp hfind copy hcopy
    · have hmem := List.mem_of_find?_eq_some hfind
      have hid : found.1.stageId = stageId := by simpa using List.find?_some hfind
      rw [hfind, Option.some_or]
      exact iff_of_false (fun hall ↦ hold hmem (hall found rfl))
        fun hall ↦ hall found.1 (List.mem_map_of_mem hmem) hid
  | established | clipArrived | clipAcked | stageList | stageItem | peerError => simp [handedOut]

/-! ## Runs -/

omit [Ciborium] [DecidableEq ι] in
theorem stagedCopies_append (inputs later : List (ServingInput ι)) :
    stagedCopies (inputs ++ later) = stagedCopies inputs ++ stagedCopies later :=
  List.filterMap_append ..

/-- No clip that was staged before the pause flag was set is handed out after it. -/
def Forgets (inputs : List (ServingInput ι)) : Prop :=
  ∀ before since input after event,
    inputs = before ++ .setPaused true :: (since ++ input :: after) →
    (Serving.start.run (before ++ .setPaused true :: since)).handling input = some event →
      ∀ copy ∈ handedOut (stagedCopies (before ++ .setPaused true :: since)) event,
        (stagedCopies before).length ≤ copy.2

/-- The answer to every request, in every run, is sealed from the clips it hands out.  A pause forgets
what was staged exactly if no list is requested while the ring still holds a clip staged before, and no
clip under the id of one. -/
theorem pause_forgets_iff :
    (∀ (inputs : List (ServingInput ι)) event message,
      answerOf (handedOut (stagedCopies inputs) event) event = some message →
        ∀ session connectedId, handleEvent event session (Serving.start.run inputs).stage connectedId =
          ⟨(session.transmit message).1.map some, (session.transmit message).2, connectedId, []⟩) ∧
    ∀ inputs : List (ServingInput ι), Forgets inputs ↔
      ∀ before since input after event,
        inputs = before ++ .setPaused true :: (since ++ input :: after) →
        (Serving.start.run (before ++ .setPaused true :: since)).handling input = some event →
          (event = .stageListRequested → stillHeld (stagedCopies before) (stagedCopies since) = []) ∧
          ∀ stageId, event = .stageItemRequested stageId →
            ∀ clip ∈ stillHeld (stagedCopies before) (stagedCopies since), clip.stageId ≠ stageId := by
  constructor
  · intro inputs event message hanswer session connectedId
    rw [← answer_eq_answerOf (Serving.run_holds inputs)] at hanswer
    exact handleEvent_answer hanswer session connectedId
  · intro inputs
    have hstaged (before since : List (ServingInput ι)) :
        stagedCopies (before ++ .setPaused true :: since) =
          stagedCopies before ++ stagedCopies since := stagedCopies_append _ _
    unfold Forgets
    refine forall_congr' fun before ↦ forall_congr' fun since ↦ forall_congr' fun input ↦
      forall_congr' fun after ↦ forall_congr' fun event ↦ imp_congr_right fun _ ↦
        imp_congr_right fun _ ↦ ?_
    rw [hstaged]
    exact handedOut_since_iff _ _ event

end Serving

namespace Reference

/-- The phone asks for the staged clips. -/
def listRequest : Frame := frameOf phoneSession.requestStageList

/-- A text is copied, and the phone opens its session. -/
def copied : List (ServingInput Unit) :=
  [.copy ⟨.text, [104], 7, some (pad 8 [1])⟩, .connect () pcIdentity [phonePeer] 0 helloFrame,
    .readPaused (), .onFrame () 0 (some (pad 32 [11])), .act () true, .act () true]

/-- The phone lists the staged clips. -/
def listed : List (ServingInput Unit) :=
  [.next () (.frame listRequest), .readPaused (), .onFrame () 0 none, .act () true]

/-- The frames the session has written. -/
def writtenFrames (inputs : List (ServingInput Unit)) : List Frame :=
  (((Serving.start.run inputs).tasks ()).map SessionTask.trace).getD [] |>.filterMap fun
    | .wrote frame => some frame
    | _ => none

end Reference

open Reference in
/-- What is copied after the pause may be listed. -/
theorem pause_forgets_iff_copied_after : Forgets (.setPaused true :: (copied ++ listed)) := by
  apply (pause_forgets_iff.2 _).mpr
  intro before since input after event hsplit _
  rcases before with - | ⟨first, before⟩
  · have hnone : stillHeld (stagedCopies (ι := Unit) []) (stagedCopies since) = [] := List.rtake_nil _
    rw [hnone]
    simp
  · have hmem : .setPaused true ∈ copied ++ listed := by
      rw [(List.cons.inj hsplit).2]
      simp
    simp [copied, listed] at hmem

open Reference in
/-- While the computer is paused, the phone gets a list with the clip staged before. -/
theorem staged_before_pause_listed :
    let inputs := copied ++ .setPaused true :: listed
    (Serving.start.run inputs).paused = true ∧
      (writtenFrames inputs).getLast?.map
          (fun reply ↦ (phoneSession.requestStageList.2.onFrame reply 0 none).2) =
        some [.emit (.stageList [⟨pad 8 [1], .text, "h", 1, 7⟩])] ∧
      ¬ Forgets inputs := by
  refine ⟨by decide +kernel, by decide +kernel, fun hforgets ↦ ?_⟩
  have hhanded := hforgets copied [.next () (.frame listRequest), .readPaused (), .onFrame () 0 none]
    (.act () true) [] .stageListRequested rfl (by decide +kernel)
    (⟨pad 8 [1], .text, [104], 7⟩, 0) (by decide +kernel)
  exact absurd hhanded (by decide +kernel)

end AirClip
