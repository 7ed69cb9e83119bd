import AirClip.Core.Lifecycle
import Mathlib.Data.List.TakeWhile

/-!
# Transport drivers

A driver hands inbound frames to its session and carries out the batches of actions that come back.
This module says which batches there are, and what it means that a driver transmits everything it has
been handed: the frames of a batch are written, in order, before the driver waits for the next frame,
acts on a close or returns.
-/

open Foundation

namespace AirClip

/-! ## Batches -/

/-- The batches of actions a session returns. -/
inductive Batch : List SessionAction → Prop
  | silent : Batch []
  | refused (why : String) : Batch [.close why]
  | greeted (frame : Frame) (peer : DeviceId) : Batch [.send frame, .emit (.established peer)]
  | acknowledged (peer : DeviceId) : Batch [.emit (.established peer)]
  | event {event : SessionEvent} (hevent : ∀ peer, event ≠ .established peer) : Batch [.emit event]
  | reply (frame : Frame) : Batch [.send frame]
  | wireError (frame : Frame) (why : String) : Batch [.send frame, .close why]
  | clip (clipId : Octets 8) (contentType : ContentType) (body : Bytes) (sourceName : String)
      (createdAtMs : UInt64) (frame : Frame) :
      Batch [.emit (.clipArrived clipId contentType body sourceName createdAtMs), .send frame]
  | peerError (code : UInt16) (msg why : String) :
      Batch [.emit (.peerError code msg), .close why]

namespace Session

variable [Primitives]

variable [Ciborium]

theorem batch_wireError (session : Session) (code : WireErrorCode) (msg : String) :
    Batch (session.wireError code msg).2 := by
  unfold wireError
  dsimp only
  split
  · exact .refused _
  · split
    · exact .wireError _ _
    · exact .refused _

theorem batch_onClipPush (session : Session) (plain : Bytes) :
    Batch (session.onClipPush plain).2 := by
  unfold onClipPush
  repeat' split
  all_goals first
    | exact .refused _
    | exact session.batch_wireError _ _
    | exact .clip ..

/-- The answer to an opened frame is a batch. -/
theorem batch_onPlain (session : Session) (ty : FrameType) (plain : Bytes) :
    Batch (session.onPlain ty plain).2 := by
  cases ty with
  | clipPush => exact session.batch_onClipPush plain
  | clipAck =>
    change Batch (session.onClipAck plain).2
    unfold onClipAck
    repeat' split
    all_goals first | exact .refused _ | exact .event (by simp)
  | stageListReq => exact .event (by simp)
  | stageList =>
    change Batch (session.onStageList plain).2
    unfold onStageList
    repeat' split
    all_goals first | exact .refused _ | exact .event (by simp)
  | stageGet =>
    change Batch (session.onStageGet plain).2
    unfold onStageGet
    repeat' split
    all_goals first | exact .refused _ | exact .event (by simp)
  | stageItem =>
    change Batch (session.onStageItem plain).2
    unfold onStageItem
    repeat' split
    all_goals first | exact .refused _ | exact .event (by simp)
  | ping =>
    change Batch session.onPing.2
    unfold onPing
    split
    · exact .reply _
    · exact .refused _
  | pong => exact .silent
  | error => exact .peerError ..
  | hello | helloAck | pairReq | pairAck | pairConfirm => exact .refused _

theorem batch_onFrame {session : Session} (hcoherent : session.Coherent) (frame : Frame)
    (nowMs : UInt64) (seed : Option Key32) : Batch (session.onFrame frame nowMs seed).2 := by
  have hreception := onFrame_cases hcoherent frame nowMs seed
  generalize session.onFrame frame nowMs seed = result at hreception
  cases hreception with
  | refused _ why => exact .refused why
  | greeted => exact .greeted _ _
  | acknowledged => exact .acknowledged _
  | opened => exact batch_onPlain _ _ _

end Session

/-! ## Traces -/

/-- What a driver does. -/
inductive DriverEntry where
  /-- Wait for the next frame. -/
  | receiving
  /-- The session has returned these actions. -/
  | batch (actions : List SessionAction)
  | handled (event : SessionEvent)
  | wrote (frame : Frame)
  | closing
  | returned
deriving DecidableEq

/-- The driver is still carrying out the batch it has been handed. -/
def DriverEntry.carriesOn : DriverEntry → Bool
  | .handled _ | .wrote _ => true
  | _ => false

/-- The frames written before the driver stops carrying out a batch. -/
def writtenNext (trace : List DriverEntry) : List Frame :=
  (trace.takeWhile DriverEntry.carriesOn).filterMap fun
    | .wrote frame => some frame
    | _ => none

/-- The frames of every batch are written, in order, before the driver waits for the next frame, acts
on a close or returns. -/
def Flushed (trace : List DriverEntry) : Prop :=
  ∀ before actions after, trace = before ++ .batch actions :: after →
    (∃ entry ∈ after, entry.carriesOn = false) → (sentFrames actions).Sublist (writtenNext after)

/-- Flushed so far, and the frames the driver has still to write for the batch it is at. -/
structure Owes (trace : List DriverEntry) (frames : List Frame) : Prop where
  flushed : Flushed trace
  owed : ∀ before actions after, trace = before ++ .batch actions :: after →
    (∀ entry ∈ after, entry.carriesOn = true) →
      (sentFrames actions).Sublist (writtenNext after ++ frames)

/-- A batch of two traces in a row is one of the later or of the earlier. -/
theorem split_append {trace later before after : List DriverEntry} {actions : List SessionAction}
    (h : trace ++ later = before ++ .batch actions :: after) :
    (∃ before', before = trace ++ before' ∧ later = before' ++ .batch actions :: after) ∨
      ∃ after', after = after' ++ later ∧ trace = before ++ .batch actions :: after' := by
  obtain ⟨before', hbefore, hlater⟩ | ⟨tail, htrace, htail⟩ := List.append_eq_append_iff.mp h
  · exact .inl ⟨before', hbefore, hlater⟩
  · cases tail with
    | nil => exact .inl ⟨[], by simpa using htrace.symm, htail.symm⟩
    | cons entry tail =>
      obtain ⟨rfl, rfl⟩ := List.cons.inj htail
      exact .inr ⟨tail, rfl, htrace⟩

/-- A batch of a longer trace is the last entry or one of the shorter. -/
theorem split_snoc {trace before after : List DriverEntry} {entry : DriverEntry}
    {actions : List SessionAction} (h : trace ++ [entry] = before ++ .batch actions :: after) :
    (after = [] ∧ entry = .batch actions) ∨
      ∃ after', after = after' ++ [entry] ∧ trace = before ++ .batch actions :: after' := by
  obtain ⟨before', -, hlast⟩ | hearlier := split_append h
  · obtain ⟨rfl, hentry⟩ | ⟨-, hnil⟩ := List.singleton_eq_append_iff.mp hlast
    · obtain ⟨rfl, rfl⟩ := List.cons.inj hentry
      exact .inl ⟨rfl, rfl⟩
    · simp at hnil
  · exact .inr hearlier

theorem writtenNext_append {before : List DriverEntry} (after : List DriverEntry)
    (h : ∀ entry ∈ before, entry.carriesOn = true) :
    writtenNext (before ++ after) = writtenNext before ++ writtenNext after := by
  rw [writtenNext, writtenNext, writtenNext, List.takeWhile_append_of_pos h, List.filterMap_append,
    List.takeWhile_eq_self_iff.mpr h]

/-- What follows a stop does not count. -/
theorem writtenNext_stopped {before : List DriverEntry} (after : List DriverEntry)
    (h : ∃ entry ∈ before, entry.carriesOn = false) :
    writtenNext (before ++ after) = writtenNext before := by
  have htake : (before ++ after).takeWhile DriverEntry.carriesOn =
      before.takeWhile DriverEntry.carriesOn := by
    induction before with
    | nil => simp at h
    | cons entry before ih =>
      rw [List.cons_append, List.takeWhile_cons, List.takeWhile_cons]
      split_ifs with hentry
      · rw [ih]
        obtain ⟨stop, hmem, hstop⟩ := h
        obtain rfl | hmem := List.mem_cons.mp hmem
        · rw [hentry] at hstop
          cases hstop
        · exact ⟨stop, hmem, hstop⟩
      · rfl
  rw [writtenNext, htake, writtenNext]

/-- Every entry of a list carries on, or one does not. -/
theorem carriesOn_or (trace : List DriverEntry) :
    (∀ entry ∈ trace, entry.carriesOn = true) ∨ ∃ entry ∈ trace, entry.carriesOn = false := by
  by_cases h : ∀ entry ∈ trace, entry.carriesOn = true
  · exact .inl h
  · simp only [not_forall, Bool.not_eq_true] at h
    obtain ⟨entry, hmem, hentry⟩ := h
    exact .inr ⟨entry, hmem, hentry⟩

/-! ## Drivers that stop after every batch -/

/-- Every batch of the trace is followed by a stop. -/
def Stopped (trace : List DriverEntry) : Prop :=
  ∀ before actions after, trace = before ++ .batch actions :: after →
    ∃ entry ∈ after, entry.carriesOn = false

namespace Stopped

variable {trace later : List DriverEntry}

theorem append (h : Stopped trace) (hlater : Stopped later) : Stopped (trace ++ later) := by
  intro before actions after hsplit
  obtain ⟨before', -, hsplit'⟩ | ⟨after, rfl, hsplit'⟩ := split_append hsplit
  · exact hlater before' actions after hsplit'
  · obtain ⟨stop, hmem, hstop⟩ := h before actions after hsplit'
    exact ⟨stop, List.mem_append_left _ hmem, hstop⟩

/-- What follows a trace that has stopped makes no difference to it. -/
theorem flushed_append (h : Stopped trace) :
    Flushed (trace ++ later) ↔ Flushed trace ∧ Flushed later := by
  constructor
  · refine fun hflushed ↦ ⟨fun before actions after hsplit hstop ↦ ?_,
      fun before actions after hsplit hstop ↦ ?_⟩
    · rw [← writtenNext_stopped later hstop]
      obtain ⟨stop, hmem, hcarries⟩ := hstop
      exact hflushed before actions (after ++ later) (by rw [hsplit]; simp)
        ⟨stop, List.mem_append_left _ hmem, hcarries⟩
    · exact hflushed (trace ++ before) actions after (by rw [hsplit]; simp) hstop
  · rintro ⟨hflushed, hflushed'⟩ before actions after hsplit hstop
    obtain ⟨before', -, hsplit'⟩ | ⟨after, rfl, hsplit'⟩ := split_append hsplit
    · exact hflushed' before' actions after hsplit' hstop
    · have hstop' := h before actions after hsplit'
      rw [writtenNext_stopped _ hstop']
      exact hflushed before actions after hsplit' hstop'

/-- A trace without batches. -/
theorem of_not_batch (h : ∀ actions, .batch actions ∉ trace) : Stopped trace ∧ Flushed trace := by
  refine ⟨fun before actions after hsplit ↦ ?_, fun before actions after hsplit ↦ ?_⟩ <;>
    exact absurd (by rw [hsplit]; simp) (h actions)

/-- A batch that is dropped. -/
theorem dropped (actions : List SessionAction) {stop : DriverEntry} (hstop : stop.carriesOn = false)
    (hbatch : ∀ actions, stop ≠ .batch actions) :
    Stopped [.batch actions, stop] ∧
      (Flushed [.batch actions, stop] ↔ sentFrames actions = []) := by
  have hsplit {before after : List DriverEntry} {actions' : List SessionAction}
      (h : [.batch actions, stop] = before ++ .batch actions' :: after) :
      actions' = actions ∧ after = [stop] := by
    rcases before with - | ⟨first, - | ⟨second, before⟩⟩
    · cases h
      exact ⟨rfl, rfl⟩
    · cases h
      exact absurd rfl (hbatch actions')
    · cases before <;> cases h
  refine ⟨fun before actions' after h ↦ ?_, fun hflushed ↦ ?_, fun hnil before actions' after h _ ↦ ?_⟩
  · rw [(hsplit h).2]
    exact ⟨stop, List.mem_singleton_self _, hstop⟩
  · have hsent := hflushed [] actions [stop] rfl ⟨stop, List.mem_singleton_self _, hstop⟩
    rw [writtenNext, List.takeWhile_cons_of_neg (by simp [hstop])] at hsent
    exact List.sublist_nil.mp hsent
  · rw [(hsplit h).1, hnil]
    exact List.nil_sublist _

end Stopped

/-! ## Drivers that carry out a batch -/

namespace Owes

variable {trace : List DriverEntry} {frames : List Frame}

theorem start : Owes [] frames := by
  refine ⟨fun before actions after h ↦ ?_, fun before actions after h ↦ ?_⟩ <;> simp at h

/-- A driver that owes nothing may stop. -/
theorem flushed_snoc (h : Owes trace []) (entry : DriverEntry) :
    Flushed (trace ++ [entry]) := by
  rintro before actions after htrace hstop
  obtain ⟨rfl, -⟩ | ⟨after, rfl, hsplit⟩ := split_snoc htrace
  · simp at hstop
  obtain hall | hstop := carriesOn_or after
  · have howed := h.owed before actions after hsplit hall
    calc
      List.Sublist _ (writtenNext after ++ []) := howed
      List.Sublist _ (writtenNext after ++ writtenNext [entry]) :=
        (List.nil_sublist _).append_left _
      _ = writtenNext (after ++ [entry]) := (writtenNext_append _ hall).symm
  · rw [writtenNext_stopped _ hstop]
    exact h.flushed before actions after hsplit hstop

/-- Stop between two batches. -/
theorem stop (h : Owes trace []) {entry : DriverEntry} (hentry : entry.carriesOn = false)
    (hbatch : ∀ actions, entry ≠ .batch actions) : Owes (trace ++ [entry]) frames := by
  refine ⟨h.flushed_snoc entry, fun before actions after htrace hall ↦ ?_⟩
  obtain ⟨-, heq⟩ | ⟨after, rfl, -⟩ := split_snoc htrace
  · exact absurd heq (hbatch actions)
  · have hcarries := hall entry (by simp)
    rw [hentry] at hcarries
    cases hcarries

/-- Take a batch over. -/
theorem batch (h : Owes trace []) (actions : List SessionAction) :
    Owes (trace ++ [.batch actions]) (sentFrames actions) := by
  refine ⟨h.flushed_snoc _, fun before actions' after htrace hall ↦ ?_⟩
  obtain ⟨rfl, heq⟩ | ⟨after, rfl, -⟩ := split_snoc htrace
  · cases heq
    exact List.Sublist.refl _
  · have hcarries := hall (.batch actions) (by simp)
    cases hcarries

/-- Write a frame or handle an event. -/
theorem carry (h : Owes trace frames) {entry : DriverEntry} {frames' : List Frame}
    (hentry : entry.carriesOn = true) (hframes : frames.Sublist (writtenNext [entry] ++ frames')) :
    Owes (trace ++ [entry]) frames' := by
  refine ⟨fun before actions after htrace hstop ↦ ?_, fun before actions after htrace hall ↦ ?_⟩
  · obtain ⟨rfl, -⟩ | ⟨after, rfl, hsplit⟩ := split_snoc htrace
    · simp at hstop
    have hstop' : ∃ entry ∈ after, entry.carriesOn = false := by
      obtain ⟨stop, hmem, hstop⟩ := hstop
      obtain hmem | hmem := List.mem_append.mp hmem
      · exact ⟨stop, hmem, hstop⟩
      · rw [List.mem_singleton.mp hmem, hentry] at hstop
        cases hstop
    rw [writtenNext_stopped _ hstop']
    exact h.flushed before actions after hsplit hstop'
  · obtain ⟨rfl, rfl⟩ | ⟨after, rfl, hsplit⟩ := split_snoc htrace
    · cases hentry
    have hall' : ∀ entry ∈ after, entry.carriesOn = true :=
      fun other hmem ↦ hall other (List.mem_append_left _ hmem)
    calc
      List.Sublist _ (writtenNext after ++ frames) := h.owed before actions after hsplit hall'
      List.Sublist _ (writtenNext after ++ (writtenNext [entry] ++ frames')) :=
        hframes.append_left _
      _ = writtenNext (after ++ [entry]) ++ frames' := by
        rw [writtenNext_append _ hall', List.append_assoc]

theorem wrote {frame : Frame} (h : Owes trace (frame :: frames)) :
    Owes (trace ++ [.wrote frame]) frames := h.carry rfl (List.Sublist.refl _)

/-- A reply may go between the frames of a batch. -/
theorem reply (h : Owes trace frames) (frame : Frame) : Owes (trace ++ [.wrote frame]) frames :=
  h.carry rfl (List.sublist_cons_self _ _)

theorem handled (h : Owes trace frames) (event : SessionEvent) :
    Owes (trace ++ [.handled event]) frames := h.carry rfl (List.Sublist.refl _)

end Owes

end AirClip
