import AirClip.Agent.SessionServer
import AirClip.Core.Nonces

/-!
# Connection status of the agent

The agent shows a peer as connected from `PeerConnected` on until `PeerDisconnected`.  The loop of a
session reports a disconnect on a close, at the end of the stream and on the idle timeout, but not when
it leaves through an error.  So the status is balanced on its return in exactly the runs that do not
leave through an error after the connect has been reported.
-/

open Foundation

namespace AirClip

/-- The events that change the status of the connection. -/
def connectionEvents (events : List AgentEvent) : List AgentEvent :=
  events.filter fun
    | .peerConnected _ | .peerDisconnected _ => true
    | _ => false

/-- No connect is reported, or one and then the disconnect of the same device. -/
def Balanced (events : List AgentEvent) : Prop :=
  connectionEvents events = [] ∨
    ∃ id, connectionEvents events = [.peerConnected id, .peerDisconnected id]

/-- The peers a batch of actions still has to report as established. -/
def establishedPeers (actions : List SessionAction) : List DeviceId :=
  (emittedEvents actions).filterMap fun
    | .established peer => some peer
    | _ => none

theorem connectionEvents_append (left right : List AgentEvent) :
    connectionEvents (left ++ right) = connectionEvents left ++ connectionEvents right :=
  List.filter_append ..

section Status

variable [Primitives]

namespace SessionTask

/-! ## The invariant of the loop -/

/-- The peers the loop has still to report as established. -/
def announced (task : SessionTask) : List DeviceId :=
  match task.phase with
  | .acting actions => establishedPeers actions
  | _ => []

/-- At most one connect is reported or still to be reported, and none before the handshake.  The
status is that of the connected device, or the loop has returned and the status is balanced. -/
structure Inv (task : SessionTask) : Prop where
  coherent : task.session.Coherent
  before : task.session.Begun ∨ task.announced = [] ∧ task.connectedId = none
  once : task.announced.length + task.connectedId.toList.length ≤ 1
  status : connectionEvents task.events = (task.connectedId.map AgentEvent.peerConnected).toList ∨
    (∃ ok, task.phase = .returned ok) ∧ task.connectedId = none ∧ Balanced task.events

variable {task : SessionTask}

/-- While the loop goes on, the status is that of the connected device. -/
theorem Inv.status_running (h : task.Inv) (hphase : ∀ ok, task.phase ≠ .returned ok) :
    connectionEvents task.events = (task.connectedId.map AgentEvent.peerConnected).toList :=
  h.status.resolve_right fun ⟨⟨ok, hreturned⟩, _⟩ ↦ hphase ok hreturned

/-- Leaving the loop through an error changes no event. -/
theorem Inv.leave (h : task.Inv) (ok : Bool) (hphase : ∀ ok, task.phase ≠ .returned ok) :
    (task.leave ok).Inv where
  coherent := h.coherent
  before := h.before.imp_right fun ⟨_, hid⟩ ↦ ⟨rfl, hid⟩
  once := (Nat.add_le_add_right (Nat.zero_le _) _).trans h.once
  status := .inl (h.status_running hphase)

/-- Leaving it in order reports the disconnect of the connected device. -/
theorem Inv.disconnect (h : task.Inv) (hphase : ∀ ok, task.phase ≠ .returned ok) :
    task.disconnect.Inv where
  coherent := h.coherent
  before := h.before.imp_right fun _ ↦ ⟨rfl, rfl⟩
  once := Nat.zero_le 1
  status := by
    have hstatus := h.status_running hphase
    refine .inr ⟨⟨true, rfl⟩, rfl, ?_⟩
    change Balanced (task.events ++ _)
    rw [Balanced, connectionEvents_append, hstatus]
    cases task.connectedId with
    | none => exact .inl rfl
    | some id => exact .inr ⟨id, rfl⟩

theorem Inv.note (h : task.Inv) (entry : DriverEntry) : (task.note entry).Inv := ⟨h.1, h.2, h.3, h.4⟩

/-- The rest of a batch without establishment. -/
theorem Inv.sent (h : task.Inv) {frame : Frame} {rest : List SessionAction}
    (hphase : task.phase = .acting (.send frame :: rest)) :
    Inv { task with phase := .acting rest } := by
  have hannounced : task.announced = establishedPeers rest := by
    rw [announced, hphase]
    rfl
  have hstatus := h.status_running (by simp [hphase])
  refine ⟨h.coherent, ?_, ?_, .inl hstatus⟩
  · have hbefore := h.before
    rwa [hannounced] at hbefore
  · have honce := h.once
    rwa [hannounced] at honce

/-- A session that has not begun waits for its handshake. -/
theorem begun_or_waiting {session : Session} (hcoherent : session.Coherent) :
    session.Begun ∨ ¬ session.Begun ∧ session.channel = none := by
  rcases hstate : session.state with - | - | - | -
  · exact .inr ⟨by simp [Session.Begun, hstate], hcoherent.channel_none (.inr hstate)⟩
  · exact .inr ⟨by simp [Session.Begun, hstate], hcoherent.channel_none (.inl hstate)⟩
  · exact .inl (.inl hstate)
  · exact .inl (.inr hstate)

end SessionTask

variable [Ciborium]

/-! ## One event -/

theorem sealMap_answers {session : Session} (hcoherent : session.Coherent) (ty : FrameType)
    (builder : MapBuilder) (hencrypted : ty.isEncrypted) :
    (session.sealMap ty builder).2.Coherent ∧
      (session.sealMap ty builder).2.state = session.state := by
  have houtbound := session.outbound_sealMap ty builder hencrypted
  have hsession : (Session.returned (session.sealMap ty builder)).1 =
      (session.sealMap ty builder).2 := by
    generalize session.sealMap ty builder = result
    obtain ⟨failure | frame, later⟩ := result <;> rfl
  have hlater := hcoherent.outbound houtbound
  have hstate := congrArg Session.state houtbound.unchanged
  rw [hsession] at hlater hstate
  exact ⟨hlater, hstate⟩

/-- Handling an event keeps the session in its state. -/
theorem handleEvent_session {session : Session} (hcoherent : session.Coherent) (event : SessionEvent)
    (stage : StageRing) (connectedId : Option String) :
    (handleEvent event session stage connectedId).session.Coherent ∧
      (handleEvent event session stage connectedId).session.state = session.state := by
  cases event with
  | stageListRequested => exact sealMap_answers hcoherent _ _ rfl
  | stageItemRequested stageId =>
    unfold handleEvent
    dsimp only
    split
    · exact sealMap_answers hcoherent _ _ rfl
    · exact sealMap_answers hcoherent _ _ rfl
  | _ => exact ⟨hcoherent, rfl⟩

/-- Establishment reports the connect; no other event touches the status, and none of the events that
do is answered by a frame. -/
theorem handleEvent_status (event : SessionEvent) (session : Session) (stage : StageRing)
    (connectedId : Option String) :
    (∃ peer, event = .established peer ∧
      handleEvent event session stage connectedId =
        ⟨.ok none, session, some peer.hex, [.peerConnected peer.hex]⟩) ∨
    (∀ peer, event ≠ .established peer) ∧
      (handleEvent event session stage connectedId).connectedId = connectedId ∧
      connectionEvents (handleEvent event session stage connectedId).events = [] := by
  cases event with
  | established peer => exact .inl ⟨peer, rfl, rfl⟩
  | _ => exact .inr ⟨by simp, rfl, rfl⟩

/-- An event that is to be answered does not touch the status. -/
theorem handleEvent_answered {event : SessionEvent} {session : Session} {stage : StageRing}
    {connectedId : Option String}
    (h : (handleEvent event session stage connectedId).reply ≠ .ok none) :
    (handleEvent event session stage connectedId).connectedId = connectedId := by
  obtain ⟨peer, rfl, heq⟩ | ⟨-, hid, -⟩ := handleEvent_status event session stage connectedId
  · rw [heq] at h
    exact absurd rfl h
  · exact hid

namespace SessionTask

theorem inv_start (identity : IdentityKeypair) (peerKeys : List PeerKey) (nowMs : UInt64)
    (paused : Bool) (first : Frame) : (start identity peerKeys nowMs paused first).Inv where
  coherent := (Session.newPc_coherent identity peerKeys nowMs).perform (.setPaused paused)
  before := .inr ⟨rfl, rfl⟩
  once := Nat.zero_le 1
  status := .inl rfl

variable {task : SessionTask}

/-- The session gets a frame: it may establish only once. -/
theorem Inv.onFrame (h : task.Inv) {frame : Frame} (hphase : task.phase = .received frame)
    (paused : Bool) (nowMs : UInt64) (seed : Option Key32) :
    (task.onFrame frame paused nowMs seed).Inv := by
  have hrunning : ∀ ok, task.phase ≠ .returned ok := by simp [hphase]
  have hstatus := h.status_running hrunning
  have hcoherent : (task.session.setPaused paused).Coherent := h.coherent.perform (.setPaused paused)
  have hlater := hcoherent.perform (.onFrame frame nowMs seed)
  have hannounced : (task.onFrame frame paused nowMs seed).announced =
      establishedPeers ((task.session.setPaused paused).batch (.onFrame frame nowMs seed)) := rfl
  have honce := h.once
  obtain hbegun | ⟨hwaiting, hchannel⟩ := begun_or_waiting hcoherent
  · obtain ⟨hbegun', hnone⟩ := Session.perform_begun hcoherent hbegun (.onFrame frame nowMs seed)
    have hempty : (task.onFrame frame paused nowMs seed).announced = [] := by
      apply List.filterMap_eq_nil_iff.mpr
      intro event hmem
      cases event with
      | established peer => exact absurd hmem (hnone peer)
      | _ => rfl
    refine ⟨hlater, .inl hbegun', ?_, .inl hstatus⟩
    rw [hempty]
    exact (Nat.add_le_add_right (Nat.zero_le _) _).trans honce
  · have hid : task.connectedId = none := (h.before.resolve_left hwaiting).2
    have hstate : (task.session.setPaused paused).state ≠ .established := fun h ↦ hwaiting (.inl h)
    obtain ⟨hnone, -, -⟩ | ⟨peer, hone, hstate'⟩ :=
      Session.perform_before hcoherent hstate hchannel (.onFrame frame nowMs seed)
    · have hempty : (task.onFrame frame paused nowMs seed).announced = [] := by
        rw [hannounced, establishedPeers, hnone]
        rfl
      refine ⟨hlater, .inr ⟨hempty, hid⟩, ?_, .inl hstatus⟩
      rw [hempty]
      exact (Nat.add_le_add_right (Nat.zero_le _) _).trans honce
    · have hsingle : (task.onFrame frame paused nowMs seed).announced = [peer] := by
        rw [hannounced, establishedPeers, hone]
        rfl
      refine ⟨hlater, .inl (.inl hstate'), ?_, .inl hstatus⟩
      rw [hsingle, show (task.onFrame frame paused nowMs seed).connectedId = none from hid]
      exact le_refl 1

/-- An event is handled. -/
theorem Inv.onEvent (h : task.Inv) {event : SessionEvent} {rest : List SessionAction}
    (hphase : task.phase = .acting (.emit event :: rest)) (stage : StageRing) :
    (task.onEvent event stage rest).Inv := by
  have hrunning : ∀ ok, task.phase ≠ .returned ok := by simp [hphase]
  have hstatus := h.status_running hrunning
  obtain ⟨hcoherent, hstate⟩ := handleEvent_session h.coherent event stage task.connectedId
  have hannounced : task.announced = establishedPeers (.emit event :: rest) := by
    rw [announced, hphase]
  have hevents : (task.onEvent event stage rest).events =
      task.events ++ (handleEvent event task.session stage task.connectedId).events := rfl
  obtain ⟨peer, rfl, heq⟩ | ⟨hne, hid, hquiet⟩ :=
    handleEvent_status event task.session stage task.connectedId
  · have hcount : task.announced = peer :: establishedPeers rest := hannounced
    have honce := h.once
    rw [hcount, List.length_cons] at honce
    have hnone : task.connectedId = none := by
      rcases hsome : task.connectedId with - | id
      · rfl
      · rw [hsome] at honce
        simp at honce
    have hbegun : task.session.Begun := h.before.resolve_right fun ⟨hempty, _⟩ ↦ by
      rw [hcount] at hempty
      cases hempty
    have hid : (task.onEvent (.established peer) stage rest).connectedId = some peer.hex := by
      change (handleEvent _ _ _ _).connectedId = _
      rw [heq]
    refine ⟨hcoherent, .inl ?_, ?_, .inl ?_⟩
    · change Session.Begun (handleEvent _ _ _ _).session
      rwa [heq]
    · rw [hid]
      change (establishedPeers rest).length + 1 ≤ 1
      omega
    · rw [hevents, hid, connectionEvents_append, hstatus, heq, hnone]
      rfl
  · have hcount : task.announced = establishedPeers rest := by
      rw [hannounced, establishedPeers]
      cases event with
      | established peer => exact absurd rfl (hne peer)
      | _ => rfl
    have hlater : (task.onEvent event stage rest).announced = task.announced := hcount.symm
    refine ⟨hcoherent, ?_, ?_, .inl ?_⟩
    · exact h.before.imp (Or.imp hstate.trans hstate.trans) fun ⟨hempty, hnone⟩ ↦
        ⟨hlater.trans hempty, hid.trans hnone⟩
    · rw [hlater, show (task.onEvent event stage rest).connectedId = _ from hid]
      exact h.once
    · rw [hevents, connectionEvents_append, hquiet, List.append_nil, hstatus,
        show (task.onEvent event stage rest).connectedId = _ from hid]

theorem Inv.step (h : task.Inv) (input : Input) : (task.step input).Inv := by
  have hstep := task.step_cases input
  generalize task.step input = task' at hstep
  have hempty (hphase : task.phase = .acting []) (frame : Frame) :
      Inv { task with phase := .received frame } :=
    ⟨h.coherent, h.before.imp_right fun ⟨_, hid⟩ ↦ ⟨rfl, hid⟩,
      (Nat.add_le_add_right (Nat.zero_le _) _).trans h.once,
      .inl (h.status_running (by simp [hphase]))⟩
  cases hstep with
  | still => exact h
  | called hphase => exact h.onFrame hphase _ _ _
  | sent hphase => exact (h.sent hphase).note _
  | handled hphase => exact h.onEvent hphase _
  | answered hphase => exact (h.onEvent hphase _).note _
  | closed hphase => exact (h.note .closing).disconnect (by simp [SessionTask.note, hphase])
  | received hphase => exact (hempty hphase _).note _
  | ended hphase => exact (h.note .receiving).disconnect (by simp [SessionTask.note, hphase])
  | failed hphase => exact (h.note .receiving).leave _ (by simp [SessionTask.note, hphase])
  | unsent hphase => exact (h.sent hphase).leave _ (by simp)
  | unbuilt hphase | unanswered hphase =>
    exact (h.onEvent hphase _).leave _ (by simp [SessionTask.onEvent, SessionTask.note])

/-! ## Runs -/

/-- The loop has returned without reporting the disconnect of the connected device. -/
def Leaked (task : SessionTask) : Prop :=
  (∃ ok, task.phase = .returned ok) ∧ task.connectedId ≠ none

/-- The step leaves the loop through an error while a device is reported as connected. -/
def Leaks (task : SessionTask) (input : Input) : Prop :=
  task.connectedId ≠ none ∧ task.LeavesByError input

/-- A connect is left behind by exactly the steps that leave through an error after it. -/
theorem leaked_step (task : SessionTask) (input : Input) :
    (task.step input).Leaked ↔ task.Leaked ∨ task.Leaks input := by
  have hstep := task.step_cases input
  generalize task.step input = task' at hstep
  cases hstep with
  | still hstays => simp [Leaks, hstays]
  | called hphase => simp [Leaked, Leaks, LeavesByError, hphase, SessionTask.onFrame, SessionTask.note]
  | sent hphase => simp [Leaked, Leaks, LeavesByError, hphase, SessionTask.note]
  | handled hphase hreply =>
    simp [Leaked, Leaks, LeavesByError, hphase, hreply, SessionTask.onEvent, SessionTask.note]
  | answered hphase hreply =>
    simp [Leaked, Leaks, LeavesByError, hphase, hreply, SessionTask.onEvent, SessionTask.note]
  | closed hphase =>
    simp [Leaked, Leaks, LeavesByError, hphase, SessionTask.disconnect, SessionTask.leave,
      SessionTask.note]
  | received hphase => simp [Leaked, Leaks, LeavesByError, hphase, SessionTask.note]
  | ended hphase =>
    simp [Leaked, Leaks, LeavesByError, hphase, SessionTask.disconnect, SessionTask.leave,
      SessionTask.note]
  | failed hphase =>
    simp [Leaked, Leaks, LeavesByError, hphase, SessionTask.leave, SessionTask.note]
  | unsent hphase =>
    simp [Leaked, Leaks, LeavesByError, hphase, SessionTask.leave, SessionTask.note]
  | @unbuilt stage works event rest failure hphase hreply =>
    have hid := handleEvent_answered (by rw [hreply]; simp :
      (handleEvent event task.session stage task.connectedId).reply ≠ .ok none)
    simp [Leaked, Leaks, LeavesByError, hphase, hreply, SessionTask.onEvent, SessionTask.leave,
      SessionTask.note, hid]
  | @unanswered stage event rest reply hphase hreply =>
    have hid := handleEvent_answered (by rw [hreply]; simp :
      (handleEvent event task.session stage task.connectedId).reply ≠ .ok none)
    simp [Leaked, Leaks, LeavesByError, hphase, hreply, SessionTask.onEvent, SessionTask.leave,
      SessionTask.note, hid]

theorem leaked_run (task : SessionTask) (inputs : List Input) :
    (task.run inputs).Leaked ↔ task.Leaked ∨
      ∃ before input after, inputs = before ++ input :: after ∧ (task.run before).Leaks input :=
  foldl_iff_triggered leaked_step task inputs

/-- On return the status is balanced exactly if no step has left the loop through an error while a
device was reported as connected. -/
theorem status_balanced_iff (identity : IdentityKeypair) (peerKeys : List PeerKey) (nowMs : UInt64)
    (paused : Bool) (first : Frame) (inputs : List Input) {ok : Bool}
    (hreturned : ((start identity peerKeys nowMs paused first).run inputs).phase = .returned ok) :
    Balanced ((start identity peerKeys nowMs paused first).run inputs).events ↔
      ∀ before input after, inputs = before ++ input :: after →
        ¬ ((start identity peerKeys nowMs paused first).run before).Leaks input := by
  have hinv : ((start identity peerKeys nowMs paused first).run inputs).Inv :=
    run_invariant (fun _ input _ h ↦ h.step input) (inv_start ..)
  have hleaked := leaked_run (start identity peerKeys nowMs paused first) inputs
  have hfresh : ¬ (start identity peerKeys nowMs paused first).Leaked := fun h ↦ h.2 rfl
  rw [or_iff_right hfresh] at hleaked
  have hbalanced : Balanced ((start identity peerKeys nowMs paused first).run inputs).events ↔
      ((start identity peerKeys nowMs paused first).run inputs).connectedId = none := by
    generalize (start identity peerKeys nowMs paused first).run inputs = task at hinv
    obtain hstatus | ⟨-, hid, hbalanced⟩ := hinv.status
    · rw [Balanced, hstatus]
      cases task.connectedId <;> simp
    · exact iff_of_true hbalanced hid
  have hconnected : ((start identity peerKeys nowMs paused first).run inputs).connectedId ≠ none ↔
      ((start identity peerKeys nowMs paused first).run inputs).Leaked :=
    ⟨fun h ↦ ⟨⟨ok, hreturned⟩, h⟩, And.right⟩
  rw [hbalanced, ← not_iff_not, ← ne_eq, hconnected, hleaked]
  simp only [not_forall, not_not, exists_prop]

end SessionTask

end Status

namespace Reference

/-- The loop of a computer that gets the HELLO of its phone and answers it. -/
def sessionInputs : List SessionTask.Input :=
  [.onFrame false 0 (some (pad 32 [11])), .act .default true, .act .default true]

def sessionStart : SessionTask := .start pcIdentity [phonePeer] 0 false helloFrame

end Reference

open Reference in
/-- The peer closes the connection: the disconnect is reported. -/
theorem status_balanced_iff_closed :
    Balanced (sessionStart.run (sessionInputs ++ [.next .ended])).events := by
  have hreturned : (sessionStart.run (sessionInputs ++ [.next .ended])).phase = .returned true := by
    decide +kernel
  refine (SessionTask.status_balanced_iff pcIdentity [phonePeer] 0 false helloFrame _ hreturned).mpr ?_
  have hfresh : ∀ n < 3, (sessionStart.run (sessionInputs.take n)).connectedId = none := by
    decide +kernel
  rintro before input after hsplit ⟨hconnected, hleaves⟩
  rcases before with - | ⟨_, - | ⟨_, - | ⟨_, - | ⟨_, before⟩⟩⟩⟩
  · exact hconnected (hfresh 0 (by decide))
  · cases hsplit
    exact hconnected (hfresh 1 (by decide))
  · cases hsplit
    exact hconnected (hfresh 2 (by decide))
  · cases hsplit
    exact absurd hleaves.2 (by simp)
  · cases before <;> cases hsplit

open Reference in
/-- A frame that cannot be decoded makes the loop return without reporting the disconnect. -/
theorem connect_left_behind :
    (sessionStart.run (sessionInputs ++ [.next .failed])).phase = .returned false ∧
      (sessionStart.run (sessionInputs ++ [.next .failed])).events =
        [.peerConnected phoneIdentity.deviceId.hex] ∧
      ¬ Balanced (sessionStart.run (sessionInputs ++ [.next .failed])).events := by
  have hevents : (sessionStart.run (sessionInputs ++ [.next .failed])).events =
      [.peerConnected phoneIdentity.deviceId.hex] := by decide +kernel
  refine ⟨by decide +kernel, hevents, ?_⟩
  rw [hevents]
  simp [Balanced, connectionEvents]

end AirClip
