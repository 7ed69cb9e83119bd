import AirClip.Agent.RunningAgent

/-!
# The channel of events

All tasks of the agent emit into one channel, from which the pump hands the text of every arriving clip to
the clipboard.  A clip gets there once for each time a session has handled it, and the clips of a session
in the order in which the session has handled them, whatever the other tasks do meanwhile.
-/

open Foundation

namespace AirClip

/-- The text of a clip that a session has handled. -/
def DriverEntry.clipText : DriverEntry → Option (String × String)
  | .handled (.clipArrived _ _ body sourceName _) => some (fromUtf8Lossy body, sourceName)
  | _ => none

section Channel

variable [Primitives]

namespace SessionTask

/-- The texts of the clips the session has handled, in order. -/
def receivedClips (task : SessionTask) : List (String × String) := task.trace.filterMap DriverEntry.clipText

variable [Ciborium]

/-- An event of the core is reported as an event of a session, and a clip with its text. -/
theorem handleEvent_events (event : SessionEvent) (session : Session) (stage : StageRing)
    (connectedId : Option String) :
    (∀ reported ∈ (handleEvent event session stage connectedId).events, reported.ofSession) ∧
      (handleEvent event session stage connectedId).events.filterMap AgentEvent.clipText =
        (DriverEntry.handled event).clipText.toList := by
  cases event with
  | established peer => exact ⟨by simp [handleEvent, AgentEvent.ofSession], rfl⟩
  | clipArrived => exact ⟨by simp [handleEvent, AgentEvent.ofSession], rfl⟩
  | _ => exact ⟨by simp [handleEvent], rfl⟩

/-- What one step adds to what a session has emitted: events of a session, among them the clips that the
step handles. -/
def Adds (task task' : SessionTask) : Prop :=
  ∃ events entries, task'.events = task.events ++ events ∧ task'.trace = task.trace ++ entries ∧
    (∀ event ∈ events, event.ofSession) ∧
    events.filterMap AgentEvent.clipText = entries.filterMap DriverEntry.clipText

omit [Ciborium] in
theorem Adds.note {task task' : SessionTask} (h : task.Adds task') {entry : DriverEntry}
    (hentry : entry.clipText = none) : task.Adds (task'.note entry) := by
  obtain ⟨events, entries, hevents, htrace, hsession, hclips⟩ := h
  refine ⟨events, entries ++ [entry], hevents, ?_, hsession, ?_⟩
  · rw [SessionTask.note, htrace, List.append_assoc]
  · rw [List.filterMap_append, hclips]
    simp [hentry]

omit [Ciborium] in
theorem Adds.leave {task task' : SessionTask} (h : task.Adds task') (ok : Bool) :
    task.Adds (task'.leave ok) :=
  have hphase : task.Adds { task' with phase := .returned ok } := h
  hphase.note rfl

omit [Ciborium] in
theorem adds_phase (task : SessionTask) (session : Session) (phase : SessionPhase) :
    task.Adds { task with session, phase } :=
  ⟨[], [], (List.append_nil _).symm, (List.append_nil _).symm, by simp, rfl⟩

theorem adds_onEvent (task : SessionTask) (event : SessionEvent) (stage : StageRing)
    (rest : List SessionAction) : task.Adds (task.onEvent event stage rest) := by
  obtain ⟨hsession, hclips⟩ := handleEvent_events event task.session stage task.connectedId
  refine ⟨_, [.handled event], rfl, rfl, hsession, ?_⟩
  rw [hclips, List.filterMap_cons]
  cases (DriverEntry.handled event).clipText <;> rfl

omit [Ciborium] in
/-- Leaving the loop in order. -/
theorem adds_disconnect {task : SessionTask} {entry : DriverEntry} (hentry : entry.clipText = none) :
    task.Adds (task.note entry).disconnect := by
  refine ⟨(task.connectedId.map AgentEvent.peerDisconnected).toList, [entry, .returned], rfl, ?_, ?_, ?_⟩
  · change (task.trace ++ [entry]) ++ [.returned] = _
    rw [List.append_assoc]
    rfl
  · intro event hmem
    obtain ⟨id, -, rfl⟩ := Option.map_eq_some_iff.mp (Option.mem_toList.mp hmem)
    rfl
  · rw [List.filterMap_cons_none hentry]
    cases task.connectedId <;> rfl

theorem step_adds (task : SessionTask) (input : Input) : task.Adds (task.step input) := by
  have hstepped := task.step_cases input
  generalize task.step input = task' at hstepped
  cases hstepped with
  | still => exact task.adds_phase task.session task.phase
  | called => exact (task.adds_phase _ _).note rfl
  | sent | received => exact (task.adds_phase task.session _).note rfl
  | handled => exact task.adds_onEvent _ _ _
  | answered => exact (task.adds_onEvent _ _ _).note rfl
  | closed | ended => exact adds_disconnect rfl
  | failed => exact ((task.adds_phase task.session task.phase).note rfl).leave _
  | unsent => exact (task.adds_phase task.session _).leave _
  | unbuilt | unanswered => exact (task.adds_onEvent _ _ _).leave _

/-- All that a session has emitted are events of a session, with the clips it has handled. -/
def Reported (task : SessionTask) : Prop :=
  (∀ event ∈ task.events, event.ofSession) ∧
    task.events.filterMap AgentEvent.clipText = task.receivedClips

omit [Ciborium] in
theorem reported_start (identity : IdentityKeypair) (peerKeys : List PeerKey) (nowMs : UInt64)
    (paused : Bool) (first : Frame) : (start identity peerKeys nowMs paused first).Reported :=
  ⟨nofun, rfl⟩

theorem Reported.step {task : SessionTask} (h : task.Reported) (input : Input) :
    (task.step input).Reported := by
  obtain ⟨events, entries, hevents, htrace, hsession, hclips⟩ := task.step_adds input
  refine ⟨?_, ?_⟩
  · rw [hevents]
    exact List.forall_mem_append.mpr ⟨h.1, hsession⟩
  · rw [hevents, receivedClips, htrace, List.filterMap_append, List.filterMap_append, hclips, h.2]
    rfl

end SessionTask

variable [Ciborium] [TextCodecs]

namespace Agent

variable {C : Type} [DecidableEq C]

/-- Pairing exchanges send nothing to the channel but how pairing goes. -/
theorem step_events (agent : Agent C) (input : Input C) : ∃ later,
    (agent.step input).events = agent.events ++ later ∧ ∀ event ∈ later, event.ofSession = false := by
  have hsame : ∃ later, agent.events = agent.events ++ later ∧
      ∀ event ∈ later, event.ofSession = false := ⟨[], (List.append_nil _).symm, nofun⟩
  cases input with
  | openPairingWindow token hosts nowMs =>
    change ∃ later, (agent.openPairingWindow token hosts nowMs).events = _ ∧ _
    unfold openPairingWindow
    split
    · exact hsame
    · split <;> exact hsame
  | firstFrame | onFrame =>
    rw [step]
    split <;> exact hsame
  | readOffer =>
    rw [step]
    split <;> exact hsame
  | act c loads works =>
    rw [step]
    split
    · next action rest _ =>
      cases action with
      | send | completed => cases works <;> exact hsame
      | showSas emoji => exact ⟨[.pairingSas emoji], rfl, by simp [AgentEvent.ofSession]⟩
      | failed reason => exact ⟨[.pairingFailed reason], rfl, by simp [AgentEvent.ofSession]⟩
    · exact hsame
    · next record _ => exact ⟨[.paired record], rfl, by simp [AgentEvent.ofSession]⟩
    · exact hsame
  | nextFrame c frame =>
    rw [step]
    unfold receive
    split <;> exact hsame

end Agent

namespace RunningAgent

variable {Ip C : Type} [DecidableEq Ip] [DecidableEq C]

/-- The events of sessions in the channel are a merge of what the sessions have emitted, and the pump has
handed on the clips among those it has taken. -/
structure Channelled (running : RunningAgent Ip C) : Prop where
  reported : ∀ {c task}, running.connections c = .session task → task.Reported
  merge : IsMerge (running.events.filter AgentEvent.ofSession) fun c ↦ (running.connections c).emitted
  pumped : running.pumped ≤ running.events.length
  clips : running.clips = (running.events.take running.pumped).filterMap AgentEvent.clipText

omit [DecidableEq Ip] [DecidableEq C] [Ciborium] [TextCodecs] in
theorem SameSessions.emitted {running running' : RunningAgent Ip C} (h : running.SameSessions running')
    (c : C) : (running'.connections c).emitted = (running.connections c).emitted := by
  rw [ConnectionTask.emitted, h c, ConnectionTask.emitted]

omit [DecidableEq Ip] [DecidableEq C] [Ciborium] [TextCodecs] in
/-- What is sent to the channel later is not what the pump has taken. -/
theorem taken_append {running : RunningAgent Ip C} (h : running.pumped ≤ running.events.length)
    (later : List AgentEvent) :
    (running.events ++ later).take running.pumped = running.events.take running.pumped :=
  List.take_append_of_le_length h

omit [DecidableEq Ip] [TextCodecs] in
theorem Channelled.driven {running : RunningAgent Ip C} (h : running.Channelled) {c : C}
    {task : SessionTask} (hconnection : running.connections c = .session task)
    (input : SessionTask.Input) : (running.drive c task input).Channelled := by
  obtain ⟨later, -, hlater, -, hsession, -⟩ := task.step_adds input
  have hdrop : (task.step input).events.drop task.events.length = later := by
    rw [hlater, List.drop_left]
  have hevents : (running.drive c task input).events = running.events ++ later := by
    rw [← hdrop]
    rfl
  have hself : (running.drive c task input).connections c = .session (task.step input) :=
    running.setConnection_self c _
  have hothers {d : C} (hd : d ≠ c) :
      (running.drive c task input).connections d = running.connections d :=
    running.setConnection_of_ne hd _
  refine ⟨fun {d task'} hd ↦ ?_, ?_, ?_, ?_⟩
  · by_cases hdc : d = c
    · subst hdc
      cases hself.symm.trans hd
      exact (h.reported hconnection).step input
    · exact h.reported ((hothers hdc).symm.trans hd)
  · rw [hevents, List.filter_append, List.filter_eq_self.mpr hsession]
    apply h.merge.append c
    · rw [hself, hconnection]
      exact hlater
    · intro d hd
      rw [hothers hd]
  · rw [hevents, List.length_append]
    exact h.pumped.trans (Nat.le_add_right _ _)
  · rw [hevents]
    change running.clips = (List.take running.pumped _).filterMap _
    rw [taken_append h.pumped, h.clips]

omit [DecidableEq Ip] in
theorem Channelled.step {running running' : RunningAgent Ip C} (h : running.Channelled)
    (hstepped : running.Stepped running') : running'.Channelled := by
  cases hstepped with
  | quiet hagent hsessions hpump =>
    refine ⟨fun hc ↦ h.reported (hsessions.session hc), ?_, ?_, ?_⟩
    · rw [hagent]
      exact h.merge.congr hsessions.emitted
    · rw [hagent, hpump.1]
      exact h.pumped
    · rw [hagent, hpump.1, hpump.2]
      exact h.clips
  | paired input hagent hsessions hpump =>
    obtain ⟨later, hevents, hlater⟩ := running.toAgent.step_events input
    refine ⟨fun hc ↦ h.reported (hsessions.session hc), ?_, ?_, ?_⟩
    · have hnone : later.filter AgentEvent.ofSession = [] :=
        List.filter_eq_nil_iff.mpr fun event hmem ↦ by simp [hlater event hmem]
      rw [hagent, hevents, List.filter_append, hnone, List.append_nil]
      exact h.merge.congr hsessions.emitted
    · rw [hagent, hevents, hpump.1, List.length_append]
      exact h.pumped.trans (Nat.le_add_right _ _)
    · rw [hagent, hevents, hpump.1, hpump.2, taken_append h.pumped]
      exact h.clips
  | @entered c first hconnection nowMs =>
    have hemitted (d : C) : ((running.setConnection c (.session (.start running.identity
        running.peerKeys nowMs running.paused first))).connections d).emitted =
          (running.connections d).emitted := by
      by_cases hd : d = c
      · subst hd
        rw [setConnection_self, hconnection]
        rfl
      · rw [setConnection_of_ne _ hd]
    refine ⟨fun {d task} hd ↦ ?_, h.merge.congr hemitted, h.pumped, h.clips⟩
    by_cases hdc : d = c
    · subst hdc
      rw [setConnection_self] at hd
      cases hd
      exact SessionTask.reported_start ..
    · exact h.reported ((setConnection_of_ne _ hdc _).symm.trans hd)
  | @driven c task hconnection input =>
    have hdriven := h.driven hconnection input
    exact ⟨hdriven.reported, hdriven.merge, hdriven.pumped, hdriven.clips⟩
  | pumped hevent hagent hsessions hpumped hclips =>
    refine ⟨fun hc ↦ h.reported (hsessions.session hc), ?_, ?_, ?_⟩
    · rw [hagent]
      exact h.merge.congr hsessions.emitted
    · rw [hagent, hpumped]
      obtain ⟨hlt, -⟩ := List.getElem?_eq_some_iff.mp hevent
      exact hlt
    · rw [hagent, hpumped, hclips, List.take_add_one, hevent, List.filterMap_append, h.clips]
      congr 1

omit [DecidableEq Ip] [Ciborium] [TextCodecs] in
theorem channelled_start (identity : IdentityKeypair) (displayName : String)
    (stored : List PairingRecord) : (start identity displayName stored : RunningAgent Ip C).Channelled :=
  ⟨nofun, IsMerge.nil, le_refl 0, rfl⟩

/-- The clips that a connection's session has handled. -/
def receivedClips (running : RunningAgent Ip C) (c : C) : List (String × String) :=
  ((running.connections c).session?.map SessionTask.receivedClips).getD []

/-- In every run, whatever the connections, the tray and the watcher do meanwhile, what is handed to the
clipboard is the beginning of a merge of the clips that the sessions have handled, and all of it once the
pump has taken every event. -/
theorem clips_handed_on_once (identity : IdentityKeypair) (displayName : String)
    (stored : List PairingRecord) (inputs : List (Input Ip C)) :
    ∃ received, IsMerge received ((start identity displayName stored).run inputs).receivedClips ∧
      ((start identity displayName stored).run inputs).clips <+: received ∧
      (((start identity displayName stored).run inputs).pumped =
          ((start identity displayName stored).run inputs).events.length →
        ((start identity displayName stored).run inputs).clips = received) := by
  have h : ((start identity displayName stored).run inputs).Channelled :=
    run_invariant (fun _ _ hstepped h ↦ h.step hstepped) (channelled_start identity displayName stored)
      inputs
  generalize (start identity displayName stored).run inputs = running at h
  have hsessions : (running.events.filter AgentEvent.ofSession).filterMap AgentEvent.clipText =
      running.events.filterMap AgentEvent.clipText := by
    rw [List.filterMap_filter]
    refine List.filterMap_congr fun event _ ↦ ?_
    cases event <;> rfl
  refine ⟨running.events.filterMap AgentEvent.clipText, ?_, ?_, fun hall ↦ ?_⟩
  · rw [← hsessions]
    refine (h.merge.filterMap AgentEvent.clipText).congr fun c ↦ ?_
    rw [receivedClips, ConnectionTask.emitted]
    cases hconnection : running.connections c with
    | session task => exact (h.reported hconnection).2.symm
    | _ => rfl
  · rw [h.clips]
    exact (List.take_prefix _ _).filterMap _
  · rw [h.clips, hall, List.take_length]

end RunningAgent

end Channel

end AirClip
