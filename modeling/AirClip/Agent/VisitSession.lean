import AirClip.Agent.VisitPairing
import AirClip.Traffic.Conversation

/-!
# The session of a visit

The second connection of a check: the peer asks one thing after the other, and the loop of the agent
serves it.  Whatever the peer waits for is under way, and it takes the answer for what it has asked.
-/

open Foundation

namespace AirClip

section Visits

variable [Primitives] {Ip C : Type} (visit : Visit Ip C)

/-- What the agent reports of the clip of the simulated peer. -/
def simulatedClip : AgentEvent := .clipArrived .text (utf8 simulatedText) simulatedName

/-- What the peer waits for on its second connection. -/
inductive Visit.Expects (peer : SimulatedPeer) (stage : StageRing) (events : List AgentEvent) :
    Awaited → Prop
  | greeting {session : Session} (hphase : peer.phase = .helloAck session) :
      Expects peer stage events ⟨session, 6, .established visit.pc.deviceId, .helloAck, []⟩
  | acked {session : Session} (hphase : peer.phase = .clipAck session) (clipId : Octets 8) :
      Expects peer stage events ⟨session, 4, .clipAcked clipId 0, .clipAck, [simulatedClip]⟩
  | listed {session : Session} (hphase : peer.phase = .stageList session)
      (hclip : simulatedClip ∈ events) :
      Expects peer stage events ⟨session, 2, .stageList stage.list, .stageList, []⟩
  | item {session : Session} (hphase : peer.phase = .stageItem session) (hclip : simulatedClip ∈ events)
      (hitems : peer.transcript.items = some stage.list) {first : StageMeta}
      (hfirst : stage.list.head? = some first) {clip : StagedClip}
      (hclip' : stage.get first.stageId = some clip) : Expects peer stage events
        ⟨session, 0, .stageItem clip.stageId clip.contentType clip.body, .stageItem, []⟩

/-- The transcript is complete, and shows what is staged. -/
structure Visit.Shown (peer : SimulatedPeer) (stage : StageRing) (events : List AgentEvent) : Prop where
  phase : peer.phase = .complete
  clip : simulatedClip ∈ events
  items : peer.transcript.items = some stage.list
  body : ∀ first ∈ stage.list.head?,
    peer.transcript.body = (stage.get first.stageId).map StagedClip.body

namespace Visit

variable [Ciborium]

/-- Where the second connection stands: the task of the agent, and the frames under way in both
directions. -/
inductive Speaking (peer : SimulatedPeer) (stage : StageRing) (events : List AgentEvent) :
    ConnectionTask → List Frame → List Frame → Prop
  | greeting {awaited : Awaited} {hello : Frame} {connection : ConnectionTask}
      (hexpects : visit.Expects peer stage events awaited)
      (hconnection : connection = .absent ∨ connection = .waiting) (hty : hello.ty = .hello)
      (hrequested : ∀ session : Session, session.state = .awaitingHello →
        session.identity = visit.pc → FirstKnown session.knownPeers visit.phone.deviceId visit.phoneKey →
          awaited.RequestedBy visit.Clock stage session hello) :
      Speaking peer stage events connection [hello] []
  | greeted {awaited : Awaited} {hello : Frame} (hexpects : visit.Expects peer stage events awaited)
      (hrequested : ∀ session : Session, session.state = .awaitingHello →
        session.identity = visit.pc → FirstKnown session.knownPeers visit.phone.deviceId visit.phoneKey →
          awaited.RequestedBy visit.Clock stage session hello) :
      Speaking peer stage events (.greeted hello) [] []
  | sent {awaited : Awaited} {task : SessionTask} {frame : Frame} {rest : List SessionAction}
      (hexpects : visit.Expects peer stage events awaited) (hphase : task.phase = .acting rest)
      (hquiet : ∀ action ∈ rest, action.Quiet)
      (hrequested : awaited.RequestedBy visit.Clock stage task.session frame) :
      Speaking peer stage events (.session task) [frame] []
  | taken {awaited : Awaited} {task : SessionTask} {frame : Frame}
      (hexpects : visit.Expects peer stage events awaited) (hphase : task.phase = .received frame)
      (hrequested : awaited.RequestedBy visit.Clock stage task.session frame) :
      Speaking peer stage events (.session task) [] []
  | serving {awaited : Awaited} {task : SessionTask} {actions : List SessionAction}
      (hexpects : visit.Expects peer stage events awaited) (hphase : task.phase = .acting actions)
      (hserved : awaited.ServedBy stage events task.session actions) :
      Speaking peer stage events (.session task) [] []
  | answered {awaited : Awaited} {task : SessionTask} {reply : Frame} {rest : List SessionAction}
      (hexpects : visit.Expects peer stage events awaited) (hphase : task.phase = .acting rest)
      (hquiet : ∀ action ∈ rest, action.Quiet) (hanswered : awaited.AnsweredBy task.session reply)
      (hdue : ∀ event ∈ awaited.due, event ∈ events) :
      Speaking peer stage events (.session task) [] [reply]
  | done {task : SessionTask} {toPc toPhone : List Frame} (hshown : Shown peer stage events) :
      Speaking peer stage events (.session task) toPc toPhone

variable {visit} {peer : SimulatedPeer} {stage : StageRing} {events events' : List AgentEvent}

omit [Ciborium] in
theorem Expects.mono {awaited : Awaited} (h : visit.Expects peer stage events awaited)
    (hevents : events ⊆ events') : visit.Expects peer stage events' awaited := by
  cases h with
  | greeting hphase => exact .greeting hphase
  | acked hphase clipId => exact .acked hphase clipId
  | listed hphase hclip => exact .listed hphase (hevents hclip)
  | item hphase hclip hitems hfirst hclip' => exact .item hphase (hevents hclip) hitems hfirst hclip'

omit [Ciborium] in
/-- The peer has paired, and waits on its second connection. -/
theorem Expects.awaits {awaited : Awaited} (h : visit.Expects peer stage events awaited) :
    peer.awaited = some awaited.ty ∧ awaited.ty ≠ .pairAck := by
  cases h with
  | greeting hphase | acked hphase | listed hphase | item hphase =>
    rw [SimulatedPeer.awaited, hphase]
    exact ⟨rfl, by simp⟩

omit [Ciborium] in
theorem Shown.mono (h : Shown peer stage events) (hevents : events ⊆ events') :
    Shown peer stage events' := ⟨h.phase, hevents h.clip, h.items, h.body⟩

/-- Whatever else the agent reports, the second connection stands where it did. -/
theorem Speaking.mono {connection : ConnectionTask} {toPc toPhone : List Frame}
    (h : visit.Speaking peer stage events connection toPc toPhone) (hevents : events ⊆ events') :
    visit.Speaking peer stage events' connection toPc toPhone := by
  cases h with
  | greeting hexpects hconnection hty hrequested =>
    exact .greeting (hexpects.mono hevents) hconnection hty hrequested
  | greeted hexpects hrequested => exact .greeted (hexpects.mono hevents) hrequested
  | sent hexpects hphase hquiet hrequested =>
    exact .sent (hexpects.mono hevents) hphase hquiet hrequested
  | taken hexpects hphase hrequested => exact .taken (hexpects.mono hevents) hphase hrequested
  | serving hexpects hphase hserved =>
    exact .serving (hexpects.mono hevents) hphase (hserved.mono hevents)
  | answered hexpects hphase hquiet hanswered hdue =>
    exact .answered (hexpects.mono hevents) hphase hquiet hanswered fun event hmem ↦
      hevents (hdue event hmem)
  | done hshown => exact .done (hshown.mono hevents)

end Visit

/-- A bound on the steps that are left of a task. -/
def SessionPhase.left : SessionPhase → ℕ
  | .received _ => 3
  | .acting actions => actions.length
  | .returned _ => 0

/-- The same, the step counted in which the loop reads the pause flag. -/
def SessionPhase.leftUnder (phase : SessionPhase) (flag : Option Bool) : ℕ :=
  match phase, flag with
  | .received _, none => phase.left + 1
  | _, _ => phase.left

omit [Primitives] in
theorem SessionPhase.left_le (phase : SessionPhase) (flag : Option Bool) :
    phase.left ≤ phase.leftUnder flag := by
  unfold leftUnder
  split
  · exact Nat.le_succ _
  · exact le_refl _

omit [Primitives] in
theorem SessionPhase.leftUnder_received (frame : Frame) (flag : Option Bool) :
    (received frame).leftUnder flag ≤ 4 := by
  cases flag
  · exact le_refl 4
  · exact Nat.le_succ 3

omit [Primitives] in
theorem SessionPhase.leftUnder_eq {phase : SessionPhase} (hphase : ∀ frame, phase ≠ .received frame)
    (flag : Option Bool) : phase.leftUnder flag = phase.left := by
  cases phase with
  | received frame => exact absurd rfl (hphase frame)
  | acting | returned => rfl

/-- The task of a session is ready for the input. -/
def SessionTask.takes (task : SessionTask) : SessionTask.Input → Bool
  | .onFrame .. =>
    match task.phase with
    | .received _ => true
    | _ => false
  | .act .. =>
    match task.phase with
    | .acting (_ :: _) => true
    | _ => false
  | .next _ => false

theorem SessionTask.received_of_takes {task : SessionTask} {paused : Bool} {nowMs : UInt64}
    {seed : Option Key32} (htakes : task.takes (.onFrame paused nowMs seed)) :
    ∃ frame, task.phase = .received frame := by
  rw [takes] at htakes
  split at htakes
  · next frame hphase => exact ⟨frame, hphase⟩
  · cases htakes

/-- A loop that calls its session or carries out an action has received nothing new. -/
theorem SessionTask.step_ne_received [Ciborium] {task : SessionTask} {input : SessionTask.Input}
    (htakes : task.takes input) (frame : Frame) : (task.step input).phase ≠ .received frame := by
  cases input with
  | onFrame paused nowMs seed =>
    obtain ⟨received, hphase⟩ := received_of_takes htakes
    rw [SessionTask.step, hphase]
    simp [onFrame, note]
  | act stage works =>
    rw [takes] at htakes
    split at htakes
    · next action rest hphase =>
      rw [SessionTask.step, hphase]
      dsimp only
      cases action with
      | send => cases works <;> simp [carryOut, write, leave, note]
      | emit event =>
        rw [carryOut]
        split
        · simp [leave, note]
        · simp [onEvent, note]
        · cases works <;> simp [write, onEvent, leave, note]
      | close => simp [carryOut, disconnect, leave, note]
    · cases htakes
  | next => cases htakes

namespace Visit

variable [Ciborium]

/-- The task has come further, if it was ready for the input. -/
def Goes (peer : SimulatedPeer) (stage : StageRing) (events : List AgentEvent) (task : SessionTask)
    (toPc toPhone : List Frame) (input : SessionTask.Input) (task' : SessionTask) : Prop :=
  ∃ frames reports, writtenFrames task'.trace = writtenFrames task.trace ++ frames ∧
    task'.events = task.events ++ reports ∧
    visit.Speaking peer stage (events ++ reports) (.session task') toPc (toPhone ++ frames) ∧
    (task.takes input → task'.phase.left < task.phase.left)

namespace Speaking

variable {visit} {peer : SimulatedPeer} {stage : StageRing} {events : List AgentEvent}
  {task : SessionTask} {toPc toPhone : List Frame}

theorem still (h : visit.Speaking peer stage events (.session task) toPc toPhone)
    (input : SessionTask.Input) (htakes : task.takes input = false) (hstep : task.step input = task) :
    visit.Goes peer stage events task toPc toPhone input (task.step input) := by
  rw [hstep]
  refine ⟨[], [], (List.append_nil _).symm, (List.append_nil _).symm, ?_,
    fun h ↦ absurd (htakes.symm.trans h) (by simp)⟩
  rwa [List.append_nil, List.append_nil]

/-- The loop hands its session what it has received. -/
theorem onFrame (h : visit.Speaking peer stage events (.session task) toPc toPhone)
    (hgoes : peer.phase ≠ .complete) {nowMs : UInt64} (hclock : visit.Clock nowMs) (seed : Key32) :
    visit.Goes peer stage events task toPc toPhone (.onFrame false nowMs (some seed))
      (task.step (.onFrame false nowMs (some seed))) := by
  have hstill {rest : List SessionAction} (hphase : task.phase = .acting rest) :=
    h.still (.onFrame false nowMs (some seed)) (by rw [SessionTask.takes, hphase])
      (by rw [SessionTask.step, hphase])
  cases h with
  | taken hexpects hphase hrequested =>
    have hserved := hrequested nowMs seed (events ++ []) hclock
    rw [SessionTask.step, hphase]
    refine ⟨[], [], ?_, (List.append_nil _).symm, ?_, fun _ ↦ ?_⟩
    · exact List.filterMap_append ..
    · exact .serving (hexpects.mono (List.subset_append_left _ _)) rfl hserved
    · rw [hphase]
      exact hserved.length_le.trans_lt (Nat.lt_succ_self 2)
  | sent _ hphase | serving _ hphase | answered _ hphase => exact hstill hphase
  | greeting _ hconnection => obtain h | h := hconnection <;> cases h
  | done hshown => exact absurd hshown.phase hgoes

variable [Ciborium.Lawful] [AeadCorrect] [AeadAvailable]

/-- The loop carries out an action. -/
theorem act (h : visit.Speaking peer stage events (.session task) toPc toPhone)
    (hgoes : peer.phase ≠ .complete) :
    visit.Goes peer stage events task toPc toPhone (.act stage true) (task.step (.act stage true)) := by
  have hidle (hphase : task.phase = .acting []) :=
    h.still (.act stage true) (by rw [SessionTask.takes, hphase])
      (by rw [SessionTask.step, hphase])
  have hless {task' : SessionTask} {actions rest : List SessionAction}
      (hphase : task.phase = .acting actions) (hphase' : task'.phase = .acting rest)
      (hlength : rest.length < actions.length) : task'.phase.left < task.phase.left := by
    rwa [hphase, hphase']
  cases h with
  | @sent awaited _ frame rest hexpects hphase hquiet hrequested =>
    cases rest with
    | nil => exact hidle hphase
    | cons action rest =>
      obtain ⟨haction, hrest⟩ := List.forall_mem_cons.mp hquiet
      obtain ⟨task', hstep, hsession, hphase', hevents, hwritten⟩ :=
        task.act_quiet hphase haction stage true
      rw [hstep]
      refine ⟨[], _, hwritten.trans (List.append_nil _).symm, hevents, ?_,
        fun _ ↦ hless hphase hphase' (Nat.lt_succ_self _)⟩
      exact .sent (hexpects.mono (List.subset_append_left _ _)) hphase' hrest (hsession ▸ hrequested)
  | @answered awaited _ reply rest hexpects hphase hquiet hanswered hdue =>
    cases rest with
    | nil => exact hidle hphase
    | cons action rest =>
      obtain ⟨haction, hrest⟩ := List.forall_mem_cons.mp hquiet
      obtain ⟨task', hstep, hsession, hphase', hevents, hwritten⟩ :=
        task.act_quiet hphase haction stage true
      rw [hstep]
      refine ⟨[], _, hwritten.trans (List.append_nil _).symm, hevents, ?_,
        fun _ ↦ hless hphase hphase' (Nat.lt_succ_self _)⟩
      exact .answered (hexpects.mono (List.subset_append_left _ _)) hphase' hrest (hsession ▸ hanswered)
        fun event hmem ↦ List.mem_append_left _ (hdue event hmem)
  | taken hexpects hphase hrequested =>
    have hstill := (Speaking.taken hexpects hphase hrequested).still (.act stage true)
    exact hstill (by rw [SessionTask.takes, hphase]) (by rw [SessionTask.step, hphase])
  | serving hexpects hphase hserved =>
    obtain ⟨task', rest, reports, hstep, hlength, hphase', hevents, hresult⟩ := hserved.act hphase
    rw [hstep]
    have hexpects' := hexpects.mono (List.subset_append_left events reports)
    obtain ⟨hwritten, hserved'⟩ | ⟨reply, hwritten, hquiet, hanswered, hdue⟩ := hresult
    · exact ⟨[], reports, hwritten.trans (List.append_nil _).symm, hevents,
        .serving hexpects' hphase' hserved', fun _ ↦ hless hphase hphase' hlength⟩
    · exact ⟨[reply], reports, hwritten, hevents,
        .answered hexpects' hphase' hquiet hanswered hdue, fun _ ↦ hless hphase hphase' hlength⟩
  | greeting _ hconnection => obtain h | h := hconnection <;> cases h
  | done hshown => exact absurd hshown.phase hgoes

/-! ## The connection -/

omit [Ciborium.Lawful] [AeadCorrect] [AeadAvailable] in
/-- The peer waits on this connection, or has everything it wants. -/
theorem waits {connection : ConnectionTask}
    (h : visit.Speaking peer stage events connection toPc toPhone) :
    (∃ ty, peer.awaited = some ty ∧ ty ≠ .pairAck) ∨
      Shown peer stage events ∧ ∃ task, connection = .session task := by
  cases h with
  | greeting h | greeted h | sent h | taken h | serving h | answered h => exact .inl ⟨_, h.awaits⟩
  | done hshown => exact .inr ⟨hshown, _, rfl⟩

omit [Ciborium.Lawful] [AeadCorrect] [AeadAvailable] in
theorem phase_ne {connection : ConnectionTask}
    (h : visit.Speaking peer stage events connection toPc toPhone) (fsm : PhonePairing) :
    peer.phase ≠ .pairAck fsm := by
  intro hphase
  obtain ⟨ty, hawaited, hty⟩ | ⟨hshown, -⟩ := h.waits
  · rw [SimulatedPeer.awaited, hphase] at hawaited
    exact hty (Option.some.inj hawaited).symm
  · cases hphase.symm.trans hshown.phase

omit [Ciborium.Lawful] [AeadCorrect] [AeadAvailable] in
theorem phase_ne_paired {connection : ConnectionTask}
    (h : visit.Speaking peer stage events connection toPc toPhone) (record : PairingRecord) :
    peer.phase ≠ .paired record := by
  intro hphase
  obtain ⟨ty, hawaited, hty⟩ | ⟨hshown, -⟩ := h.waits
  · rw [SimulatedPeer.awaited, hphase] at hawaited
    cases hawaited
  · cases hphase.symm.trans hshown.phase

omit [Ciborium.Lawful] [AeadCorrect] [AeadAvailable] in
theorem shown {connection : ConnectionTask}
    (h : visit.Speaking peer stage events connection toPc toPhone)
    (hcomplete : peer.phase = .complete) :
    Shown peer stage events ∧ ∃ task, connection = .session task := by
  obtain ⟨ty, hawaited, -⟩ | hshown := h.waits
  · rw [SimulatedPeer.awaited, hcomplete] at hawaited
    cases hawaited
  · exact hshown

omit [Ciborium.Lawful] [AeadCorrect] [AeadAvailable] in
/-- The connection is none of a pairing exchange, and has not been refused or closed. -/
theorem open_or_absent {connection : ConnectionTask}
    (h : visit.Speaking peer stage events connection toPc toPhone) :
    connection = .absent ∨ connection = .waiting ∨ (∃ hello, connection = .greeted hello) ∨
      ∃ task, connection = .session task := by
  cases h with
  | greeting _ hconnection => exact hconnection.imp_right .inl
  | greeted => exact .inr (.inr (.inl ⟨_, rfl⟩))
  | sent | taken | serving | answered | done => exact .inr (.inr (.inr ⟨_, rfl⟩))

omit [Ciborium.Lawful] [AeadCorrect] [AeadAvailable] in
/-- The connection has been accepted. -/
theorem accepted (h : visit.Speaking peer stage events .absent toPc toPhone) :
    visit.Speaking peer stage events .waiting toPc toPhone := by
  cases h with
  | greeting hexpects _ hty hrequested => exact .greeting hexpects (.inr rfl) hty hrequested

omit [Ciborium.Lawful] [AeadCorrect] [AeadAvailable] in
/-- The HELLO has been read. -/
theorem greets (h : visit.Speaking peer stage events .waiting toPc toPhone) :
    ∃ hello, toPc = [hello] ∧ toPhone = [] ∧ hello.ty = .hello ∧
      visit.Speaking peer stage events (.greeted hello) [] [] := by
  cases h with
  | greeting hexpects _ hty hrequested => exact ⟨_, rfl, rfl, hty, .greeted hexpects hrequested⟩

omit [Ciborium.Lawful] [AeadCorrect] [AeadAvailable] in
/-- The session is opened with the peers that the agent knows. -/
theorem enters {hello : Frame} (h : visit.Speaking peer stage events (.greeted hello) toPc toPhone)
    {peerKeys : List PeerKey} (hknown : FirstKnown peerKeys visit.phone.deviceId visit.phoneKey)
    (nowMs : UInt64) : toPc = [] ∧ toPhone = [] ∧ visit.Speaking peer stage events
      (.session (.start visit.pc peerKeys nowMs false hello)) [] [] := by
  cases h with
  | greeted hexpects hrequested =>
    exact ⟨rfl, rfl, .taken hexpects rfl (hrequested _ rfl rfl hknown)⟩
  | greeting _ hconnection => obtain h | h := hconnection <;> cases h

omit [Ciborium.Lawful] [AeadCorrect] [AeadAvailable] in
/-- A request has been read. -/
theorem arrives {frame : Frame} {frames : List Frame}
    (h : visit.Speaking peer stage events (.session task) (frame :: frames) toPhone)
    (hgoes : peer.phase ≠ .complete) (hlistens : task.phase = .acting []) :
    frames = [] ∧ toPhone = [] ∧ (task.step (.next (.frame frame))).phase = .received frame ∧
      writtenFrames (task.step (.next (.frame frame))).trace = writtenFrames task.trace ∧
      (task.step (.next (.frame frame))).events = task.events ∧
      visit.Speaking peer stage events (.session (task.step (.next (.frame frame)))) [] [] := by
  have hstep : task.step (.next (.frame frame)) = task.next (.frame frame) := by
    rw [SessionTask.step, hlistens]
  have hwritten : writtenFrames (task.trace ++ [.receiving]) = writtenFrames task.trace := by
    rw [writtenFrames, List.filterMap_append]
    exact List.append_nil _
  rw [hstep]
  cases h with
  | sent hexpects hphase hquiet hrequested =>
    exact ⟨rfl, rfl, rfl, hwritten, rfl, .taken hexpects rfl hrequested⟩
  | greeting _ hconnection => obtain h | h := hconnection <;> cases h
  | done hshown => exact absurd hshown.phase hgoes

omit [Ciborium.Lawful] [AeadCorrect] [AeadAvailable] in
/-- What the peer finds while it waits: the answer, or nothing yet. -/
theorem owed {connection : ConnectionTask}
    (h : visit.Speaking peer stage events connection toPc toPhone) (hgoes : peer.phase ≠ .complete) :
    (∃ awaited, visit.Expects peer stage events awaited) ∧
      (toPhone = [] ∧ (∀ task ok, connection = .session task → task.phase ≠ .returned ok) ∨
        ∃ awaited reply task rest, connection = .session task ∧ toPc = [] ∧ toPhone = [reply] ∧
          visit.Expects peer stage events awaited ∧ awaited.AnsweredBy task.session reply ∧
          (∀ event ∈ awaited.due, event ∈ events) ∧ task.phase = .acting rest ∧
          ∀ action ∈ rest, action.Quiet) := by
  cases h with
  | greeting hexpects hconnection =>
    refine ⟨⟨_, hexpects⟩, .inl ⟨rfl, ?_⟩⟩
    rintro task ok rfl
    obtain h | h := hconnection <;> cases h
  | greeted hexpects => exact ⟨⟨_, hexpects⟩, .inl ⟨rfl, by simp⟩⟩
  | sent hexpects hphase | taken hexpects hphase | serving hexpects hphase =>
    refine ⟨⟨_, hexpects⟩, .inl ⟨rfl, ?_⟩⟩
    rintro task ok ⟨⟩
    rw [hphase]
    simp
  | answered hexpects hphase hquiet hanswered hdue =>
    exact ⟨⟨_, hexpects⟩, .inr ⟨_, _, _, _, rfl, rfl, rfl, hexpects, hanswered, hdue, hphase, hquiet⟩⟩
  | done hshown => exact absurd hshown.phase hgoes

omit [Ciborium.Lawful] [AeadCorrect] [AeadAvailable] in
/-- A session can go on, in the agent, on the network or in the peer, or the check is complete. -/
theorem ready (h : visit.Speaking peer stage events (.session task) toPc toPhone) :
    (∀ nowMs seed, task.takes (.onFrame false nowMs seed)) ∨ task.takes (.act stage true) ∨
      (toPc ≠ [] ∧ task.phase = .acting []) ∨ toPhone ≠ [] ∨ peer.phase = .complete := by
  cases h with
  | @sent _ _ _ rest _ hphase =>
    cases rest with
    | nil => exact .inr (.inr (.inl ⟨by simp, hphase⟩))
    | cons action rest => exact .inr (.inl (by rw [SessionTask.takes, hphase]))
  | taken _ hphase => exact .inl fun _ _ ↦ by rw [SessionTask.takes, hphase]
  | serving _ hphase hserved =>
    refine .inr (.inl ?_)
    rw [SessionTask.takes, hphase]
    cases hserved with
    | @owes before => cases before <;> rfl
    | pulls => rfl
  | answered => exact .inr (.inr (.inr (.inl (by simp))))
  | done hshown => exact .inr (.inr (.inr (.inr hshown.phase)))
  | greeting _ hconnection => obtain h | h := hconnection <;> cases h

end Speaking

end Visit

/-! ## The peer -/

/-- The phases that are left of a check. -/
def SimulatedPhase.left : SimulatedPhase → ℕ
  | .pairAck _ => 6
  | .paired _ => 5
  | .helloAck _ => 4
  | .clipAck _ => 3
  | .stageList _ => 2
  | .stageItem _ => 1
  | .complete | .failed _ => 0

/-- The peer is the one it was, has printed the same of the pairing, and is nearer to the end. -/
structure SimulatedPeer.Advanced (peer peer' : SimulatedPeer) : Prop where
  identity : peer'.identity = peer.identity
  sas : peer'.transcript.sas = peer.transcript.sas
  record : peer'.transcript.record = peer.transcript.record
  phase : ∀ fsm, peer'.phase ≠ .pairAck fsm
  left : peer'.phase.left < peer.phase.left

omit [Primitives] in
/-- The clip at the head of the list is staged. -/
theorem StageRing.get_of_head {stage : StageRing} {first : StageMeta}
    (h : stage.list.head? = some first) : ∃ clip, stage.get first.stageId = some clip := by
  obtain ⟨clip, hmem, rfl⟩ := List.mem_map.mp (List.mem_of_mem_head? h)
  refine Option.isSome_iff_exists.mp (List.find?_isSome.mpr ⟨clip, List.mem_reverse.mp hmem, ?_⟩)
  exact decide_eq_true rfl

namespace Visit

variable {visit} [Ciborium] [TextCodecs] [Ciborium.Lawful] [AeadCorrect] [AeadAvailable]
  {peer : SimulatedPeer} {calls : List StageCall} {events : List AgentEvent} {awaited : Awaited}

/-- The peer has asked for something else, or the transcript is complete. -/
def Follows (visit : Visit Ip C) (stage : StageRing) (events : List AgentEvent) (pc : Session)
    (result : SimulatedPeer × List Frame) : Prop :=
  result.2 = [] ∧ Shown result.1 stage events ∨
    ∃ awaited frame, result.2 = [frame] ∧ visit.Expects result.1 stage events awaited ∧
      awaited.RequestedBy visit.Clock stage pc frame

/-- The peer takes the answer, and goes on. -/
theorem Expects.take (h : visit.Expects peer (StageRing.default.performAll calls) events awaited)
    {pc : Session} {reply : Frame} (hanswered : awaited.AnsweredBy pc reply)
    (hdue : ∀ event ∈ awaited.due, event ∈ events) (nowMs laterMs : UInt64) (randomId : Octets 8) :
    let result := peer.take (.frame reply) nowMs laterMs (some randomId) true
    peer.Advanced result.1 ∧
      visit.Follows (StageRing.default.performAll calls) events pc result := by
  obtain ⟨hty, htaken⟩ := hanswered
  obtain ⟨phone, hreceived, hstep⟩ := htaken nowMs
  cases h with
  | greeting hphase =>
    have hshort : (utf8 simulatedText).length ≤ maxTextClip := by decide +kernel
    have hname : (utf8 simulatedName).length ≤ 1024 := by decide +kernel
    obtain ⟨push, phone', htransmit, hrequested⟩ := hstep.pushes visit.Clock
      (StageRing.default.performAll calls) randomId .text hshort hname laterMs
    have hpush : phone.pushClip .text (utf8 simulatedText) simulatedName laterMs (some randomId) =
        (.ok (push, randomId), phone') := by
      change phone.pushClipWithId .. = _ at htransmit
      simp only [Session.pushClip, if_neg hshort.not_gt, htransmit]
    have htake : peer.take (.frame reply) nowMs laterMs (some randomId) true =
        (peer.await (.clipAck phone'), [push]) := by
      simp only [SimulatedPeer.take, SimulatedPeer.awaited, hphase, Option.map_some, expectFrame, hty,
        ne_eq, not_true_eq_false, if_false, SimulatedPeer.takeHelloAck, hreceived, hpush,
        SimulatedPeer.send, if_true]
    rw [htake]
    exact ⟨⟨rfl, rfl, rfl, by simp [SimulatedPeer.await], by rw [hphase]; exact Nat.lt_succ_self 3⟩,
      .inr ⟨_, push, rfl, .acked rfl randomId, hrequested⟩⟩
  | acked hphase clipId =>
    have hanswer : (StageRing.default.performAll calls).answer .stageListRequested =
        some (.stageList (StageRing.default.performAll calls).list) := rfl
    obtain ⟨request, phone', htransmit, hrequested⟩ := hstep.asks visit.Clock
      (show Message.stageListReq.Pulled from trivial) rfl hanswer (StageRing.answer_pulled hanswer) rfl
    have hrequest : phone.requestStageList = (.ok request, phone') := htransmit
    have htake : peer.take (.frame reply) nowMs laterMs (some randomId) true =
        (peer.await (.stageList phone'), [request]) := by
      simp only [SimulatedPeer.take, SimulatedPeer.awaited, hphase, Option.map_some, expectFrame, hty,
        ne_eq, not_true_eq_false, if_false, SimulatedPeer.takeClipAck, hreceived, hrequest,
        SimulatedPeer.send, if_true]
    rw [htake]
    exact ⟨⟨rfl, rfl, rfl, by simp [SimulatedPeer.await], by rw [hphase]; exact Nat.lt_succ_self 2⟩,
      .inr ⟨_, request, rfl, .listed rfl (hdue _ (List.mem_singleton_self _)), hrequested⟩⟩
  | listed hphase hclip =>
    generalize hitems : (StageRing.default.performAll calls).list = items at hreceived
    cases items with
    | nil =>
      have htake : peer.take (.frame reply) nowMs laterMs (some randomId) true =
          ({ peer with transcript := { peer.transcript with items := some [] } }.await .complete,
            []) := by
        simp only [SimulatedPeer.take, SimulatedPeer.awaited, hphase, Option.map_some, expectFrame,
          hty, ne_eq, not_true_eq_false, if_false, SimulatedPeer.takeStageList, hreceived]
      rw [htake]
      refine ⟨⟨rfl, rfl, rfl, by simp [SimulatedPeer.await], by rw [hphase]; exact Nat.two_pos⟩,
        .inl ⟨rfl, rfl, hclip, congrArg some hitems.symm, fun first hfirst ↦ ?_⟩⟩
      rw [hitems] at hfirst
      cases hfirst
    | cons first rest =>
      have hfirst : (StageRing.default.performAll calls).list.head? = some first := by rw [hitems]; rfl
      obtain ⟨clip, hclip'⟩ := StageRing.get_of_head hfirst
      have hanswer : (StageRing.default.performAll calls).answer (.stageItemRequested first.stageId) =
          some (.stageItem clip) := by rw [StageRing.answer, hclip']
      obtain ⟨request, phone', htransmit, hrequested⟩ := hstep.asks visit.Clock
        (show (Message.stageGet first.stageId).Pulled from trivial) rfl hanswer
        (StageRing.answer_pulled hanswer) rfl
      have hrequest : phone.requestStageItem first.stageId = (.ok request, phone') := htransmit
      have htake : peer.take (.frame reply) nowMs laterMs (some randomId) true =
          ({ peer with transcript := { peer.transcript with items := some (first :: rest) } }.await
            (.stageItem phone'), [request]) := by
        simp only [SimulatedPeer.take, SimulatedPeer.awaited, hphase, Option.map_some, expectFrame,
          hty, ne_eq, not_true_eq_false, if_false, SimulatedPeer.takeStageList, hreceived, hrequest,
          SimulatedPeer.send, if_true]
      rw [htake]
      exact ⟨⟨rfl, rfl, rfl, by simp [SimulatedPeer.await], by rw [hphase]; exact Nat.lt_succ_self 1⟩,
        .inr ⟨_, request, rfl, .item rfl hclip (congrArg some hitems.symm) hfirst hclip', hrequested⟩⟩
  | @item session hphase hclip hitems first hfirst clip hclip' =>
    have htake : peer.take (.frame reply) nowMs laterMs (some randomId) true =
        ({ peer with transcript := { peer.transcript with body := some clip.body } }.await .complete,
          []) := by
      simp only [SimulatedPeer.take, SimulatedPeer.awaited, hphase, Option.map_some, expectFrame, hty,
        ne_eq, not_true_eq_false, if_false, SimulatedPeer.takeStageItem, hreceived]
    rw [htake]
    refine ⟨⟨rfl, rfl, rfl, by simp [SimulatedPeer.await], by rw [hphase]; exact Nat.lt_succ_self 0⟩,
      .inl ⟨rfl, rfl, hclip, hitems, fun first' hfirst' ↦ ?_⟩⟩
    rw [Option.mem_unique hfirst' hfirst, hclip']
    rfl

omit [AeadCorrect] [AeadAvailable] in
/-- The peer opens its second connection with a HELLO. -/
theorem reconnects [X25519Commutes] [TextCodecs.Lawful] (hidentity : peer.identity = visit.phone)
    {pairedMs : UInt64}
    (hphase : peer.phase = .paired
      (.new visit.pc.deviceId visit.pc.publicBytes visit.pcName pairedMs)) {nowMs : UInt64}
    (hclock : visit.Clock nowMs) (seed : Key32) (stage : StageRing) {connection : ConnectionTask}
    (hconnection : connection = .absent ∨ connection = .waiting) : ∃ peer' hello,
      peer.reconnect (.new visit.pc.deviceId visit.pc.publicBytes visit.pcName pairedMs) nowMs
        (some seed) true true = (peer', [hello]) ∧
      peer.Advanced peer' ∧ visit.Speaking peer' stage events connection [hello] [] := by
  let pcKey : PeerKey := ⟨visit.pc.deviceId, visit.pc.publicBytes⟩
  let session := Session.phoneOpened visit.phone pcKey nowMs (.fromSeed seed)
  have hopens : Session.startPhone visit.phone pcKey nowMs (some seed) = _ :=
    Session.startPhone_eq visit.phone pcKey nowMs (.fromSeed seed)
  have hreconnect : peer.reconnect (.new visit.pc.deviceId visit.pc.publicBytes visit.pcName pairedMs)
      nowMs (some seed) true true = (peer.await (.helloAck session), [⟨.hello, Session.helloPayload
        (visit.phone.dh visit.pc.publicBytes) visit.phone.deviceId
        (Keypair.fromSeed seed).publicBytes nowMs⟩]) := by
    rw [SimulatedPeer.reconnect, HonestDevices.peerKey_new, hidentity]
    dsimp only
    rw [if_neg (by simp), hopens]
    rfl
  refine ⟨_, _, hreconnect, ⟨rfl, rfl, rfl, by simp [SimulatedPeer.await], ?_⟩, ?_⟩
  · rw [hphase]
    exact Nat.lt_succ_self 4
  · refine .greeting (.greeting rfl) hconnection rfl fun pc hstate hpc hknown ↦ ?_
    have hbrief (arrivedMs : UInt64) (harrived : visit.Clock arrivedMs) :
        |(nowMs.toNat : ℤ) - arrivedMs.toNat| ≤ 120000 := by
      obtain ⟨hfirst, hlast⟩ := hclock
      obtain ⟨hfirst', hlast'⟩ := harrived
      have := visit.brief
      rw [abs_le]
      omega
    exact Session.greets visit.phone visit.pc seed hbrief stage (by norm_num) hstate hpc hknown

end Visit

end Visits

end AirClip
