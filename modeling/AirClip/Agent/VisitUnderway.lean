import AirClip.Agent.CalmCheck

/-!
# A check under way

Where the two connections of a check stand, and that they stand there again after each step of the agent:
it accepts them, reads what is under way on them, and carries out its tasks.
-/

open Foundation

namespace AirClip

section Worlds

variable [Primitives] {Ip C : Type} (visit : Visit Ip C)

/-! ## Where a check stands -/

namespace Visit

/-- What the visit relies on in the agent. -/
structure Desk (calls : List StageCall) (running : RunningAgent Ip C) : Prop where
  identity : running.identity = visit.pc
  displayName : running.displayName = visit.pcName
  unpaused : running.paused = false
  flag : running.flags visit.session ≠ some true
  stage : running.stage = StageRing.default.performAll calls
  foreign : ∀ c, visit.Foreign c → running.connections c = .pairing → running.tasks c = .ended

/-- The values of the pause flag that the loops have, after a step of the second connection. -/
structure Flags (running : RunningAgent Ip C) (flags : C → Option Bool) : Prop where
  pairing : flags visit.pairing = running.flags visit.pairing
  session : flags visit.session ≠ some true

/-- The limiter lets the connections of the visit in. -/
structure Admitted [DecidableEq Ip] (running : RunningAgent Ip C) : Prop where
  pairing : running.connections visit.pairing = .absent →
    (running.limiter.allow visit.ip visit.pairingMs).1 = true ∧
      ((running.limiter.allow visit.ip visit.pairingMs).2.allow visit.ip visit.sessionMs).1 = true
  session : running.connections visit.pairing ≠ .absent →
    running.connections visit.session = .absent →
      (running.limiter.allow visit.ip visit.sessionMs).1 = true

variable [TextCodecs]

variable [Ciborium]

/-- The first connection: the agent has not taken the PAIR_REQ yet, or the exchange is going on. -/
inductive First (running : RunningAgent Ip C) (peer : SimulatedPeer) (wire : InFlight) : Prop
  | asked (hwire : wire = ⟨[visit.req], []⟩)
      (hconnection : running.connections visit.pairing = .absent ∨
        running.connections visit.pairing = .waiting)
      (htask : running.tasks visit.pairing = .accepted) (hphase : peer.phase = .pairAck visit.fsm)
      (hoffer : running.toAgent.pairing = some (visit.window, visit.offer))
      (hpeers : visit.Stranger running.peers) (hkeystore : visit.Stranger running.keystore)
  | exchanging {task : Task} (hconnection : running.connections visit.pairing = .pairing)
      (htask : running.tasks visit.pairing = task)
      (hexchanging : visit.Exchanging peer running.toAgent task wire.toPc wire.toPhone)

/-- The second connection. -/
inductive Second (running : RunningAgent Ip C) (peer : SimulatedPeer) (wire : InFlight) : Prop
  | apart (hwire : wire = ⟨[], []⟩) (hconnection : running.connections visit.session = .absent)
      (hphase : (∃ fsm, peer.phase = .pairAck fsm) ∨ ∃ nowMs, peer.phase =
        .paired (.new visit.pc.deviceId visit.pc.publicBytes visit.pcName nowMs))
  | speaking {connection : ConnectionTask}
      (hconnection : running.connections visit.session = connection)
      (hspeaking : visit.Speaking peer running.stage running.events connection wire.toPc wire.toPhone)

/-- Where a check stands that is left alone. -/
structure Underway [DecidableEq Ip] (calls : List StageCall) (world : Acceptance Ip C) :
    Prop where
  desk : visit.Desk calls world.running
  admitted : visit.Admitted world.running
  identity : world.peer.identity = visit.phone
  first : visit.First world.running world.peer world.pairing
  second : visit.Second world.running world.peer world.session
  known : ∀ task, world.running.connections visit.session = .session task →
    visit.Introduced world.running.peers

end Visit

/-! ## What is under way -/

namespace RunningAgent

/-- A bound on the steps that are left of the task of a connection. -/
def taskLeft (running : RunningAgent Ip C) (c : C) : ℕ :=
  match running.connections c with
  | .absent => 2
  | .waiting => 1
  | .pairing => (running.tasks c).left
  | .greeted _ => 5
  | .session task => task.phase.leftUnder (running.flags c)
  | .dropped | .closed => 0

variable {running running' : RunningAgent Ip C} {c : C}

theorem taskLeft_congr (hconnection : running'.connections c = running.connections c)
    (htask : running'.tasks c = running.tasks c)
    (hflag : running'.flags c = running.flags c) : running'.taskLeft c = running.taskLeft c := by
  rw [taskLeft, taskLeft, hconnection, htask, hflag]

theorem taskLeft_session {task : SessionTask} (h : running.connections c = .session task) :
    running.taskLeft c = task.phase.leftUnder (running.flags c) := by
  rw [taskLeft, h]

variable [DecidableEq C]

theorem written_of_ne (h : ∀ task, running.connections c ≠ .session task) :
    running.written c = running.sentOn c := by
  rw [written]
  split
  · next task hconnection => exact absurd hconnection (h task)
  · rfl

theorem written_session {task : SessionTask} (h : running.connections c = .session task) :
    running.written c = writtenFrames task.trace := by
  rw [written, h]

theorem written_congr (hconnection : running'.connections c = running.connections c)
    (hsent : running'.sent = running.sent) : running'.written c = running.written c := by
  rw [written, written, hconnection, sentOn, sentOn, hsent]

theorem sentOn_append {d : C} {frames : List Frame}
    (hsent : running'.sent = running.sent ++ frames.map fun frame ↦ (d, frame)) :
    running'.sentOn c = running.sentOn c ++ if c = d then frames else [] := by
  have hnew : (frames.map fun frame ↦ (d, frame)).filter (fun entry ↦ decide (entry.1 = c)) =
      if c = d then frames.map fun frame ↦ (d, frame) else [] := by
    split_ifs with hd
    · exact List.filter_eq_self.mpr (by simp [hd])
    · exact List.filter_eq_nil_iff.mpr (by simp [Ne.symm hd])
  rw [sentOn, hsent, List.filter_append, List.map_append, sentOn, hnew]
  split_ifs
  · rw [List.map_map]
    exact congrArg _ (List.map_id' frames)
  · rfl

theorem written_append (hconnection : running'.connections c = running.connections c) {d : C}
    {frames : List Frame} (hsent : running'.sent = running.sent ++ frames.map fun frame ↦ (d, frame))
    (hne : c ≠ d) : running'.written c = running.written c := by
  rw [written, written, hconnection, sentOn_append hsent, if_neg hne, List.append_nil]

theorem pair_eq [DecidableEq Ip] [Ciborium] [TextCodecs] (hconnection : running.connections c = .pairing)
    (exchange : Agent.Input C) :
    running.pair exchange = (running.pair exchange).setConnection c .pairing := by
  have hsame : (running.pair exchange).connections c = .pairing := hconnection
  rw [setConnection, ← hsame, Function.update_eq_self]

theorem written_setConnection (hbefore : ∀ task, running.connections c ≠ .session task)
    {connection : ConnectionTask} (hafter : ∀ task, connection ≠ .session task) (d : C) :
    (running.setConnection c connection).written d = running.written d := by
  obtain rfl | hd := eq_or_ne d c
  · rw [written_of_ne hbefore, written_of_ne (by rwa [setConnection_self])]
    rfl
  · exact written_congr (running.setConnection_of_ne hd connection) rfl

end RunningAgent

namespace Acceptance

variable [DecidableEq Ip] [DecidableEq C] [Ciborium] [TextCodecs]

/-- A bound on the steps that are left of a check. -/
def left (links : Links C) (world : Acceptance Ip C) : ℕ :=
  7 * world.peer.phase.left + 6 * (world.pairing.toPc.length + world.session.toPc.length) +
    world.running.taskLeft links.pairing + world.running.taskLeft links.session

variable {links : Links C} {world : Acceptance Ip C} {input : RunningAgent.Input Ip C}
  {frames : List Frame}

theorem proceed_pairing (h : (world.running.step input).written links.pairing =
    world.running.written links.pairing ++ frames) : (world.proceed links input).pairing =
      ⟨world.pairing.toPc, world.pairing.toPhone ++ frames⟩ := by
  change InFlight.mk world.pairing.toPc (world.pairing.toPhone ++
    List.drop _ ((world.running.step input).written links.pairing)) = _
  rw [h, List.drop_left]

theorem proceed_session (h : (world.running.step input).written links.session =
    world.running.written links.session ++ frames) : (world.proceed links input).session =
      ⟨world.session.toPc, world.session.toPhone ++ frames⟩ := by
  change InFlight.mk world.session.toPc (world.session.toPhone ++
    List.drop _ ((world.running.step input).written links.session)) = _
  rw [h, List.drop_left]

theorem proceed_pairing_self (h : (world.running.step input).written links.pairing =
    world.running.written links.pairing) : (world.proceed links input).pairing = world.pairing := by
  rw [proceed_pairing (h.trans (List.append_nil _).symm), List.append_nil]

theorem proceed_session_self (h : (world.running.step input).written links.session =
    world.running.written links.session) : (world.proceed links input).session = world.session := by
  rw [proceed_session (h.trans (List.append_nil _).symm), List.append_nil]

end Acceptance

namespace Visit

variable {visit} {calls : List StageCall}

section Sides

variable {running running' : RunningAgent Ip C}

theorem Desk.moved (h : visit.Desk calls running) (hidentity : running'.identity = running.identity)
    (hname : running'.displayName = running.displayName)
    (hstate : running'.toAgentState = running.toAgentState)
    (hflag : running'.flags visit.session ≠ some true) (hforeign : ∀ c, visit.Foreign c →
      running'.connections c = running.connections c ∧ running'.tasks c = running.tasks c) :
    visit.Desk calls running' where
  identity := hidentity.trans h.identity
  displayName := hname.trans h.displayName
  unpaused := (congrArg AgentState.paused hstate).trans h.unpaused
  flag := hflag
  stage := (congrArg AgentState.stage hstate).trans h.stage
  foreign := by
    intro c hc hpairing
    obtain ⟨hconnection, htask⟩ := hforeign c hc
    rw [htask]
    exact h.foreign c hc (hconnection ▸ hpairing)

theorem Desk.undisturbed (h : visit.Desk calls running) (hsame : visit.Undisturbed running running') :
    visit.Desk calls running' where
  identity := (congrArg Agent.identity hsame.agent).trans h.identity
  displayName := (congrArg Agent.displayName hsame.agent).trans h.displayName
  unpaused := hsame.paused h.unpaused
  flag := hsame.flag h.flag
  stage := hsame.stage.trans h.stage
  foreign := by
    intro c hc hpairing
    have htasks : running'.tasks = running.tasks := by rw [hsame.agent]
    rw [htasks]
    exact h.foreign c hc (hsame.foreign c hc hpairing)

theorem Desk.flags (h : visit.Desk calls running) : visit.Flags running running.flags := ⟨rfl, h.flag⟩

variable [DecidableEq Ip]

theorem Admitted.undisturbed (h : visit.Admitted running)
    (hsame : visit.Undisturbed running running') : visit.Admitted running' where
  pairing := by
    intro hconnection
    rw [hsame.atPairing] at hconnection
    obtain ⟨hallowed, hlater⟩ := h.pairing hconnection
    obtain ⟨hdecision, hentry⟩ := RateLimiter.allow_entry hsame.limiter visit.pairingMs
    refine ⟨hdecision.trans hallowed, ?_⟩
    rw [(RateLimiter.allow_entry hentry visit.sessionMs).1]
    exact hlater
  session := by
    intro hpairing hsession
    rw [hsame.atPairing] at hpairing
    rw [hsame.atSession] at hsession
    rw [(RateLimiter.allow_entry hsame.limiter visit.sessionMs).1]
    exact h.session hpairing hsession

theorem Admitted.same (h : visit.Admitted running) (hlimiter : running'.limiter = running.limiter)
    (hpairing : running'.connections visit.pairing = .absent →
      running.connections visit.pairing = .absent)
    (hpairing' : running.connections visit.pairing = .absent →
      running'.connections visit.pairing = .absent)
    (hsession : running'.connections visit.session = .absent →
      running.connections visit.session = .absent) : visit.Admitted running' where
  pairing := fun habsent ↦ hlimiter ▸ h.pairing (hpairing habsent)
  session := fun hpresent habsent ↦
    hlimiter ▸ h.session (fun h ↦ hpresent (hpairing' h)) (hsession habsent)

variable [Ciborium] [TextCodecs] {peer peer' : SimulatedPeer} {wire : InFlight}

omit [DecidableEq Ip] in
theorem First.same (h : visit.First running peer wire)
    (hconnection' : running'.connections visit.pairing = running.connections visit.pairing)
    (hagent : running'.toAgent = { running.toAgent with events := running'.events })
    (hevents : running.events ⊆ running'.events) : visit.First running' peer wire := by
  have htasks : running'.tasks = running.tasks := by rw [hagent]
  have hoffer' : running'.toAgent.pairing = running.toAgent.pairing := by rw [hagent]
  have hpeers' : running'.peers = running.peers := by rw [hagent]
  have hkeystore' : running'.keystore = running.keystore := by rw [hagent]
  cases h with
  | asked hwire hconnection htask hphase hoffer hpeers hkeystore =>
    refine .asked hwire ?_ (htasks ▸ htask) hphase (hoffer'.trans hoffer) (hpeers' ▸ hpeers)
      (hkeystore' ▸ hkeystore)
    rwa [hconnection']
  | exchanging hconnection htask hexchanging =>
    exact .exchanging (hconnection'.trans hconnection) (htasks ▸ htask)
      (hexchanging.mono hoffer' hpeers' hkeystore' hevents)

omit [DecidableEq Ip] in
/-- Once the peer has confirmed, the exchange is going on. -/
theorem First.confirmed (h : visit.First running peer wire)
    (hphase : ∀ fsm, peer.phase ≠ .pairAck fsm) :
    running.connections visit.pairing = .pairing ∧
      visit.Exchanging peer running.toAgent (running.tasks visit.pairing) wire.toPc wire.toPhone := by
  cases h with
  | asked _ _ _ hasked => exact absurd hasked (hphase _)
  | exchanging hconnection htask hexchanging =>
    rw [htask]
    exact ⟨hconnection, hexchanging⟩

omit [DecidableEq Ip] in
theorem Second.same (h : visit.Second running peer wire)
    (hconnection' : running'.connections visit.session = running.connections visit.session)
    (hstage : running'.stage = running.stage) (hevents : running.events ⊆ running'.events) :
    visit.Second running' peer wire := by
  cases h with
  | apart hwire hconnection hphase => exact .apart hwire (hconnection'.trans hconnection) hphase
  | speaking hconnection hspeaking =>
    rw [← hstage] at hspeaking
    exact .speaking (hconnection'.trans hconnection) (hspeaking.mono hevents)

omit [DecidableEq Ip] in
theorem Second.standing (h : visit.Second running peer wire) :
    (running.connections visit.session = .absent ∨ running.connections visit.session = .waiting ∨
      ∃ hello, running.connections visit.session = .greeted hello) ∨
        ∃ task, running.connections visit.session = .session task := by
  cases h with
  | apart _ hconnection => exact .inl (.inl hconnection)
  | speaking hconnection hspeaking =>
    obtain rfl | rfl | ⟨hello, rfl⟩ | ⟨task, rfl⟩ := hspeaking.open_or_absent
    · exact .inl (.inl hconnection)
    · exact .inl (.inr (.inl hconnection))
    · exact .inl (.inr (.inr ⟨hello, hconnection⟩))
    · exact .inr ⟨task, hconnection⟩

end Sides

section Steps

variable [DecidableEq Ip] [DecidableEq C] [Ciborium] [TextCodecs] {world : Acceptance Ip C}
  {input : RunningAgent.Input Ip C}

/-- A step that does not concern the visit. -/
theorem Underway.undisturbed (h : visit.Underway calls world)
    (hsame : visit.Undisturbed world.running (world.running.step input)) :
    visit.Underway calls (world.proceed visit.toLinks input) := by
  have hsent : (world.running.step input).sent = world.running.sent := by rw [hsame.agent]
  have hpeers : (world.running.step input).peers = world.running.peers := by rw [hsame.agent]
  have hpairing : (world.proceed visit.toLinks input).pairing = world.pairing :=
    Acceptance.proceed_pairing_self (RunningAgent.written_congr hsame.atPairing hsent)
  have hsession : (world.proceed visit.toLinks input).session = world.session :=
    Acceptance.proceed_session_self (RunningAgent.written_congr hsame.atSession hsent)
  refine ⟨h.desk.undisturbed hsame, h.admitted.undisturbed hsame, h.identity, ?_, ?_, ?_⟩
  · rw [hpairing]
    exact h.first.same hsame.atPairing hsame.agent hsame.events
  · rw [hsession]
    exact h.second.same hsame.atSession hsame.stage hsame.events
  · intro task htask
    change visit.Introduced (world.running.step input).peers
    rw [hpeers]
    exact h.known task (hsame.atSession ▸ htask)

/-- The agent is not ready for the input. -/
theorem Underway.still (h : visit.Underway calls world)
    (hstill : world.running.step input = world.running) :
    visit.Underway calls (world.proceed visit.toLinks input) :=
  h.undisturbed (hstill.symm ▸ .refl world.running)

/-- The task of the first connection goes on. -/
theorem Underway.pair (h : visit.Underway calls world)
    (hconnection : world.running.connections visit.pairing = .waiting ∨
      world.running.connections visit.pairing = .pairing) {exchange : Agent.Input C}
    (hstep : world.running.step input =
      (world.running.pair exchange).setConnection visit.pairing .pairing) {task : Task}
    {frames toPc toPhone : List Frame}
    (hshift : world.running.toAgent.Shift visit.pairing task frames (world.running.toAgent.step exchange))
    (hexchanging : visit.Exchanging world.peer (world.running.toAgent.step exchange) task toPc
      (toPhone ++ frames))
    (hintroduced : visit.Introduced world.running.peers →
      visit.Introduced (world.running.toAgent.step exchange).peers) :
    let popped : Acceptance Ip C := { world with pairing := ⟨toPc, toPhone⟩ }
    visit.Underway calls (popped.proceed visit.toLinks input) ∧
      (6 * toPc.length + task.left <
          6 * world.pairing.toPc.length + world.running.taskLeft visit.pairing →
        (popped.proceed visit.toLinks input).left visit.toLinks < world.left visit.toLinks) := by
  intro popped
  let running' := (world.running.pair exchange).setConnection visit.pairing .pairing
  have hrunning : (popped.proceed visit.toLinks input).running = running' := hstep
  have hself : running'.connections visit.pairing = .pairing := RunningAgent.setConnection_self ..
  have hother {c : C} (hc : c ≠ visit.pairing) :
      running'.connections c = world.running.connections c ∧
        running'.tasks c = world.running.tasks c := by
    refine ⟨RunningAgent.setConnection_of_ne _ hc _, ?_⟩
    change (world.running.toAgent.step exchange).tasks c = _
    rw [hshift.tasks, Function.update_of_ne hc]
  have htask : running'.tasks visit.pairing = task := by
    change (world.running.toAgent.step exchange).tasks visit.pairing = task
    rw [hshift.tasks, Function.update_self]
  have hsent : running'.sent = world.running.sent ++ frames.map fun frame ↦ (visit.pairing, frame) :=
    hshift.sent
  have hsession : (popped.proceed visit.toLinks input).session = world.session := by
    apply Acceptance.proceed_session_self
    change (world.running.step input).written visit.session = _
    rw [hstep]
    exact RunningAgent.written_append (hother (Ne.symm visit.ne)).1 hsent (Ne.symm visit.ne)
  have hpairing : (popped.proceed visit.toLinks input).pairing = ⟨toPc, toPhone ++ frames⟩ := by
    apply Acceptance.proceed_pairing
    change (world.running.step input).written visit.pairing =
      world.running.written visit.pairing ++ frames
    have hbefore : world.running.written visit.pairing = world.running.sentOn visit.pairing := by
      apply RunningAgent.written_of_ne
      obtain hconnection | hconnection := hconnection <;> simp [hconnection]
    rw [hstep, RunningAgent.written_of_ne (by rw [hself]; simp), hbefore,
      RunningAgent.sentOn_append hsent, if_pos rfl]
  refine ⟨⟨?_, ?_, h.identity, ?_, ?_, ?_⟩, fun hless ↦ ?_⟩
  · rw [hrunning]
    exact h.desk.moved hshift.identity hshift.displayName rfl h.desk.flag fun c hc ↦ hother hc.1
  · rw [hrunning]
    refine ⟨fun habsent ↦ absurd (hself.symm.trans habsent) (by simp), fun _ habsent ↦ ?_⟩
    refine h.admitted.session ?_ ((hother (Ne.symm visit.ne)).1.symm.trans habsent)
    obtain hconnection | hconnection := hconnection <;> simp [hconnection]
  · rw [hrunning, hpairing]
    exact .exchanging hself htask hexchanging
  · rw [hrunning, hsession]
    exact h.second.same (hother (Ne.symm visit.ne)).1 rfl hshift.events
  · rw [hrunning, (hother (Ne.symm visit.ne)).1]
    exact fun task hsession ↦ hintroduced (h.known task hsession)
  · have hafter : running'.taskLeft visit.pairing = task.left := by
      rw [RunningAgent.taskLeft, hself, ← htask]
    have hsame : running'.taskLeft visit.session = world.running.taskLeft visit.session :=
      RunningAgent.taskLeft_congr (hother (Ne.symm visit.ne)).1 (hother (Ne.symm visit.ne)).2 rfl
    rw [Acceptance.left, Acceptance.left, hrunning, hpairing, hsession, hafter, hsame]
    change 7 * world.peer.phase.left + 6 * (toPc.length + world.session.toPc.length) + _ + _ < _
    omega

/-- The same without a new frame. -/
theorem Underway.onward (h : visit.Underway calls world) {task : Task} {toPc toPhone : List Frame}
    (hconnection : world.running.connections visit.pairing = .pairing)
    (hwire : world.pairing = ⟨toPc, toPhone⟩) {exchange : Agent.Input C}
    (hstep : world.running.step input = world.running.pair exchange)
    (htask : world.running.tasks visit.pairing = task)
    (honward : visit.Onward world.peer world.running.toAgent task toPc toPhone exchange
      (world.running.toAgent.step exchange)) :
    visit.Underway calls (world.proceed visit.toLinks input) ∧
      (task.takes exchange →
        (world.proceed visit.toLinks input).left visit.toLinks < world.left visit.toLinks) := by
  obtain ⟨task', frames, hshift, hexchanging, hintroduced, hless⟩ := honward
  obtain ⟨hunderway, hleft⟩ := h.pair (.inr hconnection)
    (hstep.trans (RunningAgent.pair_eq hconnection exchange)) hshift hexchanging hintroduced
  have hworld : { world with pairing := ⟨toPc, toPhone⟩ } = world := by rw [← hwire]
  rw [hworld] at hunderway hleft
  refine ⟨hunderway, fun htakes ↦ hleft ?_⟩
  have hlater := hless htakes
  rw [RunningAgent.taskLeft, hconnection, hwire, htask]
  exact Nat.add_lt_add_left hlater _

/-- The second connection has a session. -/
theorem Underway.driven (h : visit.Underway calls world) {task : SessionTask} {events : List AgentEvent}
    (hevents : world.running.events ⊆ events) {flags : C → Option Bool}
    (hflag : flags visit.session ≠ some true) {wire : InFlight} (hstep : world.running.step input =
      { world.running.setConnection visit.session (.session task) with events, flags })
    (hintroduced : visit.Introduced world.running.peers)
    (hsecond : visit.Second (world.running.step input) world.peer
      (({ world with session := wire } : Acceptance Ip C).proceed visit.toLinks input).session) :
    visit.Underway calls
      (({ world with session := wire } : Acceptance Ip C).proceed visit.toLinks input) := by
  have hother {c : C} (hc : c ≠ visit.session) :
      (world.running.step input).connections c = world.running.connections c := by
    rw [hstep]
    exact world.running.setConnection_of_ne hc _
  have hself : (world.running.step input).connections visit.session = .session task := by
    rw [hstep]
    exact world.running.setConnection_self ..
  have hpairing : (({ world with session := wire } : Acceptance Ip C).proceed visit.toLinks
      input).pairing = world.pairing := by
    apply Acceptance.proceed_pairing_self
    refine RunningAgent.written_congr (hother visit.ne) ?_
    change (world.running.step input).sent = world.running.sent
    rw [hstep]
    rfl
  refine ⟨?_, ?_, h.identity, ?_, hsecond, ?_⟩
  · change visit.Desk calls (world.running.step input)
    apply h.desk.moved
    · rw [hstep]; rfl
    · rw [hstep]; rfl
    · rw [hstep]; rfl
    · rw [hstep]; exact hflag
    · exact fun c hc ↦ ⟨hother hc.2, by rw [hstep]; rfl⟩
  · change visit.Admitted (world.running.step input)
    refine h.admitted.same (by rw [hstep]; rfl) ?_ ?_ ?_
    · rw [hother visit.ne]
      exact id
    · rw [hother visit.ne]
      exact id
    · rw [hself]
      simp
  · rw [hpairing]
    change visit.First (world.running.step input) world.peer world.pairing
    apply h.first.same (hother visit.ne)
    · rw [hstep]; rfl
    · rw [hstep]; exact hevents
  · intro _ _
    change visit.Introduced (world.running.step input).peers
    rw [hstep]
    exact hintroduced

theorem Underway.drive (h : visit.Underway calls world) {task : SessionTask}
    {exchange : SessionTask.Input}
    (hconnection : world.running.connections visit.session = .session task)
    {flags : C → Option Bool} (hflags : visit.Flags world.running flags)
    (hstep : world.running.step input =
      { world.running.drive visit.session task exchange with flags })
    {frames toPc toPhone : List Frame} {reports : List AgentEvent}
    (hwritten : writtenFrames (task.step exchange).trace = writtenFrames task.trace ++ frames)
    (hreports : (task.step exchange).events = task.events ++ reports)
    (hspeaking : visit.Speaking world.peer world.running.stage (world.running.events ++ reports)
      (.session (task.step exchange)) toPc (toPhone ++ frames)) :
    let popped : Acceptance Ip C := { world with session := ⟨toPc, toPhone⟩ }
    visit.Underway calls (popped.proceed visit.toLinks input) ∧
      (6 * toPc.length + (task.step exchange).phase.leftUnder (flags visit.session) <
          6 * world.session.toPc.length + task.phase.leftUnder (world.running.flags visit.session) →
        (popped.proceed visit.toLinks input).left visit.toLinks < world.left visit.toLinks) := by
  intro popped
  let running' := { world.running.drive visit.session task exchange with flags }
  have hself : running'.connections visit.session = .session (task.step exchange) :=
    world.running.setConnection_self ..
  have hevents : running'.events = world.running.events ++ reports := by
    change world.running.events ++ (task.step exchange).events.drop task.events.length = _
    rw [hreports, List.drop_left]
  have hsession : (popped.proceed visit.toLinks input).session = ⟨toPc, toPhone ++ frames⟩ := by
    apply Acceptance.proceed_session
    change (world.running.step input).written visit.session =
      world.running.written visit.session ++ frames
    rw [hstep, RunningAgent.written_session hself, RunningAgent.written_session hconnection, hwritten]
  refine ⟨h.driven (List.subset_append_left _ _) hflags.session hstep (h.known task hconnection) ?_,
    fun hless ↦ ?_⟩
  · change visit.Second _ _ (popped.proceed visit.toLinks input).session
    rw [hstep, hsession]
    refine .speaking hself ?_
    rwa [hevents]
  · have hother : running'.taskLeft visit.pairing = world.running.taskLeft visit.pairing :=
      RunningAgent.taskLeft_congr (world.running.setConnection_of_ne visit.ne _) rfl hflags.pairing
    have hbefore : world.running.taskLeft visit.session =
        task.phase.leftUnder (world.running.flags visit.session) :=
      RunningAgent.taskLeft_session hconnection
    have hafter : running'.taskLeft visit.session =
        (task.step exchange).phase.leftUnder (flags visit.session) :=
      RunningAgent.taskLeft_session hself
    have hrunning : (popped.proceed visit.toLinks input).running = running' := hstep
    rw [Acceptance.left, Acceptance.left, hrunning, hsession, hbefore, hafter, hother]
    change 7 * world.peer.phase.left + 6 * (world.pairing.toPc.length + toPc.length) + _ + _ < _
    omega

/-- The same without a new frame. -/
theorem Underway.goes (h : visit.Underway calls world) {task : SessionTask} {toPc toPhone : List Frame}
    {exchange : SessionTask.Input}
    (hconnection : world.running.connections visit.session = .session task)
    (hwire : world.session = ⟨toPc, toPhone⟩)
    {flags : C → Option Bool} (hflags : visit.Flags world.running flags)
    (hstep : world.running.step input =
      { world.running.drive visit.session task exchange with flags })
    (hgoes : visit.Goes world.peer world.running.stage world.running.events task toPc toPhone exchange
      (task.step exchange)) :
    visit.Underway calls (world.proceed visit.toLinks input) ∧
      (task.takes exchange →
        (world.proceed visit.toLinks input).left visit.toLinks < world.left visit.toLinks) := by
  obtain ⟨frames, reports, hwritten, hreports, hspeaking, hless⟩ := hgoes
  obtain ⟨hunderway, hleft⟩ := h.drive hconnection hflags hstep hwritten hreports hspeaking
  have hworld : { world with session := ⟨toPc, toPhone⟩ } = world := by rw [← hwire]
  rw [hworld] at hunderway hleft
  refine ⟨hunderway, fun htakes ↦ hleft ?_⟩
  rw [hwire, SessionPhase.leftUnder_eq (task.step_ne_received htakes)]
  exact Nat.add_lt_add_left ((hless htakes).trans_le (task.phase.left_le _)) _

/-- Once the check is complete, the session may do what it likes. -/
theorem Underway.idle (h : visit.Underway calls world) {task : SessionTask}
    {exchange : SessionTask.Input}
    (hconnection : world.running.connections visit.session = .session task)
    (hshown : Shown world.peer world.running.stage world.running.events)
    {flags : C → Option Bool} (hflags : visit.Flags world.running flags)
    (hstep : world.running.step input =
      { world.running.drive visit.session task exchange with flags })
    (wire : InFlight) : visit.Underway calls
      (({ world with session := wire } : Acceptance Ip C).proceed visit.toLinks input) := by
  apply h.driven (List.subset_append_left _ _) hflags.session hstep (h.known task hconnection)
  rw [hstep]
  exact .speaking (world.running.setConnection_self ..)
    (.done (hshown.mono (List.subset_append_left _ _)))

/-- A connection of the check is let in, or has said what it wants. -/
theorem Underway.quiet (h : visit.Underway calls world) {c : C}
    (hc : c = visit.pairing ∨ c = visit.session)
    (hbefore : ∀ task, world.running.connections c ≠ .session task) {connection : ConnectionTask}
    (hafter : ∀ task, connection ≠ .session task) {limiter : RateLimiter Ip}
    (hstep : world.running.step input = { world.running.setConnection c connection with limiter })
    (hadmitted : visit.Admitted (world.running.step input))
    (hfirst : visit.First (world.running.step input) world.peer world.pairing) {wire : InFlight}
    (hsecond : visit.Second (world.running.step input) world.peer wire) :
    let popped : Acceptance Ip C := { world with session := wire }
    visit.Underway calls (popped.proceed visit.toLinks input) ∧
      (6 * wire.toPc.length + (world.running.step input).taskLeft c <
          6 * world.session.toPc.length + world.running.taskLeft c →
        (popped.proceed visit.toLinks input).left visit.toLinks < world.left visit.toLinks) := by
  intro popped
  have hwritten (d : C) : (world.running.step input).written d = world.running.written d := by
    rw [hstep]
    exact RunningAgent.written_setConnection hbefore hafter d
  have hpairing : (popped.proceed visit.toLinks input).pairing = world.pairing :=
    Acceptance.proceed_pairing_self (hwritten visit.pairing)
  have hsession : (popped.proceed visit.toLinks input).session = wire :=
    Acceptance.proceed_session_self (hwritten visit.session)
  have hrunning : (popped.proceed visit.toLinks input).running = world.running.step input := rfl
  have hother {d : C} (hd : d ≠ c) :
      (world.running.step input).connections d = world.running.connections d := by
    rw [hstep]
    exact world.running.setConnection_of_ne hd connection
  have htasks : (world.running.step input).tasks = world.running.tasks := by rw [hstep]; rfl
  have hflags (d : C) : (world.running.step input).flags d = world.running.flags d := by
    rw [hstep]
    rfl
  refine ⟨⟨?_, hadmitted, h.identity, ?_, ?_, ?_⟩, fun hless ↦ ?_⟩
  · rw [hrunning]
    apply h.desk.moved
    · rw [hstep]; rfl
    · rw [hstep]; rfl
    · rw [hstep]; rfl
    · rw [hstep]; exact h.desk.flag
    · intro d hd
      refine ⟨hother ?_, by rw [htasks]⟩
      obtain rfl | rfl := hc
      · exact hd.1
      · exact hd.2
  · rw [hrunning, hpairing]
    exact hfirst
  · rw [hrunning, hsession]
    exact hsecond
  · intro task htask
    have hpeers : (popped.proceed visit.toLinks input).running.peers = world.running.peers := by
      rw [hrunning, hstep]
      rfl
    rw [hrunning] at htask
    rw [hpeers]
    obtain rfl | rfl := hc
    · rw [hother (Ne.symm visit.ne)] at htask
      exact h.known task htask
    · rw [hstep] at htask
      exact absurd ((world.running.setConnection_self ..).symm.trans htask) (hafter task)
  · rw [Acceptance.left, Acceptance.left, hrunning, hpairing, hsession]
    change 7 * world.peer.phase.left + _ + _ + _ < _
    obtain rfl | rfl := hc
    · rw [RunningAgent.taskLeft_congr (hother (Ne.symm visit.ne)) (congrFun htasks _) (hflags _)]
      omega
    · rw [RunningAgent.taskLeft_congr (hother visit.ne) (congrFun htasks _) (hflags _)]
      omega

theorem accept_eq {running : RunningAgent Ip C} {c : C} {attempt : Attempt Ip}
    (habsent : running.connections c = .absent)
    (hallowed : (running.limiter.allow attempt.ip attempt.now).1 = true) :
    running.step (.accept c attempt) = { running.setConnection c .waiting with
      limiter := (running.limiter.allow attempt.ip attempt.now).2 } := by
  rw [RunningAgent.step, habsent]
  simp only [RunningAgent.accept, hallowed, if_true]

theorem accept_still {running : RunningAgent Ip C} {c : C} {attempt : Attempt Ip}
    (hpresent : running.connections c ≠ .absent) : running.step (.accept c attempt) = running := by
  rw [RunningAgent.step]
  split
  · next habsent => exact absurd habsent hpresent
  · rfl

/-- The agent accepts the first connection. -/
theorem Underway.acceptPairing (h : visit.Underway calls world) :
    let accepted := world.proceed visit.toLinks (.accept visit.pairing ⟨visit.ip, visit.pairingMs⟩)
    visit.Underway calls accepted ∧ (world.running.connections visit.pairing = .absent →
      accepted.left visit.toLinks < world.left visit.toLinks) := by
  intro accepted
  by_cases habsent : world.running.connections visit.pairing = .absent
  · obtain ⟨hallowed, hlater⟩ := h.admitted.pairing habsent
    let attempt : Attempt Ip := ⟨visit.ip, visit.pairingMs⟩
    have hstep : world.running.step (.accept visit.pairing attempt) =
        { world.running.setConnection visit.pairing .waiting with
          limiter := (world.running.limiter.allow visit.ip visit.pairingMs).2 } :=
      accept_eq habsent hallowed
    have hself : (world.running.step (.accept visit.pairing attempt)).connections visit.pairing =
        .waiting := by
      rw [hstep]
      exact world.running.setConnection_self ..
    have hother : (world.running.step (.accept visit.pairing attempt)).connections visit.session =
        world.running.connections visit.session := by
      rw [hstep]
      exact world.running.setConnection_of_ne (Ne.symm visit.ne) _
    have hadmitted : visit.Admitted (world.running.step (.accept visit.pairing attempt)) := by
      refine ⟨fun hpairing ↦ absurd (hself.symm.trans hpairing) (by simp), fun _ _ ↦ ?_⟩
      rw [hstep]
      exact hlater
    have hfirst : visit.First (world.running.step (.accept visit.pairing attempt)) world.peer
        world.pairing := by
      cases h.first with
      | asked hwire hconnection htask hphase hoffer hpeers hkeystore =>
        refine .asked hwire (.inr hself) ?_ hphase ?_ ?_ ?_
        all_goals rwa [hstep]
      | exchanging hconnection => exact absurd (habsent.symm.trans hconnection) (by simp)
    have hsecond : visit.Second (world.running.step (.accept visit.pairing attempt)) world.peer
        world.session := by
      apply h.second.same hother
      · rw [hstep]; rfl
      · rw [hstep]; exact List.Subset.refl _
    obtain ⟨hunderway, hleft⟩ :=
      h.quiet (.inl rfl) (by rw [habsent]; simp) (by simp) hstep hadmitted hfirst hsecond
    refine ⟨hunderway, fun _ ↦ hleft ?_⟩
    rw [RunningAgent.taskLeft, RunningAgent.taskLeft, hself, habsent]
    exact Nat.lt_succ_self _
  · exact ⟨h.still (accept_still habsent), fun h ↦ absurd h habsent⟩

/-- The agent accepts the second connection. -/
theorem Underway.acceptSession (h : visit.Underway calls world) (hconnected : world.session.toPc ≠ []) :
    let accepted := world.proceed visit.toLinks (.accept visit.session ⟨visit.ip, visit.sessionMs⟩)
    visit.Underway calls accepted ∧ (world.running.connections visit.session = .absent →
      accepted.left visit.toLinks < world.left visit.toLinks) := by
  intro accepted
  by_cases habsent : world.running.connections visit.session = .absent
  · let attempt : Attempt Ip := ⟨visit.ip, visit.sessionMs⟩
    have hspeaking : visit.Speaking world.peer world.running.stage world.running.events .absent
        world.session.toPc world.session.toPhone := by
      cases h.second with
      | apart hwire => exact absurd (congrArg InFlight.toPc hwire) hconnected
      | speaking hconnection hspeaking => exact (hconnection.symm.trans habsent) ▸ hspeaking
    have hpaired : world.running.connections visit.pairing ≠ .absent := by
      rw [(h.first.confirmed hspeaking.phase_ne).1]
      simp
    have hstep : world.running.step (.accept visit.session attempt) =
        { world.running.setConnection visit.session .waiting with
          limiter := (world.running.limiter.allow visit.ip visit.sessionMs).2 } :=
      accept_eq habsent (h.admitted.session hpaired habsent)
    have hself : (world.running.step (.accept visit.session attempt)).connections visit.session =
        .waiting := by
      rw [hstep]
      exact world.running.setConnection_self ..
    have hother : (world.running.step (.accept visit.session attempt)).connections visit.pairing =
        world.running.connections visit.pairing := by
      rw [hstep]
      exact world.running.setConnection_of_ne visit.ne _
    have hadmitted : visit.Admitted (world.running.step (.accept visit.session attempt)) :=
      ⟨fun hpairing ↦ absurd (hother.symm.trans hpairing) hpaired,
        fun _ hsession ↦ absurd (hself.symm.trans hsession) (by simp)⟩
    have hfirst : visit.First (world.running.step (.accept visit.session attempt)) world.peer
        world.pairing := by
      apply h.first.same hother
      · rw [hstep]; rfl
      · rw [hstep]; exact List.Subset.refl _
    have hsecond : visit.Second (world.running.step (.accept visit.session attempt)) world.peer
        world.session := by
      refine .speaking hself ?_
      rw [hstep]
      exact hspeaking.accepted
    obtain ⟨hunderway, hleft⟩ :=
      h.quiet (.inr rfl) (by rw [habsent]; simp) (by simp) hstep hadmitted hfirst hsecond
    refine ⟨hunderway, fun _ ↦ hleft ?_⟩
    rw [RunningAgent.taskLeft, RunningAgent.taskLeft, hself, habsent]
    exact Nat.add_lt_add_left (Nat.lt_succ_self 1) _
  · exact ⟨h.still (accept_still habsent), fun h ↦ absurd h habsent⟩

/-- PAIR_REQ makes the connection a pairing exchange. -/
theorem Underway.requests (h : visit.Underway calls world) (hwire : world.pairing = ⟨[visit.req], []⟩)
    (hwaiting : world.running.connections visit.pairing = .waiting)
    (htask : world.running.tasks visit.pairing = .accepted)
    (hphase : world.peer.phase = .pairAck visit.fsm)
    (hoffer : world.running.toAgent.pairing = some (visit.window, visit.offer))
    (hpeers : visit.Stranger world.running.peers) (hkeystore : visit.Stranger world.running.keystore) :
    let popped : Acceptance Ip C := { world with pairing := ⟨[], []⟩ }
    let arrived := popped.proceed visit.toLinks (.firstFrame visit.pairing (.frame visit.req))
    visit.Underway calls arrived ∧ arrived.left visit.toLinks < world.left visit.toLinks := by
  intro popped arrived
  have hexchange : world.running.toAgent.step (.firstFrame visit.pairing visit.req) =
      world.running.toAgent.setTask visit.pairing (.handed visit.req) := by
    rw [Agent.step, htask]
    rfl
  have hstep : world.running.step (.firstFrame visit.pairing (.frame visit.req)) =
      (world.running.pair (.firstFrame visit.pairing visit.req)).setConnection visit.pairing
        .pairing := by
    rw [RunningAgent.step, hwaiting]
    rfl
  have hshift : world.running.toAgent.Shift visit.pairing (.handed visit.req) []
      (world.running.toAgent.step (.firstFrame visit.pairing visit.req)) := by
    rw [hexchange]
    exact ⟨rfl, rfl, rfl, (List.append_nil _).symm, List.Subset.refl _⟩
  have hhanded : visit.Exchanging world.peer
      (world.running.toAgent.step (.firstFrame visit.pairing visit.req)) (.handed visit.req) []
      ([] ++ []) := by
    rw [hexchange]
    exact .handed hphase hoffer hpeers hkeystore
  obtain ⟨hunderway, hleft⟩ :=
    h.pair (.inl hwaiting) hstep hshift hhanded (by rw [hexchange]; exact id)
  refine ⟨hunderway, hleft ?_⟩
  rw [RunningAgent.taskLeft, hwaiting, hwire]
  exact (by decide : 5 < 7)

/-- PAIR_CONFIRM is read. -/
theorem Underway.confirms (h : visit.Underway calls world) {frame : Frame} {frames : List Frame}
    (hto : world.pairing.toPc = frame :: frames)
    (hconnection : world.running.connections visit.pairing = .pairing) {window : ℕ}
    {machine : PcPairing} (htask : world.running.tasks visit.pairing = .acting window machine [])
    (hexchanging : visit.Exchanging world.peer world.running.toAgent (.acting window machine [])
      (frame :: frames) world.pairing.toPhone) :
    let popped : Acceptance Ip C := { world with pairing := ⟨frames, world.pairing.toPhone⟩ }
    let arrived := popped.proceed visit.toLinks (.next visit.pairing (.frame frame))
    visit.Underway calls arrived ∧ arrived.left visit.toLinks < world.left visit.toLinks := by
  intro popped arrived
  obtain ⟨rfl, hphone, hshift, hreceived, hpeers⟩ := hexchanging.arrives htask
  have hstep : world.running.step (.next visit.pairing (.frame frame)) =
      world.running.pair (.nextFrame visit.pairing (some frame)) := by
    rw [RunningAgent.step, hconnection]
    rfl
  have hchecking : visit.Exchanging world.peer
      (world.running.toAgent.step (.nextFrame visit.pairing (some frame)))
      (.received window machine frame) [] (world.pairing.toPhone ++ []) := by
    rwa [hphone]
  obtain ⟨hunderway, hleft⟩ := h.pair (.inr hconnection)
    (hstep.trans (RunningAgent.pair_eq hconnection _)) hshift hchecking (by rw [hpeers]; exact id)
  refine ⟨hunderway, hleft ?_⟩
  rw [RunningAgent.taskLeft, hconnection, hto, htask]
  exact (by decide : 4 < 6)

/-- What the peer has sent on its first connection reaches the agent. -/
theorem Underway.pairingArrives (h : visit.Underway calls world) :
    visit.Underway calls (world.step visit.toLinks .pairingArrives) ∧
      (world.pairing.toPc ≠ [] → world.running.listens visit.pairing →
        (world.step visit.toLinks .pairingArrives).left visit.toLinks <
          world.left visit.toLinks) := by
  cases hto : world.pairing.toPc with
  | nil =>
    rw [Acceptance.step, hto]
    exact ⟨h, fun h ↦ absurd rfl h⟩
  | cons frame frames =>
    cases hlistens : world.running.listens visit.pairing with
    | false =>
      rw [Acceptance.step, hto, hlistens]
      exact ⟨h, by simp⟩
    | true =>
      rw [Acceptance.step, hto, hlistens]
      dsimp only
      cases h.first with
      | asked hwire hconnection htask hphase hoffer hpeers hkeystore =>
        rw [hwire] at hto
        cases hto
        have hwaiting : world.running.connections visit.pairing = .waiting := by
          obtain habsent | hwaiting := hconnection
          · rw [RunningAgent.listens, habsent] at hlistens
            cases hlistens
          · exact hwaiting
        obtain ⟨hunderway, hleft⟩ := h.requests hwire hwaiting htask hphase hoffer hpeers hkeystore
        rw [RunningAgent.arrival, hwaiting, hwire]
        exact ⟨hunderway, fun _ _ ↦ hleft⟩
      | @exchanging task hconnection htask hexchanging =>
        have hacting : ∃ window machine, task = .acting window machine [] := by
          rw [RunningAgent.listens, hconnection] at hlistens
          dsimp only at hlistens
          split at hlistens
          · next window machine hacting => exact ⟨window, machine, htask.symm.trans hacting⟩
          · cases hlistens
        obtain ⟨window, machine, rfl⟩ := hacting
        rw [hto] at hexchanging
        obtain ⟨hunderway, hleft⟩ := h.confirms hto hconnection htask hexchanging
        rw [RunningAgent.arrival, hconnection]
        exact ⟨hunderway, fun _ _ ↦ hleft⟩

/-- HELLO makes the connection a session. -/
theorem Underway.greets (h : visit.Underway calls world) {frame : Frame} {frames : List Frame}
    (hto : world.session.toPc = frame :: frames)
    (hwaiting : world.running.connections visit.session = .waiting)
    (hspeaking : visit.Speaking world.peer world.running.stage world.running.events .waiting
      (frame :: frames) world.session.toPhone) :
    let popped : Acceptance Ip C := { world with session := ⟨frames, world.session.toPhone⟩ }
    let arrived := popped.proceed visit.toLinks (.firstFrame visit.session (.frame frame))
    visit.Underway calls arrived ∧ arrived.left visit.toLinks < world.left visit.toLinks := by
  intro popped arrived
  obtain ⟨hello, hframes, hphone, hty, hgreeted⟩ := hspeaking.greets
  obtain ⟨rfl, rfl⟩ := List.cons.inj hframes
  have hstep : world.running.step (.firstFrame visit.session (.frame frame)) =
      { world.running.setConnection visit.session (.greeted frame) with
        limiter := world.running.limiter } := by
    rw [RunningAgent.step, hwaiting]
    dsimp only
    rw [RunningAgent.dispatch, hty]
    rfl
  have hself : (world.running.step (.firstFrame visit.session (.frame frame))).connections
      visit.session = .greeted frame := by
    rw [hstep]
    exact world.running.setConnection_self ..
  have hother : (world.running.step (.firstFrame visit.session (.frame frame))).connections
      visit.pairing = world.running.connections visit.pairing := by
    rw [hstep]
    exact world.running.setConnection_of_ne visit.ne _
  have hadmitted : visit.Admitted (world.running.step (.firstFrame visit.session (.frame frame))) := by
    refine h.admitted.same (by rw [hstep]) ?_ ?_ ?_
    · rw [hother]
      exact id
    · rw [hother]
      exact id
    · rw [hself]
      simp
  have hfirst : visit.First (world.running.step (.firstFrame visit.session (.frame frame)))
      world.peer world.pairing := by
    apply h.first.same hother
    · rw [hstep]; rfl
    · rw [hstep]; exact List.Subset.refl _
  have hsecond : visit.Second (world.running.step (.firstFrame visit.session (.frame frame)))
      world.peer ⟨[], world.session.toPhone⟩ := by
    refine .speaking hself ?_
    rw [hstep, hphone]
    exact hgreeted
  obtain ⟨hunderway, hleft⟩ :=
    h.quiet (.inr rfl) (by rw [hwaiting]; simp) (by simp) hstep hadmitted hfirst hsecond
  refine ⟨hunderway, hleft ?_⟩
  rw [RunningAgent.taskLeft, RunningAgent.taskLeft, hself, hwaiting, hto]
  exact (by decide : 5 < 7)

/-- A request is read. -/
theorem Underway.asks (h : visit.Underway calls world) {frame : Frame} {frames : List Frame}
    (hto : world.session.toPc = frame :: frames) {task : SessionTask}
    (hconnection : world.running.connections visit.session = .session task)
    (hlistens : task.phase = .acting [])
    (hspeaking : visit.Speaking world.peer world.running.stage world.running.events (.session task)
      (frame :: frames) world.session.toPhone) :
    let popped : Acceptance Ip C := { world with session := ⟨frames, world.session.toPhone⟩ }
    let arrived := popped.proceed visit.toLinks (.next visit.session (.frame frame))
    visit.Underway calls arrived ∧
      (world.peer.phase ≠ .complete → arrived.left visit.toLinks < world.left visit.toLinks) := by
  intro popped arrived
  have hstep : world.running.step (.next visit.session (.frame frame)) =
      { world.running.drive visit.session task (.next (.frame frame)) with
        flags := world.running.flags } := by
    rw [RunningAgent.step, hconnection]
    rfl
  by_cases hcomplete : world.peer.phase = .complete
  · exact ⟨h.idle hconnection (hspeaking.shown hcomplete).1 h.desk.flags hstep _,
      fun hgoes ↦ absurd hcomplete hgoes⟩
  · obtain ⟨rfl, hphone, hreceived, hwritten, hreports, htaken⟩ := hspeaking.arrives hcomplete hlistens
    have htaken' : visit.Speaking world.peer world.running.stage (world.running.events ++ [])
        (.session (task.step (.next (.frame frame)))) [] (world.session.toPhone ++ []) := by
      rwa [List.append_nil, List.append_nil, hphone]
    obtain ⟨hunderway, hleft⟩ := h.drive hconnection h.desk.flags hstep
      (hwritten.trans (List.append_nil _).symm) (hreports.trans (List.append_nil _).symm) htaken'
    refine ⟨hunderway, fun _ ↦ hleft ?_⟩
    have hbefore : (SessionPhase.acting []).leftUnder (world.running.flags visit.session) = 0 := rfl
    rw [hreceived, hto, hlistens, hbefore, List.length_nil, List.length_singleton, Nat.zero_add]
    exact (SessionPhase.leftUnder_received frame _).trans_lt (by decide)

/-- What the peer has sent on its second connection reaches the agent. -/
theorem Underway.sessionArrives (h : visit.Underway calls world) :
    visit.Underway calls (world.step visit.toLinks .sessionArrives) ∧
      (world.peer.phase ≠ .complete → world.session.toPc ≠ [] →
        world.running.listens visit.session →
          (world.step visit.toLinks .sessionArrives).left visit.toLinks <
            world.left visit.toLinks) := by
  cases hto : world.session.toPc with
  | nil =>
    rw [Acceptance.step, hto]
    exact ⟨h, fun _ h ↦ absurd rfl h⟩
  | cons frame frames =>
    cases hlistens : world.running.listens visit.session with
    | false =>
      rw [Acceptance.step, hto, hlistens]
      exact ⟨h, by simp⟩
    | true =>
      rw [Acceptance.step, hto, hlistens]
      dsimp only
      cases h.second with
      | apart hwire =>
        rw [hwire] at hto
        cases hto
      | @speaking connection hconnection hspeaking =>
        rw [hto] at hspeaking
        obtain rfl | rfl | ⟨hello, rfl⟩ | ⟨task, rfl⟩ := hspeaking.open_or_absent
        · rw [RunningAgent.listens, hconnection] at hlistens
          cases hlistens
        · obtain ⟨hunderway, hleft⟩ := h.greets hto hconnection hspeaking
          rw [RunningAgent.arrival, hconnection]
          exact ⟨hunderway, fun _ _ _ ↦ hleft⟩
        · rw [RunningAgent.listens, hconnection] at hlistens
          cases hlistens
        · rw [RunningAgent.listens, hconnection] at hlistens
          obtain ⟨hunderway, hleft⟩ := h.asks hto hconnection (of_decide_eq_true hlistens) hspeaking
          rw [RunningAgent.arrival, hconnection]
          exact ⟨hunderway, fun hgoes _ _ ↦ hleft hgoes⟩

/-- The task of the first connection goes on, if there is one. -/
theorem Underway.exchanges (h : visit.Underway calls world) {exchange : Agent.Input C}
    (hstep : world.running.connections visit.pairing = .pairing →
      world.running.step input = world.running.pair exchange)
    (hstill : world.running.connections visit.pairing = .absent ∨
      world.running.connections visit.pairing = .waiting → world.running.step input = world.running)
    (honward : ∀ task, world.running.tasks visit.pairing = task →
      visit.Exchanging world.peer world.running.toAgent task world.pairing.toPc world.pairing.toPhone →
        visit.Onward world.peer world.running.toAgent task world.pairing.toPc world.pairing.toPhone
          exchange (world.running.toAgent.step exchange)) :
    visit.Underway calls (world.proceed visit.toLinks input) ∧
      (world.running.connections visit.pairing = .pairing →
        (world.running.tasks visit.pairing).takes exchange →
          (world.proceed visit.toLinks input).left visit.toLinks < world.left visit.toLinks) := by
  cases h.first with
  | asked _ hconnection =>
    refine ⟨h.still (hstill hconnection), fun hpairing ↦ ?_⟩
    obtain hconnection | hconnection := hconnection <;> cases hconnection.symm.trans hpairing
  | exchanging hconnection htask hexchanging =>
    obtain ⟨hunderway, hleft⟩ :=
      h.onward hconnection rfl (hstep hconnection) htask (honward _ htask hexchanging)
    rw [htask]
    exact ⟨hunderway, fun _ ↦ hleft⟩

/-- The loop of the second connection goes on, if there is one. -/
theorem Underway.speaks (h : visit.Underway calls world) {exchange : SessionTask.Input}
    {flags : C → Option Bool} (hflags : visit.Flags world.running flags)
    (hstep : ∀ task, world.running.connections visit.session = .session task →
      world.running.step input = { world.running.drive visit.session task exchange with flags })
    (hstill : (world.running.connections visit.session = .absent ∨
      world.running.connections visit.session = .waiting ∨
        ∃ hello, world.running.connections visit.session = .greeted hello) →
          world.running.step input = world.running)
    (hgoes : ∀ task, visit.Speaking world.peer world.running.stage world.running.events
      (.session task) world.session.toPc world.session.toPhone → world.peer.phase ≠ .complete →
        visit.Goes world.peer world.running.stage world.running.events task world.session.toPc
          world.session.toPhone exchange (task.step exchange)) :
    visit.Underway calls (world.proceed visit.toLinks input) ∧
      ∀ task, world.running.connections visit.session = .session task →
        world.peer.phase ≠ .complete → task.takes exchange →
          (world.proceed visit.toLinks input).left visit.toLinks < world.left visit.toLinks := by
  have hnone (hopen : world.running.connections visit.session = .absent ∨
      world.running.connections visit.session = .waiting ∨
        ∃ hello, world.running.connections visit.session = .greeted hello) :
      visit.Underway calls (world.proceed visit.toLinks input) ∧
        ∀ task, world.running.connections visit.session = .session task →
          world.peer.phase ≠ .complete → task.takes exchange →
            (world.proceed visit.toLinks input).left visit.toLinks < world.left visit.toLinks := by
    refine ⟨h.still (hstill hopen), fun task htask ↦ ?_⟩
    obtain hopen | hopen | ⟨hello, hopen⟩ := hopen <;> cases hopen.symm.trans htask
  cases h.second with
  | apart _ hconnection => exact hnone (.inl hconnection)
  | speaking hconnection hspeaking =>
    obtain rfl | rfl | ⟨hello, rfl⟩ | ⟨task, rfl⟩ := hspeaking.open_or_absent
    · exact hnone (.inl hconnection)
    · exact hnone (.inr (.inl hconnection))
    · exact hnone (.inr (.inr ⟨hello, hconnection⟩))
    · by_cases hcomplete : world.peer.phase = .complete
      · have hidle := h.idle hconnection (hspeaking.shown hcomplete).1 hflags (hstep task hconnection)
          world.session
        exact ⟨hidle, fun _ _ hgoes ↦ absurd hcomplete hgoes⟩
      · obtain ⟨hunderway, hleft⟩ :=
          h.goes hconnection rfl hflags (hstep task hconnection) (hgoes task hspeaking hcomplete)
        refine ⟨hunderway, fun task' htask' _ ↦ ?_⟩
        cases hconnection.symm.trans htask'
        exact hleft

/-- The session is opened once the agent knows the phone. -/
theorem Underway.enterSession [TextCodecs.Lawful] (h : visit.Underway calls world) (nowMs : UInt64)
    (hknown : ∃ record ∈ world.running.peers, record.peerKey = .ok visit.phoneKey) :
    let entered := world.proceed visit.toLinks (.enter visit.session nowMs)
    visit.Underway calls entered ∧
      ∀ hello, world.running.connections visit.session = .greeted hello →
        entered.left visit.toLinks < world.left visit.toLinks := by
  intro entered
  have hnone (hstep : world.running.step (.enter visit.session nowMs) = world.running)
      (hnot : ∀ hello, world.running.connections visit.session ≠ .greeted hello) :
      visit.Underway calls entered ∧
        ∀ hello, world.running.connections visit.session = .greeted hello →
          entered.left visit.toLinks < world.left visit.toLinks :=
    ⟨h.still hstep, fun hello hgreeted ↦ absurd hgreeted (hnot hello)⟩
  cases h.second with
  | apart _ hconnection =>
    exact hnone (by rw [RunningAgent.step, hconnection]) (by rw [hconnection]; simp)
  | speaking hconnection hspeaking =>
    obtain rfl | rfl | ⟨hello, rfl⟩ | ⟨task, rfl⟩ := hspeaking.open_or_absent
    · exact hnone (by rw [RunningAgent.step, hconnection]) (by rw [hconnection]; simp)
    · exact hnone (by rw [RunningAgent.step, hconnection]) (by rw [hconnection]; simp)
    · obtain ⟨-, hexchanging⟩ := h.first.confirmed hspeaking.phase_ne
      obtain ⟨hintroduced, -⟩ := hexchanging.introduced hknown
      obtain ⟨hto, hphone, hentered⟩ := hspeaking.enters hintroduced.firstKnown nowMs
      let task : SessionTask := .start visit.pc world.running.peerKeys nowMs false hello
      have hstep : world.running.step (.enter visit.session nowMs) =
          { world.running.setConnection visit.session (.session task) with
            events := world.running.events, flags := world.running.flags } := by
        rw [RunningAgent.step, hconnection]
        dsimp only
        rw [h.desk.identity, h.desk.unpaused]
        rfl
      have hself : (world.running.step (.enter visit.session nowMs)).connections visit.session =
          .session task := by
        rw [hstep]
        exact world.running.setConnection_self ..
      have hsession : entered.session = ⟨[], []⟩ := by
        change InFlight.mk world.session.toPc (world.session.toPhone ++
          List.drop _ ((world.running.step (.enter visit.session nowMs)).written visit.session)) = _
        have hsilent : writtenFrames task.trace = [] := rfl
        rw [RunningAgent.written_session hself, hto, hphone, hsilent, List.drop_nil]
        rfl
      have hsecond : visit.Second (world.running.step (.enter visit.session nowMs)) world.peer
          entered.session := by
        rw [hsession]
        refine .speaking hself ?_
        rw [hstep]
        exact hentered
      refine ⟨h.driven (List.Subset.refl _) h.desk.flag hstep hintroduced hsecond, fun _ _ ↦ ?_⟩
      have hrunning : entered.running = world.running.step (.enter visit.session nowMs) := rfl
      have hpairing : entered.pairing = world.pairing := by
        apply Acceptance.proceed_pairing_self
        rw [hstep]
        exact RunningAgent.written_congr (world.running.setConnection_of_ne visit.ne _) rfl
      have hother : (world.running.step (.enter visit.session nowMs)).taskLeft visit.pairing =
          world.running.taskLeft visit.pairing := by
        rw [hstep]
        exact RunningAgent.taskLeft_congr (world.running.setConnection_of_ne visit.ne _) rfl rfl
      have hbefore : world.running.taskLeft visit.session = 5 := by
        rw [RunningAgent.taskLeft, hconnection]
      have hafter : (world.running.step (.enter visit.session nowMs)).taskLeft visit.session ≤ 4 := by
        rw [RunningAgent.taskLeft_session hself]
        exact SessionPhase.leftUnder_received hello _
      rw [Acceptance.left, Acceptance.left, hrunning, hpairing, hsession, hother, hbefore, hto]
      exact Nat.add_lt_add_left (Nat.lt_succ_of_le hafter) _
    · exact hnone (by rw [RunningAgent.step, hconnection]) (by rw [hconnection]; simp)

end Steps

end Visit

end Worlds

end AirClip
