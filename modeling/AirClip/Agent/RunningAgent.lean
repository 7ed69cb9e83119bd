import AirClip.Agent.ConnectionStatus
import AirClip.Agent.Pause
import AirClip.Agent.RateLimiter
import AirClip.Foundation.Merge
import AirClip.Foundation.Utf8

/-!
# The running agent

All that the agent runs, on the state it shares: the accept loop behind the rate limiter, a task for each
connection that becomes a pairing exchange or a session with its first frame, the tray, the clipboard
watcher, and the pump that takes the events of all tasks from one channel.  Its pairing exchanges are
those of `Agent`, its sessions those of `Serving`, and the channel is a merge of what they emit.
-/

open Foundation

namespace AirClip

/-- What the pairing window is showing. -/
inductive PairingView where
  | showQr (url : String)
  | compareSas (emoji : List.Vector String 4)
  | success (deviceName : String)
  | failed (reason : String)
deriving DecidableEq

/-- What an event of the agent makes the pairing window show. -/
def PairingView.mirror (view : PairingView) : AgentEvent → PairingView
  | .pairingSas emoji => .compareSas emoji
  | .paired record => .success record.displayName
  | .pairingFailed reason => .failed reason
  | .peerConnected _ | .peerDisconnected _ | .clipArrived .. => view

/-- The text of an arriving clip and the name it comes under. -/
def AgentEvent.clipText : AgentEvent → Option (String × String)
  | .clipArrived _ body sourceName => some (fromUtf8Lossy body, sourceName)
  | _ => none

/-- An event of a session. -/
def AgentEvent.ofSession : AgentEvent → Bool
  | .peerConnected _ | .peerDisconnected _ | .clipArrived .. => true
  | .pairingSas _ | .paired _ | .pairingFailed _ => false

section Running

variable [Primitives]

/-- The QR payload for a pairing window. -/
def pairingUrl [TextCodecs] (deviceId : DeviceId) (publicKey : Key32) (displayName : String)
    (hosts : List String) (token : Octets 16) : String :=
  QrPayload.toUrl ⟨protocolVersion, deviceId, publicKey, displayName, hosts, token⟩

/-- The frame that has arrived, if one has. -/
def Inbound.arrived : Inbound → Option Frame
  | .frame received => some received
  | .failed | .ended => none

/-- Where `handle_connection` stands. -/
inductive ConnectionTask where
  | absent
  /-- Refused by the rate limiter. -/
  | dropped
  /-- Accepted; the first frame decides. -/
  | waiting
  | pairing
  /-- `run_session` with its first frame, before it reads the list of peers. -/
  | greeted (first : Frame)
  | session (task : SessionTask)
  | closed
deriving DecidableEq

def ConnectionTask.session? : ConnectionTask → Option SessionTask
  | .session task => some task
  | _ => none

/-- What the session of a connection has emitted. -/
def ConnectionTask.emitted (connection : ConnectionTask) : List AgentEvent :=
  (connection.session?.map SessionTask.events).getD []

/-- The agent with everything it runs.  Between reading the pause flag and calling its session, the loop of
a connection has the value it has read.  The channel is kept whole, with the number of events that the
pump has taken from it, and so are the texts that have been handed to the clipboard. -/
structure RunningAgent (Ip C : Type) extends Agent C, AgentState where
  limiter : RateLimiter Ip
  connections : C → ConnectionTask
  flags : C → Option Bool
  pumped : ℕ
  view : PairingView
  clips : List (String × String)

/-- The identity of the agent never changes. -/
theorem Agent.step_identity {C : Type} [DecidableEq C] [Ciborium] [TextCodecs] (agent : Agent C)
    (input : Agent.Input C) : (agent.step input).identity = agent.identity := by
  have hstepped := agent.step_cases input
  generalize agent.step input = agent' at hstepped
  cases hstepped with
  | still hsame | moved hsame => exact hsame.identity
  | called => rfl
  | saved _ hidentity => exact hidentity

namespace RunningAgent

/-- What happens next. -/
inductive Input (Ip C : Type) where
  /-- The tray commands. -/
  | openPairing (token : Option (Octets 16)) (hosts : List String) (nowMs : UInt64)
  | setPaused (paused : Bool)
  /-- The watcher has seen a local copy. -/
  | copy (offered : LocalCopy)
  | accept (c : C) (attempt : Attempt Ip)
  /-- The task of a connection goes on by one step. -/
  | firstFrame (c : C) (inbound : Inbound)
  | enter (c : C) (nowMs : UInt64)
  /-- The loop of a session reads the pause flag for the frame it has received. -/
  | readPaused (c : C)
  | onFrame (c : C) (nowMs : UInt64) (seed : Option Key32)
  | act (c : C) (loads works : Bool)
  | next (c : C) (inbound : Inbound)
  /-- The event pump takes an event. -/
  | pump

variable {Ip C : Type} [DecidableEq Ip] [DecidableEq C] [Ciborium] [TextCodecs]

def start (identity : IdentityKeypair) (displayName : String) (stored : List PairingRecord) :
    RunningAgent Ip C :=
  { Agent.start identity displayName stored with
    stage := .default, paused := false, limiter := .default, connections := fun _ ↦ .absent
    flags := fun _ ↦ none, pumped := 0, view := .showQr "", clips := [] }

/-- The peers that the agent knows at this moment; a record that cannot be read is passed over. -/
def peerKeys (running : RunningAgent Ip C) : List PeerKey :=
  running.peers.filterMap fun record ↦ record.peerKey.toOption

def setConnection (running : RunningAgent Ip C) (c : C) (connection : ConnectionTask) :
    RunningAgent Ip C :=
  { running with connections := Function.update running.connections c connection }

omit [DecidableEq Ip] [Ciborium] [TextCodecs] in
@[simp] theorem setConnection_self (running : RunningAgent Ip C) (c : C) (connection : ConnectionTask) :
    (running.setConnection c connection).connections c = connection := Function.update_self ..

omit [DecidableEq Ip] [Ciborium] [TextCodecs] in
theorem setConnection_of_ne (running : RunningAgent Ip C) {c d : C} (h : d ≠ c)
    (connection : ConnectionTask) :
    (running.setConnection c connection).connections d = running.connections d :=
  Function.update_of_ne h ..

/-- A pairing exchange goes on, or the user opens a pairing window. -/
def pair (running : RunningAgent Ip C) (input : Agent.Input C) : RunningAgent Ip C :=
  { running with toAgent := running.toAgent.step input }

def setFlag (running : RunningAgent Ip C) (c : C) (flag : Option Bool) : RunningAgent Ip C :=
  { running with flags := Function.update running.flags c flag }

/-- The pause flag is read for a frame once. -/
def readPaused (running : RunningAgent Ip C) (c : C) (task : SessionTask) : RunningAgent Ip C :=
  match task.phase, running.flags c with
  | .received _, none => running.setFlag c (some running.paused)
  | _, _ => running

/-- The loop of a session goes on; what it emits is sent to the channel. -/
def drive (running : RunningAgent Ip C) (c : C) (task : SessionTask) (input : SessionTask.Input) :
    RunningAgent Ip C :=
  let task' := task.step input
  { running.setConnection c (.session task') with
    events := running.events ++ task'.events.drop task.events.length }

/-- The session is called under the flag that has been read. -/
def call (running : RunningAgent Ip C) (c : C) (task : SessionTask) (nowMs : UInt64)
    (seed : Option Key32) : RunningAgent Ip C :=
  match running.flags c with
  | some paused => (running.setFlag c none).drive c task (.onFrame paused nowMs seed)
  | none => running

/-- The user opens a pairing window, which shows the link of its offer. -/
def openPairing (running : RunningAgent Ip C) (token : Option (Octets 16)) (hosts : List String)
    (nowMs : UInt64) : RunningAgent Ip C :=
  match token with
  | none => running
  | some token =>
    if hosts.isEmpty then running
    else
      { running.pair (.openPairingWindow (some token) hosts nowMs) with
        view := .showQr (pairingUrl running.identity.deviceId running.identity.publicBytes
          running.displayName hosts token) }

/-- Either a pairing exchange or a session, decided by the first frame. -/
def dispatch (running : RunningAgent Ip C) (c : C) : Inbound → RunningAgent Ip C
  | .frame first =>
    match first.ty with
    | .pairReq => (running.pair (.firstFrame c first)).setConnection c .pairing
    | .hello => running.setConnection c (.greeted first)
    | _ => running.setConnection c .closed
  | .failed | .ended => running.setConnection c .closed

/-- The rate limiter decides before anything is read. -/
def accept (running : RunningAgent Ip C) (c : C) (attempt : Attempt Ip) : RunningAgent Ip C :=
  let decision := running.limiter.allow attempt.ip attempt.now
  { running.setConnection c (if decision.1 then .waiting else .dropped) with limiter := decision.2 }

/-- The event pump takes the next event from the channel. -/
def pump (running : RunningAgent Ip C) : RunningAgent Ip C :=
  match running.events[running.pumped]? with
  | none => running
  | some event =>
    { running with
      pumped := running.pumped + 1
      view := running.view.mirror event
      clips := running.clips ++ event.clipText.toList }

/-- One step of the agent; an input that nothing is ready for changes nothing. -/
def step (running : RunningAgent Ip C) : Input Ip C → RunningAgent Ip C
  | .openPairing token hosts nowMs => running.openPairing token hosts nowMs
  | .setPaused paused => { running with paused }
  | .copy offered => { running with
      stage := (running.stage.push offered.contentType offered.body offered.nowMs offered.randomId).2 }
  | .accept c attempt =>
    match running.connections c with
    | .absent => running.accept c attempt
    | _ => running
  | .firstFrame c inbound =>
    match running.connections c with
    | .waiting => running.dispatch c inbound
    | _ => running
  | .enter c nowMs =>
    match running.connections c with
    | .pairing => running.pair (.readOffer c)
    | .greeted first => running.setConnection c
        (.session (.start running.identity running.peerKeys nowMs running.paused first))
    | _ => running
  | .readPaused c =>
    match running.connections c with
    | .session task => running.readPaused c task
    | _ => running
  | .onFrame c nowMs seed =>
    match running.connections c with
    | .pairing => running.pair (.onFrame c nowMs seed)
    | .session task => running.call c task nowMs seed
    | _ => running
  | .act c loads works =>
    match running.connections c with
    | .pairing => running.pair (.act c loads works)
    | .session task => running.drive c task (.act running.stage works)
    | _ => running
  | .next c inbound =>
    match running.connections c with
    | .pairing => running.pair (.nextFrame c inbound.arrived)
    | .session task => running.drive c task (.next inbound)
    | _ => running
  | .pump => running.pump

def run (running : RunningAgent Ip C) (inputs : List (Input Ip C)) : RunningAgent Ip C :=
  inputs.foldl step running

/-! ## What a step can do -/

/-- The loop of a session calls it under the flag it has read, and finds the staged clips as they are. -/
inductive Offers (running : RunningAgent Ip C) (c : C) : SessionTask.Input → Prop
  | onFrame {paused : Bool} (hflag : running.flags c = some paused) (nowMs : UInt64)
      (seed : Option Key32) : Offers running c (.onFrame paused nowMs seed)
  | act (works : Bool) : Offers running c (.act running.stage works)
  | next (inbound : Inbound) : Offers running c (.next inbound)

/-- Every session is where it was. -/
def SameSessions (running running' : RunningAgent Ip C) : Prop :=
  ∀ c, (running'.connections c).session? = (running.connections c).session?

/-- The pump has taken nothing. -/
def SamePump (running running' : RunningAgent Ip C) : Prop :=
  running'.pumped = running.pumped ∧ running'.clips = running.clips

/-- A step moves neither a pairing exchange nor a session, lets one of them go on, opens a session with
the peers known at that moment, or takes an event from the channel. -/
inductive Stepped (running : RunningAgent Ip C) : RunningAgent Ip C → Prop
  | quiet {running' : RunningAgent Ip C} (hagent : running'.toAgent = running.toAgent)
      (hsessions : running.SameSessions running') (hpump : running.SamePump running') :
      Stepped running running'
  | paired {running' : RunningAgent Ip C} (input : Agent.Input C)
      (hagent : running'.toAgent = running.toAgent.step input)
      (hsessions : running.SameSessions running') (hpump : running.SamePump running') :
      Stepped running running'
  | entered {c : C} {first : Frame} (hconnection : running.connections c = .greeted first)
      (nowMs : UInt64) : Stepped running (running.setConnection c
        (.session (.start running.identity running.peerKeys nowMs running.paused first)))
  | driven {c : C} {task : SessionTask} (hconnection : running.connections c = .session task)
      {input : SessionTask.Input} (hoffers : running.Offers c input) (flags : C → Option Bool) :
      Stepped running { running.drive c task input with flags }
  | pumped {event : AgentEvent} (hevent : running.events[running.pumped]? = some event)
      {running' : RunningAgent Ip C} (hagent : running'.toAgent = running.toAgent)
      (hsessions : running.SameSessions running') (hpumped : running'.pumped = running.pumped + 1)
      (hclips : running'.clips = running.clips ++ event.clipText.toList) : Stepped running running'

omit [DecidableEq Ip] [DecidableEq C] [Ciborium] [TextCodecs] in
theorem SameSessions.refl (running : RunningAgent Ip C) : running.SameSessions running := fun _ ↦ rfl

omit [DecidableEq Ip] [Ciborium] [TextCodecs] in
/-- A connection that was no session and becomes none. -/
theorem sameSessions_update {running running' : RunningAgent Ip C} {c : C} {connection : ConnectionTask}
    (hbefore : (running.connections c).session? = none) (hafter : connection.session? = none)
    (hconnections : running'.connections = Function.update running.connections c connection) :
    running.SameSessions running' := by
  intro d
  rw [hconnections]
  by_cases hd : d = c
  · rw [hd, Function.update_self, hbefore, hafter]
  · rw [Function.update_of_ne hd]

omit [DecidableEq Ip] in
theorem stepped_dispatch {running : RunningAgent Ip C} {c : C}
    (hconnection : running.connections c = .waiting) (inbound : Inbound) :
    running.Stepped (running.dispatch c inbound) := by
  have hbefore : (running.connections c).session? = none := congrArg _ hconnection
  have hclosed : running.Stepped (running.setConnection c .closed) :=
    .quiet rfl (sameSessions_update hbefore rfl rfl) ⟨rfl, rfl⟩
  cases inbound with
  | frame first =>
    rw [dispatch]
    split
    · exact .paired (.firstFrame c first) rfl (sameSessions_update hbefore rfl rfl) ⟨rfl, rfl⟩
    · exact .quiet rfl (sameSessions_update hbefore rfl rfl) ⟨rfl, rfl⟩
    · exact hclosed
  | failed | ended => exact hclosed

omit [DecidableEq Ip] in
theorem stepped_pair (running : RunningAgent Ip C) (input : Agent.Input C) :
    running.Stepped (running.pair input) := .paired input rfl (.refl running) ⟨rfl, rfl⟩

theorem step_cases (running : RunningAgent Ip C) (input : Input Ip C) :
    running.Stepped (running.step input) := by
  have hstill : running.Stepped running := .quiet rfl (.refl running) ⟨rfl, rfl⟩
  cases input with
  | openPairing token hosts nowMs =>
    change running.Stepped (running.openPairing token hosts nowMs)
    unfold openPairing
    cases token with
    | none => exact hstill
    | some token =>
      dsimp only
      split_ifs
      · exact hstill
      · exact .paired (.openPairingWindow (some token) hosts nowMs) rfl (.refl running) ⟨rfl, rfl⟩
  | setPaused | copy => exact .quiet rfl (.refl running) ⟨rfl, rfl⟩
  | accept c attempt =>
    rw [step]
    split
    · next hconnection =>
      refine .quiet rfl (sameSessions_update (congrArg _ hconnection) ?_ rfl) ⟨rfl, rfl⟩
      split_ifs <;> rfl
    · exact hstill
  | firstFrame c inbound =>
    rw [step]
    split
    · next hconnection => exact stepped_dispatch hconnection inbound
    · exact hstill
  | enter c nowMs =>
    rw [step]
    split
    · exact running.stepped_pair _
    · next hconnection => exact .entered hconnection nowMs
    · exact hstill
  | readPaused c =>
    rw [step]
    split
    · unfold readPaused
      split
      · exact .quiet rfl (.refl running) ⟨rfl, rfl⟩
      · exact hstill
    · exact hstill
  | onFrame c nowMs seed =>
    rw [step]
    split
    · exact running.stepped_pair _
    · next hconnection =>
      unfold call
      split
      · next hflag => exact .driven hconnection (.onFrame hflag nowMs seed) _
      · exact hstill
    · exact hstill
  | act c loads works =>
    rw [step]
    split
    · exact running.stepped_pair _
    · next hconnection => exact .driven hconnection (.act works) running.flags
    · exact hstill
  | next c inbound =>
    rw [step]
    split
    · exact running.stepped_pair _
    · next hconnection => exact .driven hconnection (.next inbound) running.flags
    · exact hstill
  | pump =>
    change running.Stepped running.pump
    unfold pump
    split
    · exact hstill
    · next hevent => exact .pumped hevent rfl (.refl running) rfl rfl

/-- What every step preserves holds in every run. -/
theorem run_invariant {P : RunningAgent Ip C → Prop}
    (hstep : ∀ running running' : RunningAgent Ip C, running.Stepped running' → P running → P running')
    {running : RunningAgent Ip C} (hinit : P running) (inputs : List (Input Ip C)) :
    P (running.run inputs) :=
  foldl_invariant (fun running input _ ↦ hstep running _ (running.step_cases input)) hinit

/-! ## The parts -/

/-- What a pairing exchange keeps, whatever else is sent to the channel, holds in every run. -/
theorem agent_invariant {P : Agent C → Prop}
    (hevents : ∀ agent events, P agent → P { agent with events })
    (hstep : ∀ agent input, P agent → P (agent.step input)) {running : RunningAgent Ip C}
    (hinit : P running.toAgent) (inputs : List (Input Ip C)) : P (running.run inputs).toAgent := by
  refine run_invariant (P := fun running ↦ P running.toAgent) ?_ hinit inputs
  intro running running' hstepped h
  cases hstepped with
  | quiet hagent | pumped _ hagent => exact hagent ▸ h
  | paired input hagent => exact hagent ▸ hstep _ input h
  | entered => exact h
  | driven => exact hevents _ _ h

omit [DecidableEq Ip] [DecidableEq C] [Ciborium] [TextCodecs] in
theorem SameSessions.session {running running' : RunningAgent Ip C} (h : running.SameSessions running')
    {c : C} {task : SessionTask} (hsession : running'.connections c = .session task) :
    running.connections c = .session task := by
  have hsame := h c
  rw [hsession, ConnectionTask.session?] at hsame
  cases hconnection : running.connections c with
  | session task' =>
    rw [hconnection, ConnectionTask.session?] at hsame
    rw [Option.some.inj hsame]
  | _ =>
    rw [hconnection] at hsame
    cases hsame

/-- After a step a session is where it was, has just been opened, or has gone on by one step. -/
inductive SessionStep (running : RunningAgent Ip C) (c : C) (task : SessionTask) : Prop
  | same (hbefore : running.connections c = .session task)
  | opened {first : Frame} (nowMs : UInt64) (hbefore : running.connections c = .greeted first)
      (htask : task = .start running.identity running.peerKeys nowMs running.paused first)
  | stepped {task' : SessionTask} {input : SessionTask.Input}
      (hbefore : running.connections c = .session task') (hoffers : running.Offers c input)
      (htask : task = task'.step input)

omit [DecidableEq Ip] in
theorem Stepped.session {running running' : RunningAgent Ip C} (h : running.Stepped running') {c : C}
    {task : SessionTask} (hsession : running'.connections c = .session task) :
    running.SessionStep c task := by
  cases h with
  | quiet _ hsessions | paired _ _ hsessions | pumped _ _ hsessions =>
    exact .same (hsessions.session hsession)
  | @entered d first hconnection nowMs =>
    by_cases hc : c = d
    · subst hc
      rw [setConnection_self] at hsession
      exact .opened nowMs hconnection (ConnectionTask.session.inj hsession).symm
    · rw [setConnection_of_ne _ hc] at hsession
      exact .same hsession
  | @driven d task' hconnection input hoffers =>
    change (running.setConnection d _).connections c = _ at hsession
    by_cases hc : c = d
    · subst hc
      rw [setConnection_self] at hsession
      exact .stepped hconnection hoffers (ConnectionTask.session.inj hsession).symm
    · rw [setConnection_of_ne _ hc] at hsession
      exact .same hsession

/-- Only the tray and the watcher change the shared state. -/
theorem step_state (running : RunningAgent Ip C) {input : Input Ip C}
    (hpaused : ∀ paused, input ≠ .setPaused paused) (hcopy : ∀ offered, input ≠ .copy offered) :
    (running.step input).toAgentState = running.toAgentState := by
  cases input with
  | setPaused paused => exact absurd rfl (hpaused paused)
  | copy offered => exact absurd rfl (hcopy offered)
  | openPairing token hosts nowMs =>
    change (running.openPairing token hosts nowMs).toAgentState = _
    unfold openPairing
    split
    · rfl
    · split_ifs <;> rfl
  | firstFrame c inbound =>
    rw [step]
    split
    · unfold dispatch
      split
      · split <;> rfl
      · rfl
      · rfl
    · rfl
  | readPaused c =>
    rw [step]
    split
    · unfold readPaused
      split <;> rfl
    · rfl
  | onFrame c nowMs seed =>
    rw [step]
    split
    · rfl
    · unfold call
      split <;> rfl
    · rfl
  | accept | enter | act | next =>
    rw [step]
    split <;> rfl
  | pump =>
    change running.pump.toAgentState = _
    unfold pump
    split <;> rfl

/-- What an input lets the loop of the session on a connection do. -/
def Input.forSession (running : RunningAgent Ip C) (c : C) : Input Ip C → Option SessionTask.Input
  | .onFrame d nowMs seed =>
    if d = c then (running.flags c).map fun paused ↦ .onFrame paused nowMs seed else none
  | .act d _ works => if d = c then some (.act running.stage works) else none
  | .next d inbound => if d = c then some (.next inbound) else none
  | _ => none

/-- A session stays on its connection, and goes on by what the input lets its loop do. -/
theorem step_session {running : RunningAgent Ip C} {c : C} {task : SessionTask}
    (h : running.connections c = .session task) (input : Input Ip C) :
    (running.step input).connections c =
      .session (((input.forSession running c).map task.step).getD task) := by
  have hne {d : C} {connection : ConnectionTask} (hconnection : running.connections d = connection)
      (hother : connection ≠ .session task) : d ≠ c := by
    rintro rfl
    exact hother (hconnection.symm.trans h)
  have hset {d : C} {connection : ConnectionTask} (hd : d ≠ c) :
      (running.setConnection d connection).connections c = .session task := by
    rw [setConnection_of_ne _ (Ne.symm hd), h]
  cases input with
  | openPairing token hosts nowMs =>
    change (running.openPairing token hosts nowMs).connections c = _
    unfold openPairing
    split
    · exact h
    · split_ifs <;> exact h
  | setPaused | copy => exact h
  | accept d attempt =>
    rw [step]
    split
    · next hconnection =>
      have hd : d ≠ c := hne hconnection (by simp)
      exact hset hd
    · exact h
  | firstFrame d inbound =>
    rw [step]
    split
    · next hconnection =>
      have hd : d ≠ c := hne hconnection (by simp)
      unfold dispatch
      split
      · split
        · exact hset hd
        · exact hset hd
        · exact hset hd
      · exact hset hd
      · exact hset hd
    · exact h
  | enter d nowMs =>
    rw [step]
    split
    · exact h
    · next hconnection =>
      have hd : d ≠ c := hne hconnection (by simp)
      exact hset hd
    · exact h
  | readPaused d =>
    rw [step]
    split
    · unfold readPaused
      split <;> exact h
    · exact h
  | onFrame d nowMs seed =>
    by_cases hd : d = c
    · subst hd
      rw [step, h]
      dsimp only
      unfold call
      cases hflag : running.flags d with
      | none => simpa [Input.forSession, hflag] using h
      | some paused =>
        simp only [Input.forSession, if_pos, hflag, Option.map_some, Option.getD_some]
        exact (running.setFlag d none).setConnection_self d _
    · rw [Input.forSession, if_neg hd, step]
      split
      · exact h
      · unfold call
        split
        · exact hset hd
        · exact h
      · exact h
  | act d loads works =>
    by_cases hd : d = c
    · subst hd
      rw [step, h]
      simp only [Input.forSession, if_pos, Option.map_some, Option.getD_some]
      exact running.setConnection_self d _
    · rw [Input.forSession, if_neg hd, step]
      split
      · exact h
      · exact hset hd
      · exact h
  | next d inbound =>
    by_cases hd : d = c
    · subst hd
      rw [step, h]
      simp only [Input.forSession, if_pos, Option.map_some, Option.getD_some]
      exact running.setConnection_self d _
    · rw [Input.forSession, if_neg hd, step]
      split
      · exact h
      · exact hset hd
      · exact h
  | pump =>
    change running.pump.connections c = _
    unfold pump
    split <;> exact h

/-! ## The pause flag -/

/-- A loop has a value of the flag only for a frame that its session is about to be called with. -/
def Flagged (running : RunningAgent Ip C) : Prop :=
  ∀ c flag, running.flags c = some flag →
    ∃ task frame, running.connections c = .session task ∧ task.phase = .received frame

/-- Reading the flag for a frame gives a loop its value, and calling the session takes it away. -/
theorem step_flags {running : RunningAgent Ip C} (hflagged : running.Flagged) (c : C)
    (input : Input Ip C) :
    ((∀ nowMs seed, input ≠ .onFrame c nowMs seed) ∧ (running.step input).flags c = running.flags c) ∨
      ((∃ nowMs seed, input = .onFrame c nowMs seed) ∧ (running.step input).flags c = none) ∨
        running.flags c = none ∧ (running.step input).flags c = some running.paused ∧
          ∃ task frame, running.connections c = .session task ∧ task.phase = .received frame ∧
            (running.step input).connections c = .session task := by
  cases input with
  | openPairing token hosts nowMs =>
    refine .inl ⟨by simp, ?_⟩
    change (running.openPairing token hosts nowMs).flags c = _
    unfold openPairing
    split
    · rfl
    · split_ifs <;> rfl
  | setPaused | copy => exact .inl ⟨by simp, rfl⟩
  | accept | enter | act | next =>
    refine .inl ⟨by simp, ?_⟩
    rw [step]
    split <;> rfl
  | firstFrame d inbound =>
    refine .inl ⟨by simp, ?_⟩
    rw [step]
    split
    · unfold dispatch
      split
      · split <;> rfl
      · rfl
      · rfl
    · rfl
  | readPaused d =>
    rw [step]
    split
    · next task hconnection =>
      unfold readPaused
      split
      · next frame hphase hnone =>
        by_cases hd : c = d
        · subst hd
          exact .inr (.inr ⟨hnone, Function.update_self .., task, frame, hconnection, hphase, hconnection⟩)
        · exact .inl ⟨by simp, Function.update_of_ne hd ..⟩
      · exact .inl ⟨by simp, rfl⟩
    · exact .inl ⟨by simp, rfl⟩
  | onFrame d nowMs seed =>
    by_cases hd : d = c
    · subst hd
      refine .inr (.inl ⟨⟨nowMs, seed, rfl⟩, ?_⟩)
      cases hflag : running.flags d with
      | none =>
        rw [step]
        split
        · exact hflag
        · unfold call
          rw [hflag]
          exact hflag
        · exact hflag
      | some paused =>
        obtain ⟨task, -, hconnection, -⟩ := hflagged d paused hflag
        rw [step, hconnection]
        dsimp only
        unfold call
        rw [hflag]
        exact Function.update_self ..
    · refine .inl ⟨fun _ _ heq ↦ hd (Input.onFrame.inj heq).1, ?_⟩
      rw [step]
      split
      · rfl
      · unfold call
        split
        · exact Function.update_of_ne (Ne.symm hd) ..
        · rfl
      · rfl
  | pump =>
    refine .inl ⟨by simp, ?_⟩
    change running.pump.flags c = _
    unfold pump
    split <;> rfl

/-- The loop of a session that is about to be called waits for just that. -/
theorem step_session_received {running : RunningAgent Ip C} {c : C} {task : SessionTask} {frame : Frame}
    (hconnection : running.connections c = .session task) (hphase : task.phase = .received frame)
    {input : Input Ip C} (hinput : ∀ nowMs seed, input ≠ .onFrame c nowMs seed) :
    (running.step input).connections c = .session task := by
  rw [step_session hconnection]
  cases input with
  | onFrame d nowMs seed =>
    have hd : d ≠ c := fun heq ↦ hinput nowMs seed (heq ▸ rfl)
    rw [Input.forSession, if_neg hd]
    rfl
  | act d loads works =>
    rw [Input.forSession]
    split_ifs
    · exact congrArg _ (by rw [Option.map_some, Option.getD_some, SessionTask.step, hphase])
    · rfl
  | next d inbound =>
    rw [Input.forSession]
    split_ifs
    · exact congrArg _ (by rw [Option.map_some, Option.getD_some, SessionTask.step, hphase])
    · rfl
  | _ => rfl

theorem Flagged.step {running : RunningAgent Ip C} (h : running.Flagged) (input : Input Ip C) :
    (running.step input).Flagged := by
  intro c flag hflag
  obtain ⟨hinput, hsame⟩ | ⟨-, hnone⟩ | ⟨-, -, task, frame, -, hphase, hafter⟩ := step_flags h c input
  · obtain ⟨task, frame, hconnection, hphase⟩ := h c flag (hsame.symm.trans hflag)
    exact ⟨task, frame, step_session_received hconnection hphase hinput, hphase⟩
  · cases hnone.symm.trans hflag
  · exact ⟨task, frame, hafter, hphase⟩

theorem flagged_run (identity : IdentityKeypair) (displayName : String) (stored : List PairingRecord)
    (inputs : List (Input Ip C)) : ((start identity displayName stored).run inputs).Flagged :=
  foldl_invariant (P := Flagged) (fun _ input _ h ↦ h.step input) nofun

theorem run_identity (running : RunningAgent Ip C) (inputs : List (Input Ip C)) :
    (running.run inputs).identity = running.identity :=
  agent_invariant (P := fun agent ↦ agent.identity = running.identity) (fun _ _ h ↦ h)
    (fun agent input h ↦ (agent.step_identity input).trans h) rfl inputs

end RunningAgent

end Running

namespace Reference

/-- The phone that the computer has been paired with before. -/
def storedPairings : List PairingRecord :=
  [.new phoneIdentity.deviceId phoneIdentity.publicBytes "iPhone" 0]

/-- The phone connects, and the computer answers its HELLO. -/
def phoneConnects : List (RunningAgent.Input Unit Unit) :=
  [.accept () ⟨(), 0⟩, .firstFrame () (.frame helloFrame), .enter () 0, .readPaused (),
    .onFrame () 0 (some (pad 32 [11])), .act () true true, .act () true true]

end Reference

end AirClip
