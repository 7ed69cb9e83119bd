import AirClip.Agent.VisitSession

/-!
# A check that is left alone

What may happen while the simulated peer visits the agent: other devices open sessions and use them, and
nobody else pairs.  None of it concerns the visit, whose two connections stand where they did.
-/

open Foundation

namespace AirClip

/-- A connection that is none of the check's. -/
def Links.Foreign {C : Type} (links : Links C) (c : C) : Prop := c ≠ links.pairing ∧ c ≠ links.session

section Calm

variable [Primitives] {Ip C : Type} (visit : Visit Ip C)

namespace Acceptance

/-- What goes on elsewhere: no other phone pairs, and the user leaves the agent alone. -/
inductive Elsewhere : RunningAgent.Input Ip C → Prop
  | pump : Elsewhere .pump
  | unpaused : Elsewhere (.setPaused false)
  | accept {c : C} (hc : visit.Foreign c) {attempt : Attempt Ip} (hip : attempt.ip ≠ visit.ip) :
      Elsewhere (.accept c attempt)
  | firstFrame {c : C} (hc : visit.Foreign c) {inbound : Inbound}
      (hty : ∀ first, inbound = .frame first → first.ty ≠ .pairReq) : Elsewhere (.firstFrame c inbound)
  | enter {c : C} (hc : visit.Foreign c) (nowMs : UInt64) : Elsewhere (.enter c nowMs)
  | readPaused {c : C} (hc : visit.Foreign c) : Elsewhere (.readPaused c)
  | onFrame {c : C} (hc : visit.Foreign c) (nowMs : UInt64) (seed : Option Key32) :
      Elsewhere (.onFrame c nowMs seed)
  | act {c : C} (hc : visit.Foreign c) (loads works : Bool) : Elsewhere (.act c loads works)
  | next {c : C} (hc : visit.Foreign c) (inbound : Inbound) : Elsewhere (.next c inbound)

variable [TextCodecs]

/-- What may happen to a check that is left alone: no write and no draw fails, and the session is opened
once the agent knows the phone. -/
inductive Calm (world : Acceptance Ip C) : Input Ip C → Prop
  | elsewhere {input : RunningAgent.Input Ip C} (h : Elsewhere visit input) : Calm world (.agent input)
  | acceptPairing : Calm world (.agent (.accept visit.pairing ⟨visit.ip, visit.pairingMs⟩))
  | acceptSession (hconnected : world.session.toPc ≠ []) :
      Calm world (.agent (.accept visit.session ⟨visit.ip, visit.sessionMs⟩))
  | enterPairing (nowMs : UInt64) : Calm world (.agent (.enter visit.pairing nowMs))
  | enterSession (nowMs : UInt64)
      (hknown : ∃ record ∈ world.running.peers, record.peerKey = .ok visit.phoneKey) :
      Calm world (.agent (.enter visit.session nowMs))
  | onFramePairing {nowMs : UInt64} (hclock : visit.Clock nowMs) (seed : Key32) :
      Calm world (.agent (.onFrame visit.pairing nowMs (some seed)))
  | readPaused : Calm world (.agent (.readPaused visit.session))
  | onFrameSession {nowMs : UInt64} (hclock : visit.Clock nowMs) (seed : Key32) :
      Calm world (.agent (.onFrame visit.session nowMs (some seed)))
  | actPairing (loads : Bool) : Calm world (.agent (.act visit.pairing loads true))
  | actSession (loads : Bool) : Calm world (.agent (.act visit.session loads true))
  /-- The check has dropped the connection, and everything it has sent has been read. -/
  | endPairing (hdropped : ∀ fsm, world.peer.phase ≠ .pairAck fsm) (hread : world.pairing.toPc = []) :
      Calm world (.agent (.next visit.pairing .ended))
  | endSession (hcomplete : world.peer.phase = .complete) :
      Calm world (.agent (.next visit.session .ended))
  | pairingArrives : Calm world .pairingArrives
  | sessionArrives : Calm world .sessionArrives
  | take (nowMs laterMs : UInt64) (randomId : Octets 8) :
      Calm world (.take nowMs laterMs (some randomId) true)
  | reconnect {nowMs : UInt64} (hclock : visit.Clock nowMs) (seed : Key32) :
      Calm world (.reconnect nowMs (some seed) true true)

end Acceptance

/-! ## Elsewhere -/

namespace Visit

/-- The visit stands where it did, and the agent may have reported something. -/
structure Undisturbed (running running' : RunningAgent Ip C) : Prop where
  agent : running'.toAgent = { running.toAgent with events := running'.events }
  paused : running.paused = false → running'.paused = false
  flag : running.flags visit.session ≠ some true → running'.flags visit.session ≠ some true
  stage : running'.stage = running.stage
  events : running.events ⊆ running'.events
  limiter : running'.limiter.entry visit.ip = running.limiter.entry visit.ip
  atPairing : running'.connections visit.pairing = running.connections visit.pairing
  atSession : running'.connections visit.session = running.connections visit.session
  foreign : ∀ c, visit.Foreign c → running'.connections c = .pairing → running.connections c = .pairing

variable {visit}

theorem Undisturbed.refl (running : RunningAgent Ip C) : visit.Undisturbed running running where
  agent := rfl
  paused := id
  flag := id
  stage := rfl
  events := List.Subset.refl _
  limiter := rfl
  atPairing := rfl
  atSession := rfl
  foreign := fun _ _ ↦ id

variable [DecidableEq C]

/-- A foreign connection goes on, and pairs with nobody. -/
theorem undisturbed_setConnection {running : RunningAgent Ip C} {c : C} (hc : visit.Foreign c)
    {connection : ConnectionTask} (hpairs : connection ≠ .pairing) :
    visit.Undisturbed running (running.setConnection c connection) :=
  { Undisturbed.refl running with
    atPairing := running.setConnection_of_ne (Ne.symm hc.1) connection
    atSession := running.setConnection_of_ne (Ne.symm hc.2) connection
    foreign := by
      intro d _ hpairing
      obtain rfl | hd := eq_or_ne d c
      · rw [RunningAgent.setConnection_self] at hpairing
        exact absurd hpairing hpairs
      · rwa [running.setConnection_of_ne hd] at hpairing }

/-- No loop but those elsewhere reads the flag as set. -/
theorem undisturbed_setFlag (running : RunningAgent Ip C) {c : C} {flag : Option Bool}
    (hflag : c = visit.session → flag ≠ some true) :
    visit.Undisturbed running (running.setFlag c flag) :=
  { Undisturbed.refl running with
    flag := by
      intro hbefore
      change Function.update running.flags c flag visit.session ≠ some true
      obtain hc | hc := eq_or_ne visit.session c
      · rw [hc, Function.update_self]
        exact hflag hc.symm
      · rwa [Function.update_of_ne hc] }

variable [Ciborium]

theorem undisturbed_drive {running : RunningAgent Ip C} {c : C} (hc : visit.Foreign c)
    (task : SessionTask) (input : SessionTask.Input) {flags : C → Option Bool}
    (hflags : flags visit.session = running.flags visit.session) :
    visit.Undisturbed running { running.drive c task input with flags } := by
  have hset : visit.Undisturbed running (running.setConnection c (.session (task.step input))) :=
    undisturbed_setConnection hc (by simp)
  exact { hset with
    agent := rfl
    flag := fun hflag hset ↦ hflag (hflags.symm.trans hset)
    events := List.subset_append_left _ _ }

variable [DecidableEq Ip] [TextCodecs]

omit [DecidableEq Ip] in
/-- The task of a pairing exchange that has come to its end does nothing. -/
theorem pair_ended {running : RunningAgent Ip C} {c : C} (htask : running.tasks c = .ended)
    {input : Agent.Input C} (hinput : input = .readOffer c ∨
      (∃ nowMs seed, input = .onFrame c nowMs seed) ∨ (∃ loads works, input = .act c loads works) ∨
        ∃ frame, input = .nextFrame c frame) : running.pair input = running := by
  have hstep : running.toAgent.step input = running.toAgent := by
    obtain rfl | ⟨nowMs, seed, rfl⟩ | ⟨loads, works, rfl⟩ | ⟨frame, rfl⟩ := hinput
    · rw [Agent.step, htask]
    · rw [Agent.step, htask]
    · rw [Agent.step, htask]
    · change running.toAgent.receive c frame = running.toAgent
      unfold Agent.receive
      rw [htask]
  rw [RunningAgent.pair, hstep]

/-- Whatever goes on elsewhere, the visit stands where it did. -/
theorem undisturbed {running : RunningAgent Ip C}
    (hforeign : ∀ c, visit.Foreign c → running.connections c = .pairing → running.tasks c = .ended)
    {input : RunningAgent.Input Ip C} (h : Acceptance.Elsewhere visit input) :
    visit.Undisturbed running (running.step input) := by
  have hrefl : visit.Undisturbed running running := .refl running
  cases h with
  | pump =>
    change visit.Undisturbed running running.pump
    unfold RunningAgent.pump
    split
    · exact hrefl
    · exact { hrefl with }
  | unpaused => exact { hrefl with paused := fun _ ↦ rfl }
  | @accept c hc attempt hip =>
    rw [RunningAgent.step]
    split
    · have hset : visit.Undisturbed running (running.setConnection c
          (if (running.limiter.allow attempt.ip attempt.now).1 then .waiting else .dropped)) :=
        undisturbed_setConnection hc (by split_ifs <;> simp)
      exact { hset with limiter := running.limiter.allow_entry_other (Ne.symm hip) attempt.now }
    · exact hrefl
  | @firstFrame c hc inbound hty =>
    rw [RunningAgent.step]
    split
    · cases inbound with
      | frame first =>
        rw [RunningAgent.dispatch]
        split
        · next hreq => exact absurd hreq (hty first rfl)
        · exact undisturbed_setConnection hc (by simp)
        · exact undisturbed_setConnection hc (by simp)
      | failed | ended => exact undisturbed_setConnection hc (by simp)
    · exact hrefl
  | @enter c hc nowMs =>
    rw [RunningAgent.step]
    split
    · next hpairing =>
      rw [pair_ended (hforeign c hc hpairing) (.inl rfl)]
      exact hrefl
    · exact undisturbed_setConnection hc (by simp)
    · exact hrefl
  | @readPaused c hc =>
    rw [RunningAgent.step]
    split
    · unfold RunningAgent.readPaused
      split
      · exact undisturbed_setFlag running fun heq ↦ absurd heq hc.2
      · exact hrefl
    · exact hrefl
  | @onFrame c hc nowMs seed =>
    rw [RunningAgent.step]
    split
    · next hpairing =>
      rw [pair_ended (hforeign c hc hpairing) (.inr (.inl ⟨_, _, rfl⟩))]
      exact hrefl
    · next task _ =>
      unfold RunningAgent.call
      split
      · next paused hflag =>
        exact undisturbed_drive hc task (.onFrame paused nowMs seed)
          (Function.update_of_ne (Ne.symm hc.2) ..)
      · exact hrefl
    · exact hrefl
  | @act c hc loads works =>
    rw [RunningAgent.step]
    split
    · next hpairing =>
      rw [pair_ended (hforeign c hc hpairing) (.inr (.inr (.inl ⟨_, _, rfl⟩)))]
      exact hrefl
    · next task _ =>
      exact undisturbed_drive hc task (.act running.stage works) (rfl : running.flags _ = _)
    · exact hrefl
  | @next c hc inbound =>
    rw [RunningAgent.step]
    split
    · next hpairing =>
      rw [pair_ended (hforeign c hc hpairing) (.inr (.inr (.inr ⟨_, rfl⟩)))]
      exact hrefl
    · next task _ => exact undisturbed_drive hc task (.next inbound) (rfl : running.flags _ = _)
    · exact hrefl

end Visit

end Calm

end AirClip
