import AirClip.Core.Lifecycle
import AirClip.Core.Messages
import AirClip.Foundation.Runs

/-!
# The end of a session

What is left of a session that has been closed, or that has its keys.  A closed session refuses every
frame, but what builds a frame asks for a channel only: a session that once had keys goes on sealing.
And the ephemeral stays in the session from its generation on, past the derivation of the keys.
-/

open Foundation

namespace AirClip

section SessionEnds

variable [Primitives]

namespace Session

/-! ## Calls on a closed session -/

/-- The call has failed. -/
def Failed {α : Type} (result : Except Error α × Session) : Prop :=
  ∃ failure, result.1 = .error failure

variable [Ciborium]

/-- The call yields nothing to send: a frame is answered by a close alone, and no frame is built. -/
def Withholds (session : Session) : Call → Prop
  | .pushClip contentType body sourceName nowMs randomId =>
    Failed (session.pushClip contentType body sourceName nowMs randomId)
  | .pushClipWithId clipId contentType body sourceName nowMs =>
    Failed (session.pushClipWithId clipId contentType body sourceName nowMs)
  | .requestStageList => Failed session.requestStageList
  | .requestStageItem stageId => Failed (session.requestStageItem stageId)
  | .sendStageList items => Failed (session.sendStageList items)
  | .sendStageItem clip => Failed (session.sendStageItem clip)
  | .ping => Failed session.ping
  | .setPaused _ => True
  | .onFrame frame nowMs seed => ∃ why, (session.onFrame frame nowMs seed).2 = [.close why]

/-- Nothing is sent any more, whatever calls follow. -/
def Final (session : Session) : Prop :=
  ∀ (later : List Call) (call : Call), (session.after later).Withholds call

theorem Final.ping {session : Session} (h : session.Final) : Failed session.ping := h [] .ping

omit [Ciborium] in
/-- There is no channel to seal with, or no counter is left on it. -/
def Sealless (session : Session) : Prop :=
  ∀ channel, session.channel = some channel → channel.tx.ctr.toNat + 1 = 2 ^ 64

omit [Ciborium] in
theorem Sealless.sealFrame {session : Session} (h : session.Sealless) (ty : FrameType)
    (plain : Bytes) : ∃ failure, session.sealFrame ty plain = (.error failure, session) := by
  obtain hfail | ⟨channel, payload, channel', hchannel, hpayload, -⟩ :=
    session.sealFrame_cases ty plain
  · exact hfail
  · obtain ⟨ct, -, hctr, -, -⟩ := AeadChannel.sealPayload_eq_ok hpayload
    have hexhausted := h channel hchannel
    omega

theorem Sealless.sealMap {session : Session} (h : session.Sealless) (ty : FrameType)
    (builder : MapBuilder) : ∃ failure, session.sealMap ty builder = (.error failure, session) := by
  unfold Session.sealMap
  split
  · exact ⟨_, rfl⟩
  · exact h.sealFrame ty _

theorem Sealless.pushClip {session : Session} (h : session.Sealless) (contentType : ContentType)
    (body : Bytes) (sourceName : String) (nowMs : UInt64) (randomId : Option (Octets 8)) :
    ∃ failure,
      session.pushClip contentType body sourceName nowMs randomId = (.error failure, session) := by
  unfold Session.pushClip
  split_ifs
  · exact ⟨_, rfl⟩
  cases randomId with
  | none => exact ⟨_, rfl⟩
  | some clipId =>
    obtain ⟨failure, hfail⟩ :=
      h.sealMap .clipPush (clipPushMap clipId contentType body sourceName nowMs)
    refine ⟨failure, ?_⟩
    simp only [pushClipWithId, hfail]

/-- A closed session without a seal yields nothing, and stays as it is but for the pause flag. -/
theorem Sealless.perform {session : Session} (h : session.Sealless)
    (hclosed : session.state = .closed) (call : Call) :
    session.Withholds call ∧ (session.perform call).1.state = .closed ∧
      (session.perform call).1.Sealless := by
  have hreturned {result : Except Error Frame × Session}
      (hfail : ∃ failure, result = (.error failure, session)) :
      Failed result ∧ (returned result).1.state = .closed ∧ (returned result).1.Sealless := by
    obtain ⟨failure, rfl⟩ := hfail
    exact ⟨⟨failure, rfl⟩, hclosed, h⟩
  cases call with
  | pushClip contentType body sourceName nowMs randomId =>
    obtain ⟨failure, hfail⟩ := h.pushClip contentType body sourceName nowMs randomId
    simp only [Withholds, Session.perform, hfail]
    exact ⟨⟨failure, rfl⟩, hclosed, h⟩
  | pushClipWithId | requestStageList | requestStageItem | sendStageList | sendStageItem =>
    exact hreturned (h.sealMap _ _)
  | ping => exact hreturned (h.sealFrame _ _)
  | setPaused => exact ⟨trivial, hclosed, h⟩
  | onFrame frame nowMs seed =>
    have hrefused : session.onFrame frame nowMs seed = (session, [.close "frame after close"]) :=
      if_pos hclosed
    simp only [Withholds, Session.perform, hrefused]
    exact ⟨⟨_, rfl⟩, hclosed, h⟩

theorem Sealless.after {session : Session} (h : session.Sealless) (hclosed : session.state = .closed)
    (later : List Call) : (session.after later).state = .closed ∧ (session.after later).Sealless := by
  induction later generalizing session with
  | nil => exact ⟨hclosed, h⟩
  | cons call later ih =>
    obtain ⟨-, hclosed', h'⟩ := h.perform hclosed call
    exact ih h' hclosed'

/-- However a session has been closed, it yields nothing more exactly if it has been closed before it
had a channel, or the counter of its channel is used up. -/
theorem closed_final_iff [AeadAvailable] (session : Session) (calls : List Call)
    (hclosed : (session.after calls).state = .closed) :
    (session.after calls).Final ↔ (session.after calls).Sealless := by
  constructor
  · intro hfinal channel hchannel
    by_contra hctr
    have hbound := channel.tx.ctr.toNat_lt
    obtain ⟨frame, later, hping⟩ := sealFrame_available .ping hchannel
      (show channel.tx.ctr.toNat + 1 < 2 ^ 64 by omega) (show ([] : Bytes).length / 64 < _ by simp)
    obtain ⟨failure, hfailed⟩ := hfinal.ping
    rw [ping, hping] at hfailed
    cases hfailed
  · intro h later call
    obtain ⟨hclosed', h'⟩ := h.after hclosed later
    exact (h'.perform hclosed' call).1

/-! ## The ephemeral -/

/-- The call hands an authentic HELLO to a session that waits for one. -/
def AcceptsHello (session : Session) : Call → Prop
  | .onFrame frame nowMs seed => session.state = .awaitingHello ∧ frame.ty = .hello ∧
    ∃ hello peer basis eph payload, session.HelloAuthentic frame.payload nowMs hello peer basis ∧
      Keypair.generate seed = .ok eph ∧ (session.ackMap hello peer eph).toVec = .ok payload
  | _ => False

/-- None of the calls hands over a HELLO that is accepted. -/
def Ungreeted (session : Session) (calls : List Call) : Prop :=
  EveryStep (fun session call ↦ (session.perform call).1)
    (fun session call ↦ ¬ session.AcceptsHello call) session calls

/-- A session that accepts a HELLO is established, and holds its ephemeral. -/
theorem AcceptsHello.perform {session : Session} {call : Call} (h : session.AcceptsHello call) :
    (session.perform call).1.state = .established ∧ (session.perform call).1.eph ≠ none := by
  cases call with
  | onFrame frame nowMs seed =>
    obtain ⟨hstate, hty, hello, peer, basis, eph, payload, hauth, heph, hpayload⟩ := h
    have hsame : ({ session with lastActivityMs := nowMs } : Session).HelloAuthentic frame.payload
        nowMs hello peer basis := ⟨hauth.1, hauth.2, hauth.3, hauth.4, hauth.5, hauth.6⟩
    have hgreeted : session.onFrame frame nowMs seed =
        ({ session with lastActivityMs := nowMs }.greeted hello peer eph,
          [.send ⟨.helloAck, payload⟩, .emit (.established ⟨hello.id⟩)]) := by
      rw [← onHello_authentic hsame heph hpayload]
      simp only [onFrame, hstate, reduceCtorEq, if_false, hty]
    change (session.onFrame frame nowMs seed).1.state = _ ∧ (session.onFrame frame nowMs seed).1.eph ≠ _
    rw [hgreeted]
    exact ⟨rfl, Option.some_ne_none eph⟩
  | _ => exact h.elim

/-- An ephemeral is taken into a session with a HELLO, and none is ever dropped. -/
theorem eph_perform {session : Session} (hcoherent : session.Coherent) (call : Call) :
    (session.perform call).1.eph = none ↔ session.eph = none ∧ ¬ session.AcceptsHello call := by
  by_cases haccepts : session.AcceptsHello call
  · exact iff_of_false haccepts.perform.2 fun h ↦ h.2 haccepts
  rw [and_iff_left haccepts]
  obtain houtbound | ⟨frame, nowMs, seed, rfl⟩ := call.isOutbound_or
  · rw [(perform_outbound hcoherent houtbound).unchanged]
  · change (session.onFrame frame nowMs seed).1.eph = none ↔ _
    have hreception := onFrame_cases hcoherent frame nowMs seed
    generalize session.onFrame frame nowMs seed = result at hreception
    cases hreception with
    | refused | acknowledged => exact Iff.rfl
    | greeted hstate hty hauth heph hpayload =>
      exact absurd ⟨hstate, hty, _, _, _, _, _, hauth, heph, hpayload⟩ haccepts
    | opened => rw [(onPlain_answers _ _ _).unchanged]

theorem eph_after {session : Session} (hcoherent : session.Coherent) (calls : List Call) :
    (session.after calls).eph = none ↔ session.eph = none ∧ session.Ungreeted calls := by
  induction calls generalizing session with
  | nil => exact (and_iff_left trivial).symm
  | cons call calls ih =>
    calc
      _ ↔ (session.perform call).1.eph = none ∧ (session.perform call).1.Ungreeted calls :=
        ih (hcoherent.perform call)
      _ ↔ (session.eph = none ∧ ¬ session.AcceptsHello call) ∧
          (session.perform call).1.Ungreeted calls := by rw [eph_perform hcoherent]
      _ ↔ session.eph = none ∧ session.Ungreeted (call :: calls) := and_assoc

theorem Opened.eph_eq_none {session : Session} (h : Opened session) :
    session.eph = none ↔ session.role = .pc := by
  cases h with
  | phone h =>
    obtain ⟨eph, -, hstart⟩ := startPhone_opens h
    simp [startPhone_session hstart, phoneOpened]
  | pc => simp [newPc]

theorem Ungreeted.of_prefix {session : Session} {earlier calls : List Call}
    (hearlier : earlier <+: calls) (h : session.Ungreeted calls) : session.Ungreeted earlier := by
  induction earlier generalizing session calls with
  | nil => trivial
  | cons call earlier ih =>
    obtain ⟨rest, rfl⟩ := hearlier
    exact ⟨h.1, ih ⟨rest, rfl⟩ h.2⟩

/-- Right after a HELLO has been accepted there is an ephemeral in an established session. -/
theorem exists_eph_of_greeted {session : Session} {calls : List Call}
    (h : ¬ session.Ungreeted calls) :
    ∃ earlier, earlier <+: calls ∧ (session.after earlier).Begun ∧
      (session.after earlier).eph ≠ none := by
  induction calls generalizing session with
  | nil => exact absurd trivial h
  | cons call calls ih =>
    by_cases haccepts : session.AcceptsHello call
    · obtain ⟨hstate, heph⟩ := haccepts.perform
      exact ⟨[call], ⟨calls, rfl⟩, .inl hstate, heph⟩
    · obtain ⟨earlier, hearlier, hbegun, heph⟩ := ih fun hlater ↦ h ⟨haccepts, hlater⟩
      exact ⟨call :: earlier, List.cons_prefix_cons.mpr ⟨rfl, hearlier⟩, hbegun, heph⟩

/-- Whatever calls are made, a session never holds an ephemeral in a state that is established or
closed exactly if it is a session of the computer that accepts no HELLO, or it gets into no such
state. -/
theorem ephemeral_gone_iff {opening : Session} (hopened : Opened opening) (calls : List Call) :
    (∀ earlier, earlier <+: calls → (opening.after earlier).Begun →
      (opening.after earlier).eph = none) ↔
    opening.role = .pc ∧ opening.Ungreeted calls ∨
      ∀ earlier, earlier <+: calls → ¬ (opening.after earlier).Begun := by
  have hcoherent := hopened.fresh.1
  constructor
  · intro hgone
    cases hrole : opening.role with
    | phone =>
      refine .inr fun earlier hearlier hbegun ↦ ?_
      have heph := ((eph_after hcoherent earlier).mp (hgone earlier hearlier hbegun)).1
      rw [hopened.eph_eq_none, hrole] at heph
      cases heph
    | pc =>
      refine .inl ⟨rfl, ?_⟩
      by_contra hgreeted
      obtain ⟨earlier, hearlier, hbegun, heph⟩ := exists_eph_of_greeted hgreeted
      exact heph (hgone earlier hearlier hbegun)
  · rintro (⟨hrole, hungreeted⟩ | hnever) earlier hearlier hbegun
    · exact (eph_after hcoherent earlier).mpr
        ⟨hopened.eph_eq_none.mpr hrole, hungreeted.of_prefix hearlier⟩
    · exact absurd hbegun (hnever earlier hearlier)

end Session

end SessionEnds

namespace Reference

/-- A computer that knows no phone closes its session on a HELLO. -/
def strangerGreets : List Session.Call := [.onFrame helloFrame 0 none]

/-- A computer accepts a HELLO and closes its session on a second one. -/
def phoneGreetsTwice : List Session.Call :=
  [.onFrame helloFrame 0 (some (pad 32 [11])), .onFrame helloFrame 0 none]

end Reference

open Reference in
theorem closed_final_iff_stranger : ((Session.newPc pcIdentity [] 0).after strangerGreets).Final := by
  have hchannel : ((Session.newPc pcIdentity [] 0).after strangerGreets).channel = none := by
    decide +kernel
  apply (Session.closed_final_iff (.newPc pcIdentity [] 0) strangerGreets (by decide +kernel)).mpr
  intro channel hsome
  rw [hchannel] at hsome
  cases hsome

open Reference in
/-- The session of the computer is closed and still builds a PING. -/
theorem closed_session_pings :
    ((Session.newPc pcIdentity [phonePeer] 0).after phoneGreetsTwice).state = .closed ∧
      ¬ ((Session.newPc pcIdentity [phonePeer] 0).after phoneGreetsTwice).Final := by
  refine ⟨by decide +kernel, fun hfinal ↦ ?_⟩
  have hpinged :
      ((Session.newPc pcIdentity [phonePeer] 0).after phoneGreetsTwice).ping.1.toOption.isSome := by
    decide +kernel
  obtain ⟨failure, hfailed⟩ := hfinal.ping
  rw [hfailed] at hpinged
  cases hpinged

open Reference in
/-- A computer that knows no phone holds no ephemeral when it has closed its session. -/
theorem ephemeral_gone_iff_stranger :
    ((Session.newPc pcIdentity [] 0).after strangerGreets).eph = none := by
  have hungreeted : (Session.newPc pcIdentity [] 0).Ungreeted strangerGreets := by
    refine ⟨?_, trivial⟩
    rintro ⟨-, -, hello, peer, basis, eph, payload, hauth, -⟩
    cases hauth.known
  apply (Session.ephemeral_gone_iff (.pc pcIdentity [] 0) strangerGreets).mpr (.inl ⟨rfl, hungreeted⟩) _
    (List.prefix_refl _)
  exact .inr (by decide +kernel)

open Reference in
/-- The phone holds its ephemeral after the handshake, and after it has closed its session. -/
theorem ephemeral_kept_by_phone :
    let phone := Session.phoneOpened phoneIdentity pcPeer 0 (.fromSeed (pad 32 [7]))
    let calls := [.onFrame helloAckFrame 0 none, .onFrame helloFrame 1 none]
    Session.startPhone phoneIdentity pcPeer 0 (some (pad 32 [7])) = .ok (phone, helloFrame) ∧
      (phone.after (calls.take 1)).state = .established ∧ (phone.after (calls.take 1)).eph.isSome ∧
      (phone.after calls).state = .closed ∧ (phone.after calls).eph.isSome := by
  intro phone calls
  exact ⟨Session.startPhone_eq phoneIdentity pcPeer 0 (.fromSeed (pad 32 [7])), by decide +kernel,
    by decide +kernel, by decide +kernel, by decide +kernel⟩

end AirClip
