import AirClip.Core.HonestPairing

/-!
# Order in the pairing machines

Whatever frames a machine of the computer is fed, it answers, shows the emoji and completes in this
order, and after its first failure it does nothing but fail.  Whatever frames and taps a machine of the
phone gets, it confirms at most once, on the emoji it has shown, and never after a rejection.
-/

open Foundation Cbor

namespace AirClip

section Order

variable [Primitives] [Ciborium] [TextCodecs]

/-! ## Computer role -/

namespace PcPairing

/-- A frame with the clock and the random draw it meets. -/
structure Arrival where
  frame : Frame
  nowMs : UInt64
  seed : Option Key32

def receive (pairing : PcPairing) (arrival : Arrival) : PcPairing × List PairingAction :=
  pairing.onFrame arrival.frame arrival.nowMs arrival.seed

/-- The machine after some frames, and all actions they have led to. -/
def receiveAll (pairing : PcPairing) : List Arrival → PcPairing × List PairingAction
  | [] => (pairing, [])
  | arrival :: arrivals =>
    let first := pairing.receive arrival
    let rest := first.1.receiveAll arrivals
    (rest.1, first.2 ++ rest.2)

/-- The beginning of a complete pairing, and then failures only. -/
def Ordered (actions : List PairingAction) (failures : List String) : Prop :=
  ∃ ack emoji record done, done <+: [.send ⟨.pairAck, ack⟩, .showSas emoji, .completed record] ∧
    actions = done ++ failures.map .failed

/-- Where the machine stands in that order. -/
def Reached (pairing : PcPairing) (actions : List PairingAction) : Prop :=
  match pairing.state with
  | .awaitingReq => actions = []
  | .awaitingConfirm => ∃ ack emoji, actions = [.send ⟨.pairAck, ack⟩, .showSas emoji]
  | .done => ∃ ack emoji record,
      actions = [.send ⟨.pairAck, ack⟩, .showSas emoji, .completed record]
  | .failed => ∃ failures, Ordered actions failures

omit [Ciborium] [TextCodecs] in
/-- A machine that has not failed is on its way through the pairing. -/
theorem Reached.ordered {pairing : PcPairing} {actions : List PairingAction}
    (h : pairing.Reached actions) : ∃ failures, Ordered actions failures := by
  let record : PairingRecord := ⟨"", "", "", 0, 0⟩
  unfold Reached at h
  split at h
  · exact ⟨[], [], sasEmoji 0, record, [], List.nil_prefix, by simpa using h⟩
  · obtain ⟨ack, emoji, rfl⟩ := h
    exact ⟨[], ack, emoji, record, _, List.prefix_append [_, _] [PairingAction.completed record],
      (List.append_nil _).symm⟩
  · obtain ⟨ack, emoji, record, rfl⟩ := h
    exact ⟨[], ack, emoji, record, _, List.prefix_refl _, (List.append_nil _).symm⟩
  · exact h

theorem Reached.receive {pairing : PcPairing} {actions : List PairingAction}
    (h : pairing.Reached actions) (arrival : Arrival) :
    (pairing.receive arrival).1.Reached (actions ++ (pairing.receive arrival).2) := by
  have hcases := pairing.onFrame_cases arrival.frame arrival.nowMs arrival.seed
  unfold PcPairing.receive
  generalize pairing.onFrame arrival.frame arrival.nowMs arrival.seed = result at hcases
  cases hcases with
  | refused tokenUsed msg =>
    obtain ⟨failures, ack, emoji, record, done, hdone, rfl⟩ := h.ordered
    exact ⟨failures ++ [msg], ack, emoji, record, done, hdone, by simp⟩
  | answered hacceptable =>
    unfold Reached at h
    rw [hacceptable.state] at h
    rw [show actions = [] from h]
    exact ⟨_, _, rfl⟩
  | confirmed hconfirmed =>
    unfold Reached at h
    rw [hconfirmed.state] at h
    obtain ⟨ack, emoji, rfl⟩ := h
    exact ⟨ack, emoji, _, rfl⟩

theorem Reached.receiveAll {pairing : PcPairing} {actions : List PairingAction}
    (h : pairing.Reached actions) (arrivals : List Arrival) :
    (pairing.receiveAll arrivals).1.Reached (actions ++ (pairing.receiveAll arrivals).2) := by
  induction arrivals generalizing pairing actions with
  | nil => simpa [PcPairing.receiveAll] using h
  | cons arrival arrivals ih =>
    have hlater := ih (h.receive arrival)
    rw [List.append_assoc] at hlater
    exact hlater

omit [Primitives] [Ciborium] [TextCodecs] in
/-- What follows a failure is a failure. -/
theorem Ordered.failed_last {actions before after : List PairingAction} {failures : List String}
    {reason : String} (h : Ordered actions failures)
    (hsplit : actions = before ++ .failed reason :: after) :
    ∀ action ∈ after, ∃ reason, action = .failed reason := by
  obtain ⟨ack, emoji, record, done, hdone, rfl⟩ := h
  have hbegun : .failed reason ∉ done := by
    intro hmem
    simpa using hdone.subset hmem
  have hfailed (action : PairingAction) (hmem : action ∈ failures.map .failed) :
      ∃ reason, action = .failed reason := by
    obtain ⟨failure, -, rfl⟩ := List.mem_map.mp hmem
    exact ⟨failure, rfl⟩
  intro action hmem
  obtain ⟨tail, rfl, htail⟩ | ⟨tail, hleft, htail⟩ := List.append_eq_append_iff.mp hsplit
  · apply hfailed
    rw [htail]
    exact List.mem_append_right _ (List.mem_cons_of_mem _ hmem)
  · cases tail with
    | nil =>
      apply hfailed
      rw [show failures.map .failed = .failed reason :: after from htail.symm]
      exact List.mem_cons_of_mem _ hmem
    | cons first tail =>
      obtain ⟨rfl, -⟩ := List.cons.inj htail
      rw [hleft] at hbegun
      simp at hbegun

end PcPairing

/-! ## Phone role -/

namespace PhonePairing

/-- The machine after some calls. -/
def after (pairing : PhonePairing) (calls : List Call) : PhonePairing :=
  calls.foldl (fun pairing call ↦ (pairing.perform call).1) pairing

/-- The calls, each with the actions it has led to. -/
def trace (pairing : PhonePairing) : List Call → List (Call × List PairingAction)
  | [] => []
  | call :: calls => (call, (pairing.perform call).2) :: (pairing.perform call).1.trace calls

/-- Nothing has been sent or completed. -/
def Unsent (past : List (Call × List PairingAction)) : Prop :=
  ∀ entry ∈ past, (∀ frame, .send frame ∉ entry.2) ∧ ∀ record, .completed record ∉ entry.2

/-- Moreover the user has not rejected the emoji, and no frame has been refused. -/
structure Unspoilt (past : List (Call × List PairingAction)) : Prop where
  unsent : Unsent past
  unrejected : ∀ entry ∈ past, entry.1 ≠ .rejectSas
  unrefused : ∀ entry ∈ past, ∀ frame reason, entry.1 = .onFrame frame → .failed reason ∉ entry.2

/-- A PAIR_ACK has been received, and the emoji for this SAS input shown for it, and no others. -/
def Shown (pairing : PhonePairing) (past : List (Call × List PairingAction)) (input : Bytes) : Prop :=
  (∃ ack r ephPkR, MapReader.fromSlice ack.payload = .ok r ∧
    r.byteArray 32 PairingKey.ackEphPk = .ok ephPkR ∧ ack.ty = .pairAck ∧
    input = AirClip.sasInput (pairing.eph.dh ephPkR) pairing.identity.publicBytes
      pairing.qr.publicKey pairing.qr.pairToken ∧
    (.onFrame ack, [.showSas (sasEmoji (sasDigest input))]) ∈ past) ∧
  ∀ entry ∈ past, ∀ emoji, .showSas emoji ∈ entry.2 → emoji = sasEmoji (sasDigest input)

/-- What holds of a machine and its past while it may still confirm. -/
structure Orderly (opening pairing : PhonePairing) (past : List (Call × List PairingAction)) :
    Prop where
  identity : pairing.identity = opening.identity
  qr : pairing.qr = opening.qr
  eph : pairing.eph = opening.eph
  waiting : pairing.state = .awaitingAck →
    Unspoilt past ∧ ∀ entry ∈ past, ∀ emoji, .showSas emoji ∉ entry.2
  showing : pairing.state = .awaitingUserConfirm → Unspoilt past ∧
    ∀ input, pairing.sasInput = some input → opening.Shown past input

omit [Primitives] [Ciborium] [TextCodecs] in
theorem Unspoilt.snoc {past : List (Call × List PairingAction)} (h : Unspoilt past) {call : Call}
    {actions : List PairingAction} (hunsent : Unsent [(call, actions)]) (hcall : call ≠ .rejectSas)
    (hframe : ∀ frame reason, call = .onFrame frame → .failed reason ∉ actions) :
    Unspoilt (past ++ [(call, actions)]) where
  unsent := fun entry hmem ↦ (List.mem_append.mp hmem).elim (h.unsent entry) (hunsent entry)
  unrejected := by
    intro entry hmem
    obtain hearlier | hlast := List.mem_append.mp hmem
    · exact h.unrejected entry hearlier
    · rwa [List.mem_singleton.mp hlast]
  unrefused := by
    intro entry hmem
    obtain hearlier | hlast := List.mem_append.mp hmem
    · exact h.unrefused entry hearlier
    · rwa [List.mem_singleton.mp hlast]

/-- A frame that is refused and a rejection end the exchange. -/
theorem perform_refused {pairing : PhonePairing} {call : Call} {reason : String}
    (hcall : ∀ nowMs, call ≠ .confirmSas nowMs)
    (hfailed : .failed reason ∈ (pairing.perform call).2) :
    (pairing.perform call).1.state = .failed := by
  cases call with
  | onFrame frame =>
    change .failed reason ∈ (pairing.onFrame frame).2 at hfailed
    change (pairing.onFrame frame).1.state = .failed
    unfold PhonePairing.onFrame at hfailed ⊢
    split
    · next hstate hty =>
      simp only [hstate, hty] at hfailed
      unfold onAck at hfailed ⊢
      split
      · rfl
      next r hslice =>
      split
      · rfl
      next ephPkR hread =>
      simp [hslice, hread] at hfailed
    · rfl
  | confirmSas nowMs => exact absurd rfl (hcall nowMs)
  | rejectSas => rfl

theorem Orderly.perform {opening pairing : PhonePairing} {past : List (Call × List PairingAction)}
    (h : opening.Orderly pairing past) (call : Call) :
    opening.Orderly (pairing.perform call).1 (past ++ [(call, (pairing.perform call).2)]) := by
  have hcases := pairing.perform_cases call
  have hrefused {reason : String} : (∀ nowMs, call ≠ .confirmSas nowMs) →
      .failed reason ∈ (pairing.perform call).2 → (pairing.perform call).1.state = .failed :=
    perform_refused
  generalize pairing.perform call = result at hcases hrefused
  cases hcases with
  | refused _ state msg hstate =>
    have hsnoc (hactive : state = .awaitingAck ∨ state = .awaitingUserConfirm)
        (hpast : Unspoilt past) : Unspoilt (past ++ [(call, [.failed msg])]) := by
      have hconfirm : ∃ nowMs, call = .confirmSas nowMs := by
        by_contra hnone
        have hfailed := hrefused (not_exists.mp hnone) (List.mem_singleton_self _)
        change state = .failed at hfailed
        rw [hfailed] at hactive
        simp at hactive
      obtain ⟨nowMs, rfl⟩ := hconfirm
      exact hpast.snoc (by simp [Unsent]) (by simp) (by simp)
    refine ⟨h.identity, h.qr, h.eph, fun hwaiting ↦ ?_, fun hshowing ↦ ?_⟩
    · have hsame : pairing.state = .awaitingAck :=
        (hstate.resolve_right (by rw [show state = _ from hwaiting]; simp)).symm.trans hwaiting
      obtain ⟨hpast, hunshown⟩ := h.waiting hsame
      refine ⟨hsnoc (.inl hwaiting) hpast, fun entry hmem emoji ↦ ?_⟩
      obtain hearlier | hlast := List.mem_append.mp hmem
      · exact hunshown entry hearlier emoji
      · simp [List.mem_singleton.mp hlast]
    · have hsame : pairing.state = .awaitingUserConfirm :=
        (hstate.resolve_right (by rw [show state = _ from hshowing]; simp)).symm.trans hshowing
      obtain ⟨hpast, hshown⟩ := h.showing hsame
      refine ⟨hsnoc (.inr hshowing) hpast, fun input hinput ↦ ?_⟩
      obtain ⟨⟨ack, r, ephPkR, hslice, hread, hty, hbasis, hmem⟩, honly⟩ := hshown input hinput
      refine ⟨⟨ack, r, ephPkR, hslice, hread, hty, hbasis, List.mem_append_left _ hmem⟩,
        fun entry hmem emoji hemoji ↦ ?_⟩
      obtain hearlier | hlast := List.mem_append.mp hmem
      · exact honly entry hearlier emoji hemoji
      · simp [List.mem_singleton.mp hlast] at hemoji
  | @shown frame r ephPkR hstate hty hslice hread =>
    obtain ⟨hpast, hunshown⟩ := h.waiting hstate
    refine ⟨h.identity, h.qr, h.eph, fun hwaiting ↦ (nomatch hwaiting), fun _ ↦
      ⟨hpast.snoc (by simp [Unsent]) (by simp) (by simp), fun input hinput ↦ ?_⟩⟩
    have hbasis : input = AirClip.sasInput (opening.eph.dh ephPkR) opening.identity.publicBytes
        opening.qr.publicKey opening.qr.pairToken := by
      rw [← h.eph, ← h.identity, ← h.qr]
      exact (Option.some.inj hinput).symm
    rw [h.eph, h.identity, h.qr, ← hbasis]
    refine ⟨⟨frame, r, ephPkR, hslice, hread, hty, hbasis,
      List.mem_append_right _ (List.mem_singleton_self _)⟩, fun entry hmem emoji hemoji ↦ ?_⟩
    obtain hearlier | hlast := List.mem_append.mp hmem
    · exact absurd hemoji (hunshown entry hearlier emoji)
    · rw [List.mem_singleton.mp hlast] at hemoji
      simpa using hemoji
  | confirmed =>
    exact ⟨h.identity, h.qr, h.eph, fun hwaiting ↦ (nomatch hwaiting), fun hshowing ↦
      (nomatch hshowing)⟩

theorem Orderly.run {opening pairing : PhonePairing} {past : List (Call × List PairingAction)}
    (h : opening.Orderly pairing past) (calls : List Call) :
    opening.Orderly (pairing.after calls) (past ++ pairing.trace calls) := by
  induction calls generalizing pairing past with
  | nil => simpa [trace, after] using h
  | cons call calls ih =>
    have hlater := ih (h.perform call)
    rw [List.append_assoc] at hlater
    exact hlater

/-- A machine that is done or has failed sends nothing any more. -/
theorem unsent_trace {pairing : PhonePairing} (h : pairing.state = .done ∨ pairing.state = .failed)
    (calls : List Call) : Unsent (pairing.trace calls) := by
  induction calls generalizing pairing with
  | nil => simp [trace, Unsent]
  | cons call calls ih =>
    have hcases := pairing.perform_cases call
    have hstep : Unsent [(call, (pairing.perform call).2)] ∧
        ((pairing.perform call).1.state = .done ∨ (pairing.perform call).1.state = .failed) := by
      generalize pairing.perform call = result at hcases
      cases hcases with
      | refused _ state msg hstate =>
        refine ⟨by simp [Unsent], ?_⟩
        obtain rfl | rfl := hstate
        · exact h
        · exact .inr rfl
      | shown hstate | confirmed hstate => exact absurd h (by simp [hstate])
    intro entry hmem
    obtain rfl | hlater := List.mem_cons.mp hmem
    · exact hstep.1 _ (List.mem_singleton_self _)
    · exact ih hstep.2 entry hlater

/-- A PAIR_CONFIRM in a run, between what the machine has done before and what it does after. -/
structure ConfirmsInOrder (opening : PhonePairing) (earlier : List (Call × List PairingAction))
    (call : Call) (actions : List PairingAction) (later : List (Call × List PairingAction))
    (frame : Frame) : Prop where
  /-- It is sent together with one completion, on the word of the user. -/
  together : ∃ nowMs, call = .confirmSas nowMs ∧
    actions = [.send frame, .completed (opening.record nowMs)]
  unspoilt : Unspoilt earlier
  unsent_later : Unsent later
  /-- It carries the MAC over the SAS input whose emoji have been shown. -/
  shown : ∃ input, opening.Shown earlier input ∧ frame.ty = .pairConfirm ∧
    (confirmMap (opening.confirmMac input)).toVec = .ok frame.payload

/-- A frame that is sent is the one PAIR_CONFIRM of the run, and in order. -/
theorem Orderly.confirms {opening pairing : PhonePairing} {past : List (Call × List PairingAction)}
    (h : opening.Orderly pairing past) {call : Call} {frame : Frame}
    (hsend : .send frame ∈ (pairing.perform call).2) (calls : List Call) :
    opening.ConfirmsInOrder past call (pairing.perform call).2
      ((pairing.perform call).1.trace calls) frame := by
  have hcases := pairing.perform_cases call
  generalize pairing.perform call = result at hcases hsend
  cases hcases with
  | refused | shown => simp at hsend
  | @confirmed nowMs input payload hstate hinput hpayload =>
    obtain ⟨hpast, hshown⟩ := h.showing hstate
    have hframe : frame = ⟨.pairConfirm, payload⟩ := by simpa using hsend
    subst hframe
    have hrecord : pairing.record nowMs = opening.record nowMs := by rw [record, record, h.qr]
    refine ⟨⟨nowMs, rfl, by rw [hrecord]⟩, hpast, unsent_trace (.inl rfl) calls, input,
      hshown input hinput, rfl, ?_⟩
    rw [confirmMac, ← h.identity, ← h.qr]
    exact hpayload

omit [TextCodecs] in
theorem startWithEphemeral_orderly {identity : IdentityKeypair} {displayName : String}
    {qr : QrPayload} {eph : EphemeralKeypair} {opening : PhonePairing} {req : Frame}
    (h : startWithEphemeral identity displayName qr eph = .ok (opening, req)) :
    opening.Orderly opening [] := by
  unfold startWithEphemeral at h
  split at h
  · cases h
  · cases h
    exact ⟨rfl, rfl, rfl, fun _ ↦ ⟨⟨by simp [Unsent], by simp, by simp⟩, by simp⟩,
      fun hshowing ↦ (nomatch hshowing)⟩

end PhonePairing

/-! ## Both machines -/

/-- The machines keep their order in every run.  What the computer does is the beginning of an answered
and completed pairing, followed by failures only.  A PAIR_CONFIRM of the phone is sent once, with a
completion, over the SAS input whose emoji were shown for the PAIR_ACK, and after no rejection. -/
theorem pairing_machines_keep_order :
    (∀ identity displayName hosts token issuedMs arrivals,
      let actions := ((PcPairing.withToken identity displayName hosts token issuedMs).receiveAll
        arrivals).2
      (∃ failures, PcPairing.Ordered actions failures) ∧
        ∀ before reason after, actions = before ++ .failed reason :: after →
          ∀ action ∈ after, ∃ reason, action = .failed reason) ∧
    ∀ identity displayName qr eph opening req,
      PhonePairing.startWithEphemeral identity displayName qr eph = .ok (opening, req) →
      ∀ earlier call later frame,
        .send frame ∈ ((opening.after earlier).perform call).2 →
          opening.ConfirmsInOrder (opening.trace earlier) call ((opening.after earlier).perform call).2
            (((opening.after earlier).perform call).1.trace later) frame := by
  constructor
  · intro identity displayName hosts token issuedMs arrivals actions
    have hreached : (PcPairing.withToken identity displayName hosts token issuedMs).Reached [] := rfl
    obtain ⟨failures, hordered⟩ := (hreached.receiveAll arrivals).ordered
    exact ⟨⟨failures, hordered⟩, fun before reason after hsplit ↦ hordered.failed_last hsplit⟩
  · intro identity displayName qr eph opening req hstart earlier call later frame hsend
    exact ((PhonePairing.startWithEphemeral_orderly hstart).run earlier).confirms hsend later

end Order

namespace Reference

/-- The phone that has scanned the code of the computer. -/
def scanning : PhonePairing :=
  ⟨devices.phone, devices.phoneName, pairing.qrPayload, .fromSeed devices.phoneSeed, .awaitingAck, none⟩

end Reference

open Reference PhonePairing in
/-- The user confirms, once the answer of the computer is there, and then taps twice more. -/
theorem pairing_machines_keep_order_two_devices :
    scanning.ConfirmsInOrder (scanning.trace [.onFrame pairAck]) (.confirmSas 5)
        (((scanning.after [.onFrame pairAck]).perform (.confirmSas 5)).2)
        ((((scanning.after [.onFrame pairAck]).perform (.confirmSas 5)).1).trace
          [.confirmSas 6, .rejectSas]) pairConfirm := by
  apply pairing_machines_keep_order.2 devices.phone devices.phoneName pairing.qrPayload
    (.fromSeed devices.phoneSeed) scanning pairReq
  · exact PhonePairing.start_eq devices.phone devices.phoneName_lt pairing.qrPayload devices.phoneSeed
  · decide +kernel

end AirClip
