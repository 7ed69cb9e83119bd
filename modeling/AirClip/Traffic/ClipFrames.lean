import AirClip.Traffic.Beam
import AirClip.Traffic.Delivery

/-!
# Pushes and their acknowledgements

What the frames of a beam carry: the CLIP_PUSH of a clip is read back as that clip, the frame that makes
a clip arrive is its CLIP_PUSH, a CLIP_ACK comes after the arrival it acknowledges, and a beam succeeds
on an acknowledgement of its own clip only.
-/

open Foundation Cbor

namespace AirClip

/-- The event of the arrival of a clip. -/
def BeamedClip.event (clip : BeamedClip) : SessionEvent :=
  .clipArrived clip.clipId clip.contentType clip.body clip.sourceName clip.createdAtMs

/-- The type of the frames that bring an event about. -/
def SessionEvent.ty : SessionEvent → FrameType
  | .established _ => .hello
  | .clipArrived .. => .clipPush
  | .clipAcked .. => .clipAck
  | .stageListRequested => .stageListReq
  | .stageItemRequested _ => .stageGet
  | .stageList _ => .stageList
  | .stageItem .. => .stageItem
  | .peerError .. => .error

theorem arrivals_of_noClip {actions : List SessionAction} (h : NoClip actions) :
    arrivals actions = [] := by
  have hids : arrivedClips actions = (arrivals actions).map BeamedClip.clipId := by
    rw [arrivedClips, arrivals, List.map_filterMap]
    apply List.filterMap_congr
    intro event _
    cases event <;> rfl
  rw [h.arrived] at hids
  exact List.map_eq_nil_iff.mp hids.symm

theorem handledArrivals_append (left right : List DriverEntry) :
    handledArrivals (left ++ right) = handledArrivals left ++ handledArrivals right :=
  List.filterMap_append ..

theorem agentArrivals_append (left right : List AgentEvent) :
    agentArrivals (left ++ right) = agentArrivals left ++ agentArrivals right :=
  List.filterMap_append ..

section Frames

variable [Primitives]

/-! ## Frames that open -/

/-- A frame that opens carries its plaintext under the key of the receiver. -/
theorem Session.opens_plainUnder {session : Session} {frame : Frame} {plain : Bytes}
    (h : session.opens frame = some plain) : ∃ channel, session.channel = some channel ∧
      8 ≤ frame.payload.length ∧ frame.plainUnder channel.rx.key = some plain := by
  unfold opens at h
  split at h
  · cases h
  next channel hchannel =>
  split_ifs at h
  obtain ⟨failure, hfail⟩ | ⟨plain', hlength, -, hdecrypt, hok⟩ :=
    channel.openPayload_cases frame.ty frame.payload
  · rw [hfail] at h
    cases h
  · rw [hok] at h
    cases h
    exact ⟨channel, hchannel, hlength, hdecrypt⟩

/-- A frame that opens is one of those the ideal cipher allows. -/
theorem Unforged.mem {sent : List Frame} {receiver : Session} {frame : Frame} {plain : Bytes}
    (h : Unforged sent receiver frame) (hsent : ∀ earlier ∈ sent, 8 ≤ earlier.payload.length)
    (hopens : receiver.opens frame = some plain) : frame ∈ sent := by
  obtain ⟨channel, hchannel, hlength, hplain⟩ := Session.opens_plainUnder hopens
  obtain ⟨earlier, hmem, hnonce, haad, hct⟩ := h channel plain hchannel hplain
  rwa [← frame_ext_of_seal (hsent earlier hmem) hlength hnonce haad hct]

/-- A frame that has been sealed may be delivered. -/
theorem Unforged.of_mem {sent : List Frame} {receiver : Session} {frame : Frame}
    (h : frame ∈ sent) : Unforged sent receiver frame :=
  fun _ _ _ _ ↦ ⟨frame, h, rfl, rfl, rfl⟩

/-! ## Keys -/

namespace Session

/-- The session has been established, transmits under one key and receives under the other. -/
structure Keyed (txKey rxKey : Key32) (session : Session) : Prop where
  begun : session.Begun
  channel : ∃ channel, session.channel = some channel ∧ channel.tx.key = txKey ∧
    channel.rx.key = rxKey

section Keys

variable {txKey rxKey : Key32} {session : Session}

theorem Keyed.coherent (h : session.Keyed txKey rxKey) : session.Coherent := by
  obtain ⟨channel, hchannel, -, -⟩ := h.channel
  exact h.begun.elim (coherent_of_established · hchannel) coherent_of_closed

theorem Keyed.transmits (h : session.Keyed txKey rxKey) : session.Transmits txKey := by
  obtain ⟨channel, hchannel, htx, -⟩ := h.channel
  exact ⟨h.begun, channel, hchannel, htx⟩

/-- What opens in the session, it reads under its key. -/
theorem Keyed.plainUnder (h : session.Keyed txKey rxKey) {frame : Frame} {plain : Bytes}
    (hopens : session.opens frame = some plain) : frame.plainUnder rxKey = some plain := by
  obtain ⟨channel, hchannel, -, hplain⟩ := opens_plainUnder hopens
  obtain ⟨channel', hchannel', -, rfl⟩ := h.channel
  cases hchannel.symm.trans hchannel'
  exact hplain

variable [Ciborium]

theorem Keyed.perform (h : session.Keyed txKey rxKey) (call : Call) :
    (session.perform call).1.Keyed txKey rxKey := by
  obtain ⟨channel, hchannel, htx, hrx⟩ := h.channel
  obtain ⟨opened, items, later, hopening, hsealing, hlater, -⟩ :=
    perform_channel h.coherent hchannel call
  obtain ⟨later, rfl, hside, hkey⟩ := hsealing.sides
  refine ⟨(perform_begun h.coherent h.begun call).1, later, hlater,
    by rw [hkey, hopening.tx_eq, htx], ?_⟩
  rw [hside, ← hrx]
  generalize session.accepts call = accepted at hopening
  cases hopening with
  | idle => rfl
  | frame _ hopen => exact AeadChannel.openPayload_rx_key hopen

end Keys

/-! ## Types of the frames a call returns -/

theorem sealFrame_ty {session session' : Session} {ty : FrameType} {plain : Bytes} {frame : Frame}
    (h : session.sealFrame ty plain = (.ok frame, session')) : frame.ty = ty := by
  obtain ⟨channel, payload, channel', -, -, rfl, -⟩ := sealFrame_eq_ok h
  rfl

variable [Ciborium]

theorem sealMap_ty (session : Session) (ty : FrameType) (builder : MapBuilder) :
    ∀ frame ∈ (returned (session.sealMap ty builder)).2, frame.ty = ty := by
  unfold sealMap
  intro frame hmem
  split at hmem
  · cases hmem
  · next plain hplain =>
    generalize hseal : session.sealFrame ty plain = result at hmem
    obtain ⟨failure | sealed, later⟩ := result
    · cases hmem
    · cases List.mem_singleton.mp hmem
      exact sealFrame_ty hseal

theorem wireError_ty (session : Session) (code : WireErrorCode) (msg : String) :
    ∀ frame ∈ sentFrames (session.wireError code msg).2, frame.ty = .error := by
  rw [wireError_sealFrame]
  intro frame hmem
  generalize hseal : session.sealFrame .error _ = result at hmem
  obtain ⟨failure | sealed, later⟩ := result
  · cases hmem
  · cases List.mem_singleton.mp hmem
    exact sealFrame_ty hseal

/-- Only these types are sent in reply to a frame. -/
theorem onFrame_sent_ty {session : Session} (hcoherent : session.Coherent) {inbound : Frame}
    {nowMs : UInt64} {seed : Option Key32} {frame : Frame}
    (hsent : frame ∈ sentFrames (session.onFrame inbound nowMs seed).2) :
    frame.ty = .helloAck ∨ frame.ty = .clipAck ∨ frame.ty = .error ∨ frame.ty = .pong := by
  have hreception := onFrame_cases hcoherent inbound nowMs seed
  generalize session.onFrame inbound nowMs seed = result at hreception hsent
  cases hreception with
  | refused | acknowledged => cases hsent
  | greeted =>
    cases List.mem_singleton.mp hsent
    exact .inl rfl
  | @opened channel opened plain =>
    by_cases hpush : inbound.ty = .clipPush
    · rw [hpush] at hsent
      have hreceipt := onClipPush_cases
        { session with lastActivityMs := nowMs, channel := some opened } plain
      change frame ∈ sentFrames (onClipPush _ plain).2 at hsent
      generalize onClipPush _ plain = result at hreceipt hsent
      cases hreceipt with
      | received _ _ _ _ _ _ hseal =>
        cases List.mem_singleton.mp hsent
        exact .inr (.inl (sealFrame_ty hseal))
      | paused | oversize => exact .inr (.inr (.inl (wireError_ty _ _ _ frame hsent)))
      | refused => cases hsent
    by_cases hping : inbound.ty = .ping
    · rw [hping] at hsent
      change frame ∈ sentFrames (onPing _).2 at hsent
      obtain ⟨pong, session', -, hty, heq⟩ | ⟨-, heq⟩ := onPing_cases
        { session with lastActivityMs := nowMs, channel := some opened }
      · rw [heq] at hsent
        cases List.mem_singleton.mp hsent
        exact .inr (.inr (.inr hty))
      · rw [heq] at hsent
        cases hsent
    · rw [(onPlain_silent _ hpush hping plain).1] at hsent
      cases hsent

/-- No frame is replied to with a CLIP_PUSH. -/
theorem onFrame_reply_ty {session : Session} (hcoherent : session.Coherent) (inbound : Frame)
    (nowMs : UInt64) (seed : Option Key32) :
    ∀ frame ∈ sentFrames (session.onFrame inbound nowMs seed).2, frame.ty ≠ .clipPush := by
  intro frame hmem
  obtain hty | hty | hty | hty := onFrame_sent_ty hcoherent hmem <;> simp [hty]

/-! ## What a push and its acknowledgement say -/

/-- The CLIP_PUSH of a beam carries its clip. -/
theorem pushClip_reads [Ciborium.Lawful] [AeadCorrect] {session later : Session}
    {channel : AeadChannel} (hchannel : session.channel = some channel) {contentType : ContentType}
    {body : Bytes} {sourceName : String} {nowMs : UInt64} {randomId : Option (Octets 8)}
    {frame : Frame} {clipId : Octets 8} (hname : (utf8 sourceName).length < 2 ^ 64)
    (h : session.pushClip contentType body sourceName nowMs randomId =
      (.ok (frame, clipId), later)) :
    frame.ty = .clipPush ∧
      pushUnder channel.tx.key frame = some ⟨clipId, contentType, body, sourceName, nowMs⟩ := by
  unfold pushClip at h
  split at h
  · cases h
  next hbody =>
  split at h
  · cases h
  next clipId' =>
  obtain ⟨payload, r, hvec, hslice, hread, hcreated, hsource⟩ := clipPushMap_reads clipId' contentType
    nowMs (show body.length < 2 ^ 64 from (not_lt.mp hbody).trans_lt (by decide)) hname
  have hpush : session.pushClipWithId clipId' contentType body sourceName nowMs =
      session.sealFrame .clipPush payload := by rw [pushClipWithId, sealMap, hvec]
  rw [hpush] at h
  generalize hseal : session.sealFrame .clipPush payload = result at h
  obtain ⟨failure | sealed, later'⟩ := result
  · cases h
  cases h
  obtain ⟨hty, hplain, -⟩ := sealFrame_ok hchannel hseal
  refine ⟨hty, ?_⟩
  have htype : contentTypeOf contentType.toUInt8.toUInt64 = some contentType := by
    cases contentType <;> rfl
  simp only [pushUnder, hty, if_true, hplain, Option.bind_some, readPush, hslice, hread, htype,
    Option.map_some, hcreated, hsource, Except.toOption, Option.getD_some]

omit [Ciborium] in
theorem not_emit_fail (session : Session) (why : String) (event : SessionEvent) :
    .emit event ∉ (session.fail why).2 := by simp [fail]

theorem not_emit_wireError (session : Session) (code : WireErrorCode) (msg : String)
    (event : SessionEvent) : .emit event ∉ (session.wireError code msg).2 := by
  rw [wireError_sealFrame]
  generalize session.sealFrame .error _ = result
  obtain ⟨failure | sealed, later⟩ := result <;> simp

/-- An event comes of a frame of its type. -/
theorem onPlain_emit_ty {session : Session} {ty : FrameType} {plain : Bytes} {event : SessionEvent}
    (h : .emit event ∈ (session.onPlain ty plain).2) : event.ty = ty := by
  cases ty with
  | clipPush =>
    change _ ∈ (session.onClipPush plain).2 at h
    have hreceipt := session.onClipPush_cases plain
    generalize session.onClipPush plain = result at hreceipt h
    cases hreceipt with
    | received =>
      simp only [List.mem_cons, SessionAction.emit.injEq, List.not_mem_nil, or_false, reduceCtorEq] at h
      rw [h]
      rfl
    | paused | oversize => exact absurd h (session.not_emit_wireError _ _ _)
    | refused => exact absurd h (session.not_emit_fail _ _)
  | clipAck =>
    change _ ∈ (session.onClipAck plain).2 at h
    unfold onClipAck at h
    repeat' split at h
    all_goals simp [fail] at h
    rw [h]
    rfl
  | stageListReq =>
    cases List.mem_singleton.mp h
    rfl
  | stageList =>
    change _ ∈ (session.onStageList plain).2 at h
    unfold onStageList at h
    repeat' split at h
    all_goals simp [fail] at h
    rw [h]
    rfl
  | stageGet =>
    change _ ∈ (session.onStageGet plain).2 at h
    unfold onStageGet at h
    repeat' split at h
    all_goals simp [fail] at h
    rw [h]
    rfl
  | stageItem =>
    change _ ∈ (session.onStageItem plain).2 at h
    unfold onStageItem at h
    repeat' split at h
    all_goals simp [fail] at h
    rw [h]
    rfl
  | ping =>
    change _ ∈ session.onPing.2 at h
    obtain ⟨pong, session', -, -, heq⟩ | ⟨-, heq⟩ := session.onPing_cases <;> rw [heq] at h
    · simp at h
    · exact absurd h (session.not_emit_fail _ _)
  | pong => cases h
  | error =>
    simp only [onPlain, onError, List.mem_cons, SessionAction.emit.injEq, List.not_mem_nil, or_false,
      reduceCtorEq] at h
    rw [h]
    rfl
  | hello | helloAck | pairReq | pairAck | pairConfirm => exact absurd h (session.not_emit_fail _ _)

theorem onPlain_clipAcked {session : Session} {ty : FrameType} {plain : Bytes} {clipId : Octets 8}
    {status : UInt8} (h : .emit (.clipAcked clipId status) ∈ (session.onPlain ty plain).2) :
    ty = .clipAck ∧ ∃ r, MapReader.fromSlice plain = .ok r ∧
      r.byteArray 8 SessionKey.ackClipId = .ok clipId := by
  obtain rfl : .clipAck = ty := onPlain_emit_ty h
  change _ ∈ (session.onClipAck plain).2 at h
  unfold onClipAck at h
  split at h
  · exact absurd h (session.not_emit_fail _ _)
  next r hslice =>
  split at h
  · exact absurd h (session.not_emit_fail _ _)
  next id hid =>
  cases List.mem_singleton.mp h
  exact ⟨rfl, r, hslice, hid⟩

/-- A clip is acknowledged to the phone by a CLIP_ACK with its id. -/
theorem onFrame_clipAcked {session : Session} (hcoherent : session.Coherent) {frame : Frame}
    {nowMs : UInt64} {seed : Option Key32} {clipId : Octets 8} {status : UInt8}
    (h : .emit (.clipAcked clipId status) ∈ (session.onFrame frame nowMs seed).2) :
    frame.ty = .clipAck ∧ ∃ plain r, session.opens frame = some plain ∧
      MapReader.fromSlice plain = .ok r ∧ r.byteArray 8 SessionKey.ackClipId = .ok clipId := by
  have hreception := onFrame_cases hcoherent frame nowMs seed
  generalize session.onFrame frame nowMs seed = result at hreception h
  cases hreception with
  | refused | greeted | acknowledged => simp at h
  | @opened channel opened plain hstate hencrypted hchannel hopen =>
    obtain ⟨hty, r, hslice, hid⟩ := onPlain_clipAcked h
    exact ⟨hty, plain, r, opens_eq_some hstate hencrypted hchannel hopen, hslice, hid⟩

/-- The clip id of a CLIP_ACK is the one it acknowledges to the session. -/
theorem Keyed.readAck_eq {txKey rxKey : Key32} {session : Session} (h : session.Keyed txKey rxKey)
    {frame : Frame} {nowMs : UInt64} {seed : Option Key32} {clipId read : Octets 8} {status : UInt8}
    {code : UInt64} (hemit : .emit (.clipAcked clipId status) ∈ (session.onFrame frame nowMs seed).2)
    (hread : readAck rxKey frame = some (read, code)) : read = clipId := by
  obtain ⟨-, plain, r, hopens, hslice, hid⟩ := onFrame_clipAcked h.coherent hemit
  simp only [readAck, h.plainUnder hopens, hslice, hid] at hread
  split at hread
  · next hgot hstatus =>
    cases hgot
    exact (Prod.mk.inj (Option.some.inj hread)).1.symm
  · cases hread

/-- A frame that makes a clip arrive carries it, and is acknowledged after the arrival. -/
theorem receive_arrival [Ciborium.Lawful] [AeadCorrect] {key : Key32} {session : Session}
    (h : session.Transmits key) (arrival : Arrival) : NoClip (session.receive arrival).2 ∨
      ∃ plain clip frame, arrival.frame.ty = .clipPush ∧ arrival.paused = false ∧
        (session.setPaused arrival.paused).opens arrival.frame = some plain ∧
        readPush plain = some clip ∧
        (session.receive arrival).2 = [.emit clip.event, .send frame] ∧
        frame.ty = .clipAck ∧ readAck key frame = some (clip.clipId, 0) := by
  obtain hnone | ⟨hty, plain, opened, hopens, hkey, hreceipt⟩ := receive_receipt h arrival
  · exact .inl hnone
  generalize session.receive arrival = result at hreceipt ⊢
  cases hreceipt with
  | @received r clipId ct body ack contentType frame session' hslice hread hpaused hsize htype hack
      hseal =>
    obtain ⟨hack, hreads⟩ := readAck_sealed rfl hack hseal
    rw [hkey] at hreads
    refine .inr ⟨plain, ⟨clipId, contentType, body, (r.text SessionKey.sourceName).toOption.getD "",
      (r.u64 SessionKey.createdAt).toOption.getD 0⟩, frame, hty, hpaused, hopens, ?_, rfl, hack, hreads⟩
    simp only [readPush, hslice, hread, htype, Option.map_some]
  | paused | oversize => exact .inl (noClip_wireError _ _ _)
  | refused => exact .inl (noClip_fail _ _)

/-- The clip of a round has been accepted in it, while the pause flag is not set, and a CLIP_ACK comes
after the arrival of its clip. -/
theorem receive_clip [Ciborium.Lawful] [AeadCorrect] {rxKey txKey : Key32} {session : Session}
    (h : session.Transmits txKey) (arrival : Arrival)
    (hplain : ∀ plain, (session.setPaused arrival.paused).opens arrival.frame = some plain →
      arrival.frame.plainUnder rxKey = some plain) :
    (arrivals (session.receive arrival).2).Sublist
      ((((session.setPaused arrival.paused).accepts
        (.onFrame arrival.frame arrival.nowMs arrival.seed)).map Prod.fst).filterMap
          (pushUnder rxKey)) ∧
    (∀ ack ∈ sentFrames (session.receive arrival).2, ack.ty = .clipAck → ∃ clip : BeamedClip,
      readAck txKey ack = some (clip.clipId, 0) ∧
        (session.receive arrival).2 = [.emit clip.event, .send ack]) ∧
    (arrival.paused = true → arrivals (session.receive arrival).2 = []) := by
  obtain hnone | ⟨plain, clip, ack, hty, hunpaused, hopens, hread, hactions, hack, hreads⟩ :=
    receive_arrival h arrival
  · rw [arrivals_of_noClip hnone]
    refine ⟨List.nil_sublist _, fun ack hmem hty ↦ ?_, fun _ ↦ rfl⟩
    have hacks : ack ∈ ackFrames (session.receive arrival).2 :=
      List.mem_filter.mpr ⟨hmem, by simpa using hty⟩
    rw [hnone.acked] at hacks
    cases hacks
  · have haccepts : (session.setPaused arrival.paused).accepts
        (.onFrame arrival.frame arrival.nowMs arrival.seed) = [(arrival.frame, plain)] := by
      rw [accepts, hopens]
      rfl
    have hpush : pushUnder rxKey arrival.frame = some clip := by
      rw [pushUnder, if_pos hty, hplain plain hopens, Option.bind_some, hread]
    rw [hactions, haccepts, List.map_singleton, List.filterMap_cons_some hpush]
    refine ⟨List.Sublist.refl _, fun ack' hmem _ ↦ ?_, fun hpaused ↦ ?_⟩
    · cases List.mem_singleton.mp hmem
      exact ⟨clip, hreads, rfl⟩
    · exact absurd (hunpaused.symm.trans hpaused) (by decide)

end Session

omit [Primitives] in
/-- A beam succeeds with the id of its clip, on an acknowledgement of it. -/
theorem Connection.beamSettles_ok {clipId id : Octets 8} {actions : List SessionAction}
    (h : beamSettles clipId actions = some (.ok id)) :
    id = clipId ∧ ∃ status, .emit (.clipAcked clipId status) ∈ actions := by
  induction actions with
  | nil => cases h
  | cons action actions ih =>
    have hlater (hrest : beamSettles clipId actions = some (.ok id)) :
        id = clipId ∧ ∃ status, .emit (.clipAcked clipId status) ∈ action :: actions := by
      obtain ⟨rfl, status, hmem⟩ := ih hrest
      exact ⟨rfl, status, List.mem_cons_of_mem _ hmem⟩
    cases action with
    | send => exact hlater h
    | close => cases h
    | emit event =>
      cases event with
      | clipAcked got status =>
        rw [beamSettles] at h
        split_ifs at h with hgot hstatus
        · exact hlater h
        · cases h
          rw [not_not.mp hgot]
          exact ⟨rfl, status, List.mem_cons_self⟩
        · cases h
      | peerError => cases h
      | established | clipArrived | stageListRequested | stageItemRequested | stageList | stageItem =>
        exact hlater h

end Frames

end AirClip
