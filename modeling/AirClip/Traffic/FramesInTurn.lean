import AirClip.Traffic.ReusedConnection

/-!
# Frames in turn

A session numbers the frames it seals one after the other, and opens every genuine frame that comes in
turn.  What an opened frame comes to is settled by its plaintext: an answer to a call makes the phone
emit it and nothing else, and a request makes the computer emit it, acknowledge a clip, or close.
-/

open Foundation Cbor

namespace AirClip

section Frames

variable [Primitives]

/-! ## Numbers of frames -/

/-- The number a frame has been sealed under. -/
def frameNumber (frame : Frame) : ℕ := (counterOf frame).toNat

namespace Session

/-- The number of the next frame that is sealed. -/
def txNext (session : Session) : ℕ := (session.channel.map fun channel ↦ channel.tx.ctr.toNat).getD 0

/-- The least number that is taken. -/
def rxNext (session : Session) : ℕ := (session.channel.map fun channel ↦ channel.rx.next).getD 0

theorem txNext_eq {session : Session} {channel : AeadChannel} (h : session.channel = some channel) :
    session.txNext = channel.tx.ctr.toNat := by rw [txNext, h, Option.map_some, Option.getD_some]

theorem rxNext_eq {session : Session} {channel : AeadChannel} (h : session.channel = some channel) :
    session.rxNext = channel.rx.next := by rw [rxNext, h, Option.map_some, Option.getD_some]

/-- The session numbers a frame as its next one. -/
structure Numbers (session : Session) (frame : Frame) (later : Session) : Prop where
  state : later.state = session.state
  number : frameNumber frame = session.txNext
  txNext : later.txNext = session.txNext + 1
  rxNext : later.rxNext = session.rxNext
  length : 8 ≤ frame.payload.length

theorem sealFrame_numbers {session later : Session} {ty : FrameType} {plain : Bytes} {frame : Frame}
    (h : session.sealFrame ty plain = (.ok frame, later)) : session.Numbers frame later := by
  obtain ⟨channel, payload, channel', hchannel, hpayload, rfl, rfl⟩ := sealFrame_eq_ok h
  obtain ⟨ct, -, hctr, rfl, rfl⟩ := AeadChannel.sealPayload_eq_ok hpayload
  exact {
    state := rfl
    number := by rw [frameNumber, counterOf_append, txNext_eq hchannel]
    txNext := by
      rw [txNext_eq hchannel]
      exact AeadChannel.toNat_succ hctr
    rxNext := by
      rw [rxNext_eq hchannel]
      rfl
    length := by
      change 8 ≤ (le64 channel.tx.ctr ++ ct).length
      rw [List.length_append, length_le64]
      exact Nat.le_add_right 8 _ }

variable [Ciborium]

/-- A frame that is genuine and comes in turn is opened. -/
theorem Keyed.opened {txKey rxKey : Key32} {session : Session} (h : session.Keyed txKey rxKey)
    (hstate : session.state = .established) {frame : Frame} {plain : Bytes}
    (hencrypted : frame.ty.isEncrypted) (hlength : 8 ≤ frame.payload.length)
    (hplain : frame.plainUnder rxKey = some plain) (hfresh : session.rxNext ≤ frameNumber frame)
    (nowMs : UInt64) (seed : Option Key32) : ∃ later : Session, later.state = .established ∧
      later.Keyed txKey rxKey ∧ later.txNext = session.txNext ∧
      later.rxNext = frameNumber frame + 1 ∧
      session.onFrame frame nowMs seed = later.onPlain frame.ty plain := by
  obtain ⟨channel, hchannel, htx, rfl⟩ := h.channel
  rw [rxNext_eq hchannel] at hfresh
  have hopen := AeadChannel.openPayload_fresh hfresh hplain
  have hpayload : le64 (counterOf frame) ++ frame.payload.drop 8 = frame.payload := by
    rw [counterOf, le64_ofLe64 (by simpa using hlength), List.take_append_drop]
  rw [hpayload] at hopen
  let opened : AeadChannel :=
    { channel with rx := { channel.rx with ctr := counterOf frame, seenAny := true } }
  have hnext : opened.rx.next = frameNumber frame + 1 := if_pos rfl
  refine ⟨{ session with lastActivityMs := nowMs, channel := some opened }, hstate,
    ⟨.inl hstate, opened, rfl, htx, rfl⟩, (txNext_eq hchannel).symm, hnext, ?_⟩
  simp only [onFrame, hstate, reduceCtorEq, if_false, hencrypted, if_true, onEncrypted, hchannel,
    hopen]
  rfl

/-- A message is numbered, or nothing happens. -/
theorem transmit_numbers (session : Session) {message : Message}
    (hmessage : ∀ code msg, message ≠ .error code msg) :
    (∃ failure, session.transmit message = (.error failure, session)) ∨
      ∃ frame later, session.transmit message = (.ok frame, later) ∧ session.Numbers frame later := by
  have hsealed (ty : FrameType) (plain : Bytes) :
      (∃ failure, session.sealFrame ty plain = (.error failure, session)) ∨
        ∃ frame later, session.sealFrame ty plain = (.ok frame, later) ∧
          session.Numbers frame later := by
    refine (session.sealFrame_cases ty plain).imp_right ?_
    rintro ⟨channel, payload, channel', -, -, hseal⟩
    exact ⟨_, _, hseal, sealFrame_numbers hseal⟩
  have hmap (ty : FrameType) (builder : MapBuilder) :
      (∃ failure, session.sealMap ty builder = (.error failure, session)) ∨
        ∃ frame later, session.sealMap ty builder = (.ok frame, later) ∧
          session.Numbers frame later := by
    unfold sealMap
    split
    · exact .inl ⟨_, rfl⟩
    · exact hsealed ty _
  cases message with
  | clipPush | stageListReq | stageGet | stageList | stageItem => exact hmap _ _
  | ping => exact hsealed _ _
  | error code msg => exact absurd rfl (hmessage code msg)

end Session

/-! ## Answers to calls -/

variable [Ciborium]

/-- Whatever session opens the frame emits the event, and does nothing else. -/
structure Frame.Delivers (key : Key32) (frame : Frame) (event : SessionEvent) : Prop where
  encrypted : frame.ty.isEncrypted
  length : 8 ≤ frame.payload.length
  plain : ∃ plain, frame.plainUnder key = some plain ∧ ∀ session : Session,
    session.onPlain frame.ty plain = (session, [.emit event])

/-- The event is an answer to the call. -/
inductive ConnectionCall.Answers : ConnectionCall → SessionEvent → Prop
  | acked (contentType : ContentType) (body : Bytes) (sourceName : String)
      (hname : (utf8 sourceName).length < 2 ^ 64) (nowMs : UInt64) (clipId : Octets 8) :
      Answers (.beam contentType body sourceName hname nowMs (some clipId)) (.clipAcked clipId 0)
  | listed (items : List StageMeta) : Answers .stageList (.stageList items)
  | item (stageId : Octets 8) (contentType : ContentType) (body : Bytes) :
      Answers (.stageItem stageId) (.stageItem stageId contentType body)
  | gone (stageId : Octets 8) : Answers (.stageItem stageId) (.stageList [])

/-- A call that takes in an answer returns. -/
theorem ConnectionCall.Answers.settles {call : ConnectionCall} {event : SessionEvent}
    (h : call.Answers event) {session : Session} {frame : Frame} {nowMs : UInt64}
    (hactions : (session.onFrame frame nowMs none).2 = [.emit event]) :
    (call.receive session (.ok frame) nowMs).result ≠ none := by
  have hround {α : Type} (settles : Settles α) :
      (Exchange.receive settles ⟨session, none, []⟩ (.ok frame) nowMs).result =
        settles [.emit event] := by
    rw [← hactions]
    exact (Exchange.receive_ok settles rfl frame nowMs).2
  cases h with
  | acked | listed | item | gone =>
    refine Option.map_eq_none_iff.not.mpr ?_
    rw [hround]
    simp [Connection.beamSettles, Connection.stageListSettles, Connection.stageItemSettles]

namespace Session

variable [Ciborium.Lawful]

theorem onPlain_pulled {message : Message} (hmessage : message.Pulled) {plain : Bytes}
    (hpayload : message.payload = .ok plain) (session : Session) :
    session.onPlain message.ty plain = (session, message.events.map .emit) := by
  have hadmissible := hmessage.admissible
  cases message with
  | stageListReq => rfl
  | stageGet stageId =>
    obtain ⟨payload, r, hvec, hslice, hid, -⟩ := stageGetMap_reads stageId
    cases hpayload.symm.trans hvec
    change session.onStageGet plain = _
    simp only [onStageGet, hslice, hid]
    rfl
  | stageList items =>
    obtain ⟨payload, r, hvec, hslice, harray, -⟩ := stageListMap_reads hadmissible.1 hadmissible.2
    cases hpayload.symm.trans hvec
    change session.onStageList plain = _
    simp only [onStageList, hslice, harray, mapM_readStageMeta]
    rfl
  | stageItem clip =>
    obtain ⟨payload, r, hvec, hslice, hread, -⟩ := stageItemMap_reads hadmissible
    cases hpayload.symm.trans hvec
    change session.onStageItem plain = _
    simp only [onStageItem, hslice, hread, contentTypeOf_toUInt8]
    rfl
  | clipPush | ping | error => exact hmessage.elim

variable [AeadCorrect]

/-- An answer of the ring is delivered as its event. -/
theorem Keyed.delivers {txKey rxKey : Key32} {session later : Session}
    (h : session.Keyed txKey rxKey) {message : Message} (hmessage : message.Pulled)
    {event : SessionEvent} (hevents : message.events = [event]) {frame : Frame}
    (htransmit : session.transmit message = (.ok frame, later))
    (hnumbers : session.Numbers frame later) : frame.Delivers txKey event := by
  have hcarries := h.transmit htransmit
  obtain ⟨plain, hpayload, hplain⟩ := hcarries.plain
  refine ⟨by rw [hcarries.ty]; exact message.ty_encrypted, hnumbers.length, plain, hplain, ?_⟩
  intro other
  rw [hcarries.ty, onPlain_pulled hmessage hpayload, hevents, List.map_singleton]

/-- So is an acknowledgement. -/
theorem Keyed.delivers_ack {txKey rxKey : Key32} {session later : Session}
    (h : session.Keyed txKey rxKey) {clipId : Octets 8} {ack : Bytes}
    (hack : (clipAckMap clipId).toVec = .ok ack) {frame : Frame}
    (hseal : session.sealFrame .clipAck ack = (.ok frame, later)) :
    frame.Delivers txKey (.clipAcked clipId 0) := by
  obtain ⟨channel, hchannel, rfl, -⟩ := h.channel
  obtain ⟨hty, hplain, -⟩ := sealFrame_ok hchannel hseal
  obtain ⟨payload, r, hvec, hslice, hid, hstatus, -⟩ := clipAckMap_reads clipId
  cases hack.symm.trans hvec
  refine ⟨by rw [hty]; rfl, (sealFrame_numbers hseal).length, ack, hplain, fun other ↦ ?_⟩
  rw [hty]
  change other.onClipAck ack = _
  simp only [onClipAck, hslice, hid, hstatus, Except.toOption, Option.getD_some]
  rfl

omit [Ciborium.Lawful] [AeadCorrect] in
theorem close_mem_wireError (session : Session) (code : WireErrorCode) (msg : String) :
    .close msg ∈ (session.wireError code msg).2 := by
  rw [wireError_sealFrame]
  generalize session.sealFrame .error _ = result
  obtain ⟨failure | sealed, later⟩ := result <;> simp

/-- A request makes the session emit its event, acknowledge a clip, or close. -/
theorem Keyed.onPlain_request {txKey rxKey : Key32} {session : Session}
    (h : session.Keyed txKey rxKey) {call : ConnectionCall} {message : Message}
    (hmessage : call.message = some message) (hadmissible : message.Admissible) {plain : Bytes}
    (hpayload : message.payload = .ok plain) :
    (∃ why, .close why ∈ (session.onPlain message.ty plain).2) ∨
    (∃ event, message.Pulled ∧ message.events = [event] ∧
      session.onPlain message.ty plain = (session, [.emit event])) ∨
    ∃ (clip : BeamedClip) (ack : Frame) (later : Session) (event : SessionEvent),
      session.onPlain message.ty plain = (later, [.emit clip.event, .send ack]) ∧
        session.Numbers ack later ∧ later.Keyed txKey rxKey ∧ call.Answers event ∧
        ack.Delivers txKey event := by
  have hpull (hpulled : message.Pulled) {event : SessionEvent} (hevents : message.events = [event]) :
      session.onPlain message.ty plain = (session, [.emit event]) := by
    rw [onPlain_pulled hpulled hpayload, hevents, List.map_singleton]
  cases call with
  | stageList =>
    cases hmessage
    exact .inr (.inl ⟨_, trivial, rfl, hpull trivial rfl⟩)
  | stageItem stageId =>
    cases hmessage
    exact .inr (.inl ⟨_, trivial, rfl, hpull trivial rfl⟩)
  | beam contentType body sourceName hname nowMs randomId =>
    cases randomId <;> cases hmessage
    next clipId =>
    have hmax : maxTextClip = 262144 := rfl
    obtain ⟨hbody, -⟩ := hadmissible
    obtain ⟨payload, r, hvec, hslice, hread, -⟩ := clipPushMap_reads clipId contentType nowMs
      (show body.length < 2 ^ 64 by omega) hname
    cases hpayload.symm.trans hvec
    have hreceipt := session.onClipPush_cases plain
    simp only [Message.ty, onPlain]
    generalize session.onClipPush plain = result at hreceipt ⊢
    cases hreceipt with
    | received hslice' hread' _ _ _ hack hseal =>
      cases hslice.symm.trans hslice'
      cases hread.symm.trans hread'
      obtain ⟨channel, hchannel, htx, hrx⟩ := h.channel
      obtain ⟨-, -, channel', rfl, htx', hrx'⟩ := sealFrame_ok hchannel hseal
      have hlater : Session.Keyed txKey rxKey { session with channel := some channel' } :=
        ⟨h.begun, channel', rfl, htx'.trans htx, by rw [hrx', hrx]⟩
      exact .inr (.inr ⟨⟨_, _, _, _, _⟩, _, _, _, rfl, sealFrame_numbers hseal, hlater, .acked ..,
        h.delivers_ack hack hseal⟩)
    | paused | oversize => exact .inl ⟨_, session.close_mem_wireError _ _⟩
    | refused why => exact .inl ⟨why, List.mem_singleton_self _⟩

end Session

end Frames

end AirClip
