import AirClip.Traffic.ClipReceipt
import AirClip.Security.Mirror

/-!
# Delivery of messages

Delivered to a mirroring session as its next frame, whatever message a session builds is opened and
read back field by field: it comes out as the event with exactly the arguments it was built from, and
the replies to a pushed clip and to a PING are accepted in turn.
-/

open Foundation Cbor

namespace AirClip

/-! ## Messages -/

/-- The messages of a session, with the arguments they are built from. -/
inductive Message where
  | clipPush (clipId : Octets 8) (contentType : ContentType) (body : Bytes) (sourceName : String)
      (createdAtMs : UInt64)
  | stageListReq
  | stageGet (stageId : Octets 8)
  | stageList (items : List StageMeta)
  | stageItem (clip : StagedClip)
  | ping
  | error (code : WireErrorCode) (msg : String)

namespace Message

def ty : Message → FrameType
  | clipPush .. => .clipPush
  | stageListReq => .stageListReq
  | stageGet _ => .stageGet
  | stageList _ => .stageList
  | stageItem _ => .stageItem
  | ping => .ping
  | error .. => .error

theorem ty_encrypted (message : Message) : message.ty.isEncrypted := by
  cases message <;> rfl

/-- Byte strings, texts and lists are as short as they are in memory, and a pushed body is within the
limit on clips. -/
def Admissible : Message → Prop
  | clipPush _ _ body sourceName _ => body.length ≤ maxTextClip ∧ (utf8 sourceName).length < 2 ^ 64
  | stageList items => items.length < 2 ^ 64 ∧
      ∀ entry ∈ items, (utf8 entry.preview).length < 2 ^ 64
  | stageItem clip => clip.body.length < 2 ^ 64
  | error _ msg => (utf8 msg).length < 2 ^ 64
  | _ => True

/-- The payload a message is encoded to. -/
def payload [Ciborium] : Message → Except Error Bytes
  | clipPush clipId contentType body sourceName createdAtMs =>
    (Session.clipPushMap clipId contentType body sourceName createdAtMs).toVec
  | stageListReq => MapBuilder.new.toVec
  | stageGet stageId => (MapBuilder.new.bytes SessionKey.stageId stageId.toList).toVec
  | stageList items => (MapBuilder.new.array SessionKey.stageItems
      (items.map fun entry ↦ (Session.stageMetaMap entry).build)).toVec
  | stageItem clip => (((MapBuilder.new.bytes SessionKey.itemId clip.stageId.toList).u64
      SessionKey.itemType clip.contentType.toUInt8.toUInt64).bytes SessionKey.itemBody
      clip.body).toVec
  | ping => .ok []
  | error code msg => .ok ((Session.wireErrorMap code msg).toVec.toOption.getD [])

/-- The event a message comes out as; a PING has none. -/
def events : Message → List SessionEvent
  | clipPush clipId contentType body sourceName createdAtMs =>
    [.clipArrived clipId contentType body sourceName createdAtMs]
  | stageListReq => [.stageListRequested]
  | stageGet stageId => [.stageItemRequested stageId]
  | stageList items => [.stageList items]
  | stageItem clip => [.stageItem clip.stageId clip.contentType clip.body]
  | ping => []
  | error code msg => [.peerError code.toUInt16 msg]

/-- A message that the peer replies to. -/
def IsReplied : Message → Prop
  | clipPush .. | ping => True
  | _ => False

end Message

section Deliveries

variable [Primitives] [Ciborium]

namespace Session

/-- The frame a session builds for a message.  An ERROR is built on closing the session. -/
def transmit (session : Session) : Message → Except Error Frame × Session
  | .clipPush clipId contentType body sourceName createdAtMs =>
    session.pushClipWithId clipId contentType body sourceName createdAtMs
  | .stageListReq => session.requestStageList
  | .stageGet stageId => session.requestStageItem stageId
  | .stageList items => session.sendStageList items
  | .stageItem clip => session.sendStageItem clip
  | .ping => session.ping
  | .error code msg =>
    let result := session.wireError code msg
    ((sentFrames result.2).head?.elim (.error .crypto) .ok, result.1)

/-- An ERROR is sealed like any other message, and then the session is closed. -/
theorem wireError_sealFrame (session : Session) (code : WireErrorCode) (msg : String) :
    session.wireError code msg =
      match session.sealFrame .error ((wireErrorMap code msg).toVec.toOption.getD []) with
      | (.ok frame, later) => ({ later with state := .closed }, [.send frame, .close msg])
      | (.error _, later) => ({ later with state := .closed }, [.close msg]) := by
  unfold wireError sealFrame wireErrorMap
  rcases hchannel : session.channel with - | channel
  · dsimp only
    rw [hchannel]
  · dsimp only
    generalize channel.sealPayload .error _ = sealed
    obtain ⟨failure | payload, later⟩ := sealed <;> rfl

/-- A message is sealed as its payload, and only an ERROR changes the state. -/
theorem transmit_eq_ok {session session' : Session} {message : Message} {frame : Frame}
    (h : session.transmit message = (.ok frame, session')) :
    ∃ plain later, message.payload = .ok plain ∧
      session.sealFrame message.ty plain = (.ok frame, later) ∧
      ((∀ code msg, message ≠ .error code msg) ∧ session' = later ∨
        (∃ code msg, message = .error code msg) ∧ session'.state = .closed) := by
  have hmap {ty : FrameType} {builder : MapBuilder}
      (h : session.sealMap ty builder = (.ok frame, session')) :
      ∃ plain, builder.toVec = .ok plain ∧ session.sealFrame ty plain = (.ok frame, session') := by
    unfold sealMap at h
    split at h
    · cases h
    · next plain hplain => exact ⟨plain, hplain, h⟩
  cases message with
  | clipPush | stageListReq | stageGet | stageList | stageItem =>
    obtain ⟨plain, hplain, hseal⟩ := hmap h
    exact ⟨plain, session', hplain, hseal, .inl ⟨by simp, rfl⟩⟩
  | ping => exact ⟨[], session', rfl, h, .inl ⟨by simp, rfl⟩⟩
  | error code msg =>
    simp only [transmit, wireError_sealFrame] at h
    generalize hseal : session.sealFrame .error _ = sealed at h
    obtain ⟨failure | sealed, later⟩ := sealed
    · cases h
    · cases h
      exact ⟨_, later, rfl, hseal, .inr ⟨⟨code, msg, rfl⟩, rfl⟩⟩

/-- Until the counter is exhausted, a message whose payload the cipher takes is sealed. -/
theorem transmit_available [AeadAvailable] {session : Session} {channel : AeadChannel}
    (hchannel : session.channel = some channel) (hctr : channel.tx.ctr.toNat + 1 < 2 ^ 64)
    {message : Message} {plain : Bytes} (hpayload : message.payload = .ok plain)
    (hplain : plain.length / 64 < 2 ^ 32 - 1) :
    ∃ frame session', session.transmit message = (.ok frame, session') := by
  obtain ⟨frame, later, hseal⟩ := sealFrame_available message.ty hchannel hctr hplain
  have hmap {ty : FrameType} {builder : MapBuilder} (hvec : builder.toVec = .ok plain)
      (h : session.sealFrame ty plain = (.ok frame, later)) :
      session.sealMap ty builder = (.ok frame, later) := by
    simp only [sealMap, hvec, h]
  cases message with
  | clipPush | stageListReq | stageGet | stageList | stageItem =>
    exact ⟨frame, later, hmap hpayload hseal⟩
  | ping =>
    cases hpayload
    exact ⟨frame, later, hseal⟩
  | error code msg =>
    cases hpayload
    refine ⟨frame, { later with state := .closed }, ?_⟩
    unfold transmit
    simp only [wireError_sealFrame, show session.sealFrame .error _ = _ from hseal]
    rfl

/-! ## What comes of a message -/

/-- The peer emits the event of a message and the two sessions go on mirroring each other.  A pushed
clip is acknowledged, a PING answered, and the sender accepts either reply; an ERROR closes both. -/
def Answered (message : Message) (sender : Session) (result : Session × List SessionAction) : Prop :=
  match message with
  | .clipPush clipId .. => sender.Mirrored result.1 ∧
      ∃ ack, result.2 = message.events.map .emit ++ [.send ack] ∧ ack.ty = .clipAck ∧
        ∀ nowMs seed, (sender.onFrame ack nowMs seed).2 = [.emit (.clipAcked clipId 0)] ∧
          (sender.onFrame ack nowMs seed).1.Mirrored result.1
  | .ping => sender.Mirrored result.1 ∧
      ∃ pong, result.2 = [.send pong] ∧ pong.ty = .pong ∧
        ∀ nowMs seed, (sender.onFrame pong nowMs seed).2 = [] ∧
          (sender.onFrame pong nowMs seed).1.Mirrored result.1
  | .error .. => sender.state = .closed ∧ result.1.state = .closed ∧
      ∃ why, result.2 = message.events.map .emit ++ [.close why]
  | _ => sender.Mirrored result.1 ∧ result.2 = message.events.map .emit

variable [AeadCorrect]

/-- A reply of the receiver is handled by the sender as its plaintext. -/
theorem Mirrored.reply [AeadAvailable] {sender receiver : Session} (h : sender.Mirrored receiver)
    (hreceiver : receiver.Unexhausted) (ty : FrameType) (hencrypted : ty.isEncrypted) {plain : Bytes}
    (hplain : plain.length ≤ 64) :
    ∃ frame receiver', receiver.sealFrame ty plain = (.ok frame, receiver') ∧ frame.ty = ty ∧
      sender.Mirrored receiver' ∧ ∀ nowMs seed, ∃ sender' : Session, sender'.Mirrored receiver' ∧
        sender.onFrame frame nowMs seed = sender'.onPlain ty plain := by
  obtain ⟨-, channel, -, hchannel, -⟩ := h.channels
  obtain ⟨frame, receiver', hseal⟩ := sealFrame_available ty hchannel (hreceiver channel hchannel)
    (show plain.length / 64 < 2 ^ 32 - 1 by omega)
  refine ⟨frame, receiver', hseal, (h.symm.onFrame hencrypted hseal 0 none).1,
    (h.symm.sealed hseal).symm, fun nowMs seed ↦ ?_⟩
  obtain ⟨-, sender', -, -, hmirrored, heq⟩ := h.symm.onFrame hencrypted hseal nowMs seed
  exact ⟨sender', hmirrored.symm, heq⟩

variable [Ciborium.Lawful]

omit [Primitives] [AeadCorrect] in
/-- An admissible message has a payload. -/
theorem payload_ok {message : Message} (h : message.Admissible) :
    ∃ plain, message.payload = .ok plain := by
  cases message with
  | clipPush clipId contentType body sourceName createdAtMs =>
    have hmax : maxTextClip = 262144 := rfl
    obtain ⟨hbody, hname⟩ := h
    obtain ⟨payload, -, hvec, -⟩ := clipPushMap_reads clipId contentType createdAtMs
      (show body.length < 2 ^ 64 by omega) hname
    exact ⟨payload, hvec⟩
  | stageListReq =>
    obtain ⟨payload, hvec, -⟩ := MapBuilder.toVec_reads .new ⟨[], List.nodup_nil⟩ rfl
      (by simp [integerMap, Plain])
    exact ⟨payload, hvec⟩
  | stageGet stageId =>
    obtain ⟨payload, -, hvec, -⟩ := stageGetMap_reads stageId
    exact ⟨payload, hvec⟩
  | stageList items =>
    obtain ⟨payload, -, hvec, -⟩ := stageListMap_reads h.1 h.2
    exact ⟨payload, hvec⟩
  | stageItem clip =>
    obtain ⟨payload, -, hvec, -⟩ := stageItemMap_reads h
    exact ⟨payload, hvec⟩
  | ping => exact ⟨[], rfl⟩
  | error code msg => exact ⟨_, rfl⟩

/-- A pushed clip arrives and is acknowledged, and the sender takes the acknowledgement for it. -/
theorem answered_clipPush [AeadAvailable] {clipId : Octets 8} {contentType : ContentType}
    {body plain : Bytes} {sourceName : String} {createdAtMs : UInt64}
    (hadmissible : (Message.clipPush clipId contentType body sourceName createdAtMs).Admissible)
    (hpayload : (Message.clipPush clipId contentType body sourceName createdAtMs).payload = .ok plain)
    {sender receiver : Session} (h : sender.Mirrored receiver) (hreceiver : receiver.Unexhausted)
    (hpaused : receiver.paused = false) :
    Answered (.clipPush clipId contentType body sourceName createdAtMs) sender
      (receiver.onPlain .clipPush plain) := by
  have hmax : maxTextClip = 262144 := rfl
  obtain ⟨hbody, hname⟩ := hadmissible
  obtain ⟨payload, r, hvec, hslice, hread, hcreated, hsource⟩ := clipPushMap_reads clipId contentType
    createdAtMs (show body.length < 2 ^ 64 by omega) hname
  cases hpayload.symm.trans hvec
  obtain ⟨ack, r', hack, hslice', hid, hstatus, hlength⟩ := clipAckMap_reads clipId
  obtain ⟨frame, receiver', hseal, hty, hmirrored, hreply⟩ :=
    h.reply hreceiver .clipAck rfl hlength
  have heq : receiver.onClipPush plain = (receiver', [.emit (.clipArrived clipId contentType body
      sourceName createdAtMs), .send frame]) := by
    unfold onClipPush
    simp only [hslice, hread, hcreated, hsource, hpaused, Bool.false_eq_true, if_false,
      if_neg (not_lt.mpr hbody), contentTypeOf_toUInt8, hack, hseal, Except.toOption,
      Option.getD_some]
  change Answered _ _ (receiver.onClipPush plain)
  rw [heq]
  refine ⟨hmirrored, frame, rfl, hty, fun nowMs seed ↦ ?_⟩
  obtain ⟨sender', hmirrored', hsender'⟩ := hreply nowMs seed
  have hacked : sender'.onClipAck ack = (sender', [.emit (.clipAcked clipId 0)]) := by
    unfold onClipAck
    simp only [hslice', hid, hstatus, Except.toOption, Option.getD_some]
    rfl
  rw [hsender', show sender'.onPlain .clipAck ack = _ from hacked]
  exact ⟨rfl, hmirrored'⟩

/-- What comes of a message whose frame is handled as its plaintext. -/
theorem answered_onPlain [AeadAvailable] {message : Message} {plain : Bytes}
    (hadmissible : message.Admissible) (hpayload : message.payload = .ok plain)
    {sender sender' receiver : Session} (h : sender.Mirrored receiver)
    (hreceiver : message.IsReplied → receiver.Unexhausted)
    (hpaused : message.ty = .clipPush → receiver.paused = false)
    (hsender : (∀ code msg, message ≠ .error code msg) ∧ sender' = sender ∨
      (∃ code msg, message = .error code msg) ∧ sender'.state = .closed) :
    Answered message sender' (receiver.onPlain message.ty plain) := by
  have hquiet (hne : ∀ code msg, message ≠ .error code msg) : sender' = sender :=
    hsender.elim And.right fun ⟨⟨code, msg, heq⟩, _⟩ ↦ absurd heq (hne code msg)
  cases message with
  | clipPush clipId contentType body sourceName createdAtMs =>
    cases hquiet (by simp)
    exact answered_clipPush hadmissible hpayload h (hreceiver trivial) (hpaused rfl)
  | stageListReq =>
    cases hquiet (by simp)
    exact ⟨h, rfl⟩
  | stageGet stageId =>
    cases hquiet (by simp)
    obtain ⟨payload, r, hvec, hslice, hid, -⟩ := stageGetMap_reads stageId
    cases hpayload.symm.trans hvec
    have heq : receiver.onStageGet plain = (receiver, [.emit (.stageItemRequested stageId)]) := by
      simp only [onStageGet, hslice, hid]
    change Answered _ _ (receiver.onStageGet plain)
    rw [heq]
    exact ⟨h, rfl⟩
  | stageList items =>
    cases hquiet (by simp)
    obtain ⟨payload, r, hvec, hslice, harray, -⟩ := stageListMap_reads hadmissible.1 hadmissible.2
    cases hpayload.symm.trans hvec
    have heq : receiver.onStageList plain = (receiver, [.emit (.stageList items)]) := by
      simp only [onStageList, hslice, harray, mapM_readStageMeta]
    change Answered _ _ (receiver.onStageList plain)
    rw [heq]
    exact ⟨h, rfl⟩
  | stageItem clip =>
    cases hquiet (by simp)
    obtain ⟨payload, r, hvec, hslice, hread, -⟩ := stageItemMap_reads hadmissible
    cases hpayload.symm.trans hvec
    have heq : receiver.onStageItem plain =
        (receiver, [.emit (.stageItem clip.stageId clip.contentType clip.body)]) := by
      simp only [onStageItem, hslice, hread, contentTypeOf_toUInt8]
    change Answered _ _ (receiver.onStageItem plain)
    rw [heq]
    exact ⟨h, rfl⟩
  | ping =>
    cases hquiet (by simp)
    obtain ⟨frame, receiver', hseal, hty, hmirrored, hreply⟩ :=
      h.reply (hreceiver trivial) .pong rfl (show ([] : Bytes).length ≤ 64 by simp)
    have heq : receiver.onPing = (receiver', [.send frame]) := by simp only [onPing, hseal]
    change Answered _ _ (receiver.onPing)
    rw [heq]
    refine ⟨hmirrored, frame, rfl, hty, fun nowMs seed ↦ ?_⟩
    obtain ⟨sender', hmirrored', hsender'⟩ := hreply nowMs seed
    rw [hsender']
    exact ⟨rfl, hmirrored'⟩
  | error code msg =>
    obtain ⟨payload, r, hvec, hslice, hcode, hmsg, -⟩ := wireErrorMap_reads code hadmissible
    have hplain : plain = payload := by
      have heq := Except.ok.inj hpayload
      rw [hvec] at heq
      exact heq.symm
    have hevent : (receiver.onError plain).2 =
        [.emit (.peerError code.toUInt16 msg), .close "peer sent ERROR"] := by
      simp only [onError, hplain, hslice, hcode, hmsg, Except.toOption, Option.getD_some]
      cases code <;> rfl
    obtain ⟨hne, -⟩ | ⟨-, hclosed⟩ := hsender
    · exact absurd rfl (hne code msg)
    · exact ⟨hclosed, rfl, _, hevent⟩

/-- A message delivered as the next frame is answered. -/
theorem Mirrored.deliver [AeadAvailable] {sender receiver sender' : Session}
    (h : sender.Mirrored receiver) {message : Message}
    (hreceiver : message.IsReplied → receiver.Unexhausted) (hadmissible : message.Admissible)
    (hpaused : message.ty = .clipPush → receiver.paused = false) {frame : Frame}
    (htransmit : sender.transmit message = (.ok frame, sender')) (nowMs : UInt64)
    (seed : Option Key32) : Answered message sender' (receiver.onFrame frame nowMs seed) := by
  obtain ⟨plain, later, hpayload, hseal, hlater⟩ := transmit_eq_ok htransmit
  obtain ⟨-, receiver', hpaused', hunexhausted, hmirrored, heq⟩ :=
    h.onFrame message.ty_encrypted hseal nowMs seed
  rw [heq]
  exact answered_onPlain hadmissible hpayload hmirrored (fun hreplied ↦ hunexhausted (hreceiver hreplied))
    (fun hty ↦ hpaused'.trans (hpaused hty)) hlater

/-- Every message decodes to what was encoded.  The payload is there, the cipher seals it unless it is
beyond its limit on messages, and delivered as the next frame it comes out as the same event. -/
theorem messages_delivered [AeadAvailable] {sender receiver : Session}
    (h : sender.Mirrored receiver) (hsender : sender.Unexhausted) (hreceiver : receiver.Unexhausted)
    {message : Message} (hadmissible : message.Admissible)
    (hpaused : message.ty = .clipPush → receiver.paused = false) :
    (∃ plain, message.payload = .ok plain ∧ (plain.length / 64 < 2 ^ 32 - 1 →
      ∃ frame sender', sender.transmit message = (.ok frame, sender'))) ∧
    ∀ frame sender', sender.transmit message = (.ok frame, sender') → ∀ nowMs seed,
      Answered message sender' (receiver.onFrame frame nowMs seed) := by
  constructor
  · obtain ⟨plain, hpayload⟩ := payload_ok hadmissible
    obtain ⟨channel, -, hchannel, -⟩ := h.channels
    exact ⟨plain, hpayload,
      transmit_available hchannel (hsender channel hchannel) hpayload⟩
  · intro frame sender' htransmit nowMs seed
    exact h.deliver (fun _ ↦ hreceiver) hadmissible hpaused htransmit nowMs seed

end Session

end Deliveries

namespace Reference

theorem mirrored : phoneSession.Mirrored pcSession := by
  have hphone : phoneSession.channel.isSome := by decide +kernel
  have hpc : pcSession.channel.isSome := by decide +kernel
  obtain ⟨channel, hchannel⟩ := Option.isSome_iff_exists.mp hphone
  obtain ⟨channel', hchannel'⟩ := Option.isSome_iff_exists.mp hpc
  have hnew : phoneSession.channel =
      pcSession.channel.map fun other ↦ .new other.rx.key other.tx.key := by decide +kernel
  have hfresh : pcSession.channel.map (fun other ↦ AeadChannel.new other.tx.key other.rx.key) =
      pcSession.channel := by decide +kernel
  rw [hchannel'] at hnew hfresh
  rw [hchannel] at hnew
  have heq : channel = .new channel'.rx.key channel'.tx.key := Option.some.inj hnew
  have heq' : .new channel'.tx.key channel'.rx.key = channel' := Option.some.inj hfresh
  refine ⟨by decide +kernel, by decide +kernel, channel, channel', hchannel, hchannel', ?_, ?_⟩
  · rw [heq, ← heq']
    exact AeadChannel.feeds_new ..
  · rw [heq, ← heq']
    exact AeadChannel.feeds_new ..

/-- A session of the handshake has sealed nothing yet. -/
theorem unexhausted {session : Session} (h : session.channel.map (·.tx.ctr) = some 0) :
    session.Unexhausted := by
  intro channel hchannel
  rw [hchannel, Option.map_some, Option.some.injEq] at h
  rw [h]
  decide

end Reference

open Reference in
/-- The first clip of the phone arrives as it was pushed and is acknowledged. -/
theorem messages_delivered_first_push :
    Session.Answered (.clipPush (pad 8 [1]) .text [104, 105] "iPhone" 5) firstPush.2
      (pcSession.onFrame (frameOf firstPush) 0 none) := by
  have hadmissible : (Message.clipPush (pad 8 [1]) .text [104, 105] "iPhone" 5).Admissible :=
    ⟨by decide, by decide +kernel⟩
  have htransmit : phoneSession.transmit (.clipPush (pad 8 [1]) .text [104, 105] "iPhone" 5) =
      (.ok (frameOf firstPush), firstPush.2) := by decide +kernel
  exact (Session.messages_delivered mirrored (unexhausted (by decide +kernel))
    (unexhausted (by decide +kernel)) hadmissible fun _ ↦ by decide +kernel).2 _ _ htransmit 0 none

end AirClip
