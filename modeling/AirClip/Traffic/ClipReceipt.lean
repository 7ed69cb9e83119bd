import AirClip.Core.Messages
import AirClip.Core.Lifecycle
import AirClip.Security.Link

/-!
# Receipt of clips

A CLIP_PUSH that opens is either received, which means one `ClipArrived` and one CLIP_ACK for it, or
it closes the session with neither.  Over a whole run, whatever else arrives and however the pause
flag is set, the clips that have arrived are the clips that have been acknowledged.
-/

open Foundation Cbor

namespace AirClip

/-- The clips that arrive among some actions. -/
def arrivedClips (actions : List SessionAction) : List (Octets 8) :=
  (emittedEvents actions).filterMap fun
    | .clipArrived clipId .. => some clipId
    | _ => none

/-- The CLIP_ACK frames among some actions. -/
def ackFrames (actions : List SessionAction) : List Frame :=
  (sentFrames actions).filter fun frame ↦ frame.ty = .clipAck

theorem emittedEvents_append (left right : List SessionAction) :
    emittedEvents (left ++ right) = emittedEvents left ++ emittedEvents right :=
  List.filterMap_append ..

theorem sentFrames_append (left right : List SessionAction) :
    sentFrames (left ++ right) = sentFrames left ++ sentFrames right := List.filterMap_append ..

theorem arrivedClips_append (left right : List SessionAction) :
    arrivedClips (left ++ right) = arrivedClips left ++ arrivedClips right := by
  rw [arrivedClips, emittedEvents_append, List.filterMap_append]
  rfl

theorem ackFrames_append (left right : List SessionAction) :
    ackFrames (left ++ right) = ackFrames left ++ ackFrames right := by
  rw [ackFrames, sentFrames_append, List.filter_append]
  rfl

/-- Actions by which no clip arrives and none is acknowledged. -/
structure NoClip (actions : List SessionAction) : Prop where
  arrived : arrivedClips actions = []
  acked : ackFrames actions = []

section Receipts

variable [Primitives] [Ciborium]

/-- Clip id and status of a CLIP_ACK for the holder of the key it was sealed under. -/
def readAck (key : Key32) (frame : Frame) : Option (Octets 8 × UInt64) :=
  match frame.plainUnder key with
  | none => none
  | some plain =>
    match MapReader.fromSlice plain with
    | .error _ => none
    | .ok r =>
      match r.byteArray 8 SessionKey.ackClipId, r.u64 SessionKey.ackStatus with
      | .ok clipId, .ok status => some (clipId, status)
      | _, _ => none

/-- Code of an ERROR frame for the holder of the key it was sealed under. -/
def readErrorCode (key : Key32) (frame : Frame) : Option UInt64 :=
  match frame.plainUnder key with
  | none => none
  | some plain =>
    match MapReader.fromSlice plain with
    | .error _ => none
    | .ok r => (r.u64 SessionKey.errCode).toOption

/-- A CLIP_PUSH with these mandatory fields. -/
def IsClipPush (plain : Bytes) (clipId : Octets 8) (ct : UInt64) (body : Bytes) : Prop :=
  ∃ r, MapReader.fromSlice plain = .ok r ∧ Session.readClipPush r = some (clipId, ct, body)

omit [Primitives] in
theorem isClipPush_inj {plain : Bytes} {clipId clipId' : Octets 8} {ct ct' : UInt64}
    {body body' : Bytes} (h : IsClipPush plain clipId ct body)
    (h' : IsClipPush plain clipId' ct' body') : clipId = clipId' ∧ ct = ct' ∧ body = body' := by
  obtain ⟨r, hslice, hread⟩ := h
  obtain ⟨r', hslice', hread'⟩ := h'
  cases hslice.symm.trans hslice'
  cases hread.symm.trans hread'
  exact ⟨rfl, rfl, rfl⟩

namespace Session

/-- What `onClipPush` can do. -/
inductive Receipt (session : Session) (plain : Bytes) : Session × List SessionAction → Prop
  | received {r : MapReader} {clipId : Octets 8} {ct : UInt64} {body ack : Bytes}
      {contentType : ContentType} {frame : Frame} {session' : Session}
      (hslice : MapReader.fromSlice plain = .ok r)
      (hread : readClipPush r = some (clipId, ct, body)) (hpaused : session.paused = false)
      (hsize : body.length ≤ maxTextClip) (htype : contentTypeOf ct = some contentType)
      (hack : (clipAckMap clipId).toVec = .ok ack)
      (hseal : session.sealFrame .clipAck ack = (.ok frame, session')) :
      Receipt session plain (session', [.emit (.clipArrived clipId contentType body
        ((r.text SessionKey.sourceName).toOption.getD "")
        ((r.u64 SessionKey.createdAt).toOption.getD 0)), .send frame])
  | paused {clipId : Octets 8} {ct : UInt64} {body : Bytes}
      (hpush : IsClipPush plain clipId ct body) (hpaused : session.paused = true) :
      Receipt session plain (session.wireError .rateLimited "beaming paused")
  | oversize {clipId : Octets 8} {ct : UInt64} {body : Bytes}
      (hpush : IsClipPush plain clipId ct body) (hpaused : session.paused = false)
      (hsize : maxTextClip < body.length) :
      Receipt session plain (session.wireError .frameTooLarge "clip exceeds MAX_TEXT_CLIP")
  | refused (why : String) (hreason : ∀ clipId ct body, IsClipPush plain clipId ct body →
        session.paused = false ∧ body.length ≤ maxTextClip ∧ ∀ contentType ack frame session',
          contentTypeOf ct = some contentType → (clipAckMap clipId).toVec = .ok ack →
            session.sealFrame .clipAck ack ≠ (.ok frame, session')) :
      Receipt session plain (session.fail why)

theorem onClipPush_cases (session : Session) (plain : Bytes) :
    session.Receipt plain (session.onClipPush plain) := by
  unfold onClipPush
  split
  · next hslice =>
    refine .refused _ fun clipId ct body ⟨r, hok, _⟩ ↦ ?_
    rw [hslice] at hok
    cases hok
  next r hslice =>
  split
  · next hread =>
    refine .refused _ fun clipId ct body ⟨r', hok, hfields⟩ ↦ ?_
    cases hslice.symm.trans hok
    rw [hread] at hfields
    cases hfields
  next clipId ct body hread =>
  have hpush : IsClipPush plain clipId ct body := ⟨r, hslice, hread⟩
  dsimp only
  split_ifs with hpaused hsize
  · exact .paused hpush hpaused
  · exact .oversize hpush (by simpa using hpaused) hsize
  have hunpaused : session.paused = false := by simpa using hpaused
  split
  · next hct =>
    refine .refused _ fun clipId' ct' body' h' ↦ ?_
    obtain ⟨rfl, rfl, rfl⟩ := isClipPush_inj hpush h'
    refine ⟨hunpaused, not_lt.mp hsize, fun contentType ack frame session' htype ↦ ?_⟩
    rw [hct] at htype
    cases htype
  next contentType hct =>
  split
  · next hack =>
    refine .refused _ fun clipId' ct' body' h' ↦ ?_
    obtain ⟨rfl, rfl, rfl⟩ := isClipPush_inj hpush h'
    refine ⟨hunpaused, not_lt.mp hsize, fun contentType ack frame session' _ hok ↦ ?_⟩
    rw [hack] at hok
    cases hok
  next ack hack =>
  split
  · next failure session' hseal =>
    have hsame := sealFrame_error hseal
    subst hsame
    refine .refused _ fun clipId' ct' body' h' ↦ ?_
    obtain ⟨rfl, rfl, rfl⟩ := isClipPush_inj hpush h'
    refine ⟨hunpaused, not_lt.mp hsize, fun contentType ack' frame session'' _ hok hsealed ↦ ?_⟩
    cases hack.symm.trans hok
    rw [hseal] at hsealed
    cases hsealed
  · next frame session' hseal =>
    exact .received hslice hread hunpaused (not_lt.mp hsize) hct hack hseal

omit [Ciborium] in
theorem noClip_fail (session : Session) (why : String) : NoClip (session.fail why).2 := ⟨rfl, rfl⟩

theorem noClip_wireError (session : Session) (code : WireErrorCode) (msg : String) :
    NoClip (session.wireError code msg).2 := by
  unfold wireError
  dsimp only
  split
  · exact ⟨rfl, rfl⟩
  · split <;> exact ⟨rfl, rfl⟩

/-- Only a CLIP_PUSH and a PING are replied to, and only a CLIP_PUSH makes a clip arrive. -/
theorem onPlain_silent (session : Session) {ty : FrameType} (hpush : ty ≠ .clipPush)
    (hping : ty ≠ .ping) (plain : Bytes) : sentFrames (session.onPlain ty plain).2 = [] ∧
      arrivedClips (session.onPlain ty plain).2 = [] := by
  cases ty with
  | clipPush => exact absurd rfl hpush
  | ping => exact absurd rfl hping
  | clipAck =>
    change sentFrames (session.onClipAck plain).2 = [] ∧ arrivedClips (session.onClipAck plain).2 = []
    unfold onClipAck
    repeat' split
    all_goals exact ⟨rfl, rfl⟩
  | stageListReq => exact ⟨rfl, rfl⟩
  | stageList =>
    change sentFrames (session.onStageList plain).2 = [] ∧
      arrivedClips (session.onStageList plain).2 = []
    unfold onStageList
    repeat' split
    all_goals exact ⟨rfl, rfl⟩
  | stageGet =>
    change sentFrames (session.onStageGet plain).2 = [] ∧
      arrivedClips (session.onStageGet plain).2 = []
    unfold onStageGet
    repeat' split
    all_goals exact ⟨rfl, rfl⟩
  | stageItem =>
    change sentFrames (session.onStageItem plain).2 = [] ∧
      arrivedClips (session.onStageItem plain).2 = []
    unfold onStageItem
    repeat' split
    all_goals exact ⟨rfl, rfl⟩
  | pong | error => exact ⟨rfl, rfl⟩
  | hello | helloAck | pairReq | pairAck | pairConfirm => exact ⟨rfl, rfl⟩

omit [Ciborium] in
/-- A PING is answered if the answer can be sealed. -/
theorem onPing_cases (session : Session) :
    (∃ frame session', session.sealFrame .pong [] = (.ok frame, session') ∧ frame.ty = .pong ∧
      session.onPing = (session', [.send frame])) ∨
    (∃ failure, session.sealFrame .pong [] = (.error failure, session)) ∧
      session.onPing = session.fail "failed to seal PONG" := by
  unfold onPing
  obtain ⟨failure, h⟩ | ⟨channel, payload, channel', -, -, h⟩ := session.sealFrame_cases .pong []
  · rw [h]
    exact .inr ⟨⟨failure, rfl⟩, rfl⟩
  · rw [h]
    exact .inl ⟨_, _, rfl, rfl, rfl⟩

/-- Only a CLIP_PUSH makes a clip arrive or be acknowledged. -/
theorem noClip_onPlain (session : Session) {ty : FrameType} (hty : ty ≠ .clipPush) (plain : Bytes) :
    NoClip (session.onPlain ty plain).2 := by
  by_cases hping : ty = .ping
  · subst hping
    change NoClip session.onPing.2
    obtain ⟨frame, session', -, hpong, heq⟩ | ⟨-, heq⟩ := session.onPing_cases
    · rw [heq]
      exact ⟨rfl, by simp [ackFrames, sentFrames, hpong]⟩
    · rw [heq]
      exact session.noClip_fail _
  · obtain ⟨hsent, harrived⟩ := session.onPlain_silent hty hping plain
    exact ⟨harrived, by rw [ackFrames, hsent]; rfl⟩

/-! ## Replies -/

/-- A refusal with an error code is an ERROR frame with that code, then the close. -/
theorem wireError_eq [Ciborium.Lawful] [AeadCorrect] [AeadAvailable] {session : Session}
    {channel : AeadChannel} (hchannel : session.channel = some channel)
    (hctr : channel.tx.ctr.toNat + 1 < 2 ^ 64) (code : WireErrorCode) {msg : String}
    (hmsg : (utf8 msg).length ≤ 1024) :
    ∃ frame channel', session.wireError code msg =
        ({ session with channel := some channel', state := .closed }, [.send frame, .close msg]) ∧
      frame.ty = .error ∧ readErrorCode channel.tx.key frame = some code.toUInt16.toUInt64 := by
  obtain ⟨payload, r, hvec, hslice, hcode, -, hlength⟩ := wireErrorMap_reads code
    (show (utf8 msg).length < 2 ^ 64 by omega)
  obtain ⟨sealed, channel', hseal⟩ := channel.sealPayload_available .error hctr
    (show payload.length / 64 < 2 ^ 32 - 1 by omega)
  obtain ⟨hplain, -, -⟩ := AeadChannel.sealPayload_ok hseal
  refine ⟨⟨.error, sealed⟩, channel', ?_, rfl, ?_⟩
  · unfold wireErrorMap at hvec
    simp only [wireError, hchannel, hvec, Except.toOption, Option.getD_some, hseal]
  · simp only [readErrorCode, hplain, hslice, hcode, Except.toOption]

/-- The reply to a clip is read back with its id and status 0. -/
theorem readAck_sealed [Ciborium.Lawful] [AeadCorrect] {session session' : Session}
    {channel : AeadChannel} {clipId : Octets 8} {ack : Bytes} {frame : Frame}
    (hchannel : session.channel = some channel) (hack : (clipAckMap clipId).toVec = .ok ack)
    (hseal : session.sealFrame .clipAck ack = (.ok frame, session')) :
    frame.ty = .clipAck ∧ readAck channel.tx.key frame = some (clipId, 0) := by
  obtain ⟨payload, r, hvec, hslice, hid, hstatus, -⟩ := clipAckMap_reads clipId
  cases hack.symm.trans hvec
  obtain ⟨hty, hplain, -⟩ := sealFrame_ok hchannel hseal
  exact ⟨hty, by simp only [readAck, hplain, hslice, hid, hstatus]⟩

/-- A frame that opens is answered by the handler of its type. -/
theorem onFrame_opens {session : Session} (hcoherent : session.Coherent) {frame : Frame}
    {plain : Bytes} (hopens : session.opens frame = some plain) (nowMs : UInt64)
    (seed : Option Key32) : ∃ channel channel', session.channel = some channel ∧
      channel'.tx = channel.tx ∧ session.onFrame frame nowMs seed =
        ({ session with lastActivityMs := nowMs, channel := some channel' } : Session).onPlain
          frame.ty plain := by
  have hreception := onFrame_cases hcoherent frame nowMs seed
  generalize session.onFrame frame nowMs seed = result at hreception
  cases hreception with
  | refused _ _ hnone =>
    rw [hnone] at hopens
    cases hopens
  | greeted hstate | acknowledged hstate =>
    rw [opens_eq_none (by simp [hstate])] at hopens
    cases hopens
  | @opened channel channel' plain' hstate hencrypted hchannel hopen =>
    rw [opens_eq_some hstate hencrypted hchannel hopen] at hopens
    cases hopens
    exact ⟨channel, channel', hchannel, AeadChannel.openPayload_tx hopen, rfl⟩

/-! ## Runs -/

/-- A frame that arrives while the pause flag has this value. -/
structure Arrival where
  paused : Bool
  frame : Frame
  nowMs : UInt64
  seed : Option Key32

def receive (session : Session) (arrival : Arrival) : Session × List SessionAction :=
  (session.setPaused arrival.paused).onFrame arrival.frame arrival.nowMs arrival.seed

def receiveAll (session : Session) : List Arrival → Session × List SessionAction
  | [] => (session, [])
  | arrival :: arrivals =>
    let result := session.receive arrival
    let later := result.1.receiveAll arrivals
    (later.1, result.2 ++ later.2)

/-- The session has been established and transmits under this key. -/
structure Transmits (key : Key32) (session : Session) : Prop where
  begun : session.Begun
  channel : ∃ channel, session.channel = some channel ∧ channel.tx.key = key

omit [Ciborium] in
theorem Transmits.coherent {key : Key32} {session : Session} (h : session.Transmits key) :
    session.Coherent := by
  obtain ⟨channel, hchannel, -⟩ := h.channel
  obtain hstate | hstate := h.begun
  · exact coherent_of_established hstate hchannel
  · exact coherent_of_closed hstate

omit [Ciborium] in
theorem Transmits.setPaused {key : Key32} {session : Session} (h : session.Transmits key)
    (paused : Bool) : (session.setPaused paused).Transmits key := ⟨h.begun, h.channel⟩

theorem Transmits.receive {key : Key32} {session : Session} (h : session.Transmits key)
    (arrival : Arrival) : (session.receive arrival).1.Transmits key := by
  have hpaused := h.setPaused arrival.paused
  obtain ⟨channel, hchannel, hkey⟩ := hpaused.channel
  obtain ⟨opened, items, later, hopening, hsealing, hlater, -⟩ := perform_channel hpaused.coherent
    hchannel (.onFrame arrival.frame arrival.nowMs arrival.seed)
  obtain ⟨later, rfl, -, hkey'⟩ := hsealing.sides
  have hbegun := (perform_begun hpaused.coherent hpaused.begun
    (.onFrame arrival.frame arrival.nowMs arrival.seed)).1
  exact ⟨hbegun, later, hlater, by rw [hkey', hopening.tx_eq, hkey]⟩

/-- A clip has been received: it arrives, and is acknowledged under this key. -/
def Received (key : Key32) (paused : Bool) (plain : Bytes) (actions : List SessionAction) : Prop :=
  ∃ clipId ct body contentType sourceName createdAtMs frame,
    actions = [.emit (.clipArrived clipId contentType body sourceName createdAtMs), .send frame] ∧
      frame.ty = .clipAck ∧ readAck key frame = some (clipId, 0) ∧
      IsClipPush plain clipId ct body ∧ paused = false ∧ body.length ≤ maxTextClip ∧
      contentTypeOf ct = some contentType

/-- A clip is refused: nothing arrives or is acknowledged, and the session is closed, after an ERROR
frame if the clip is well formed but the pause flag is set or the clip is too large. -/
structure Refused (key : Key32) (paused : Bool) (plain : Bytes)
    (result : Session × List SessionAction) : Prop where
  noClip : NoClip result.2
  closed : result.1.state = .closed
  close_last : ∃ init why, result.2 = init ++ [.close why]
  rateLimited : ∀ clipId ct body, IsClipPush plain clipId ct body → paused = true →
    ∃ frame why, result.2 = [.send frame, .close why] ∧ frame.ty = .error ∧
      readErrorCode key frame = some WireErrorCode.rateLimited.toUInt16.toUInt64
  tooLarge : ∀ clipId ct body, IsClipPush plain clipId ct body → paused = false →
    maxTextClip < body.length → ∃ frame why, result.2 = [.send frame, .close why] ∧
      frame.ty = .error ∧
      readErrorCode key frame = some WireErrorCode.frameTooLarge.toUInt16.toUInt64

variable [Ciborium.Lawful] [AeadCorrect]

/-- A received clip is one of the two outcomes of a CLIP_PUSH, and the only one with an effect. -/
theorem Receipt.received_or_noClip {session : Session} {channel : AeadChannel} {plain : Bytes}
    {result : Session × List SessionAction} (hchannel : session.channel = some channel)
    (h : session.Receipt plain result) :
    Received channel.tx.key session.paused plain result.2 ∨ NoClip result.2 := by
  cases h with
  | @received r clipId ct body ack contentType frame session' hslice hread hpaused hsize htype hack
      hseal =>
    obtain ⟨hty, hread'⟩ := readAck_sealed hchannel hack hseal
    exact .inl ⟨clipId, ct, body, contentType, _, _, frame, rfl, hty, hread', ⟨r, hslice, hread⟩,
      hpaused, hsize, htype⟩
  | paused | oversize => exact .inr (session.noClip_wireError _ _)
  | refused => exact .inr (session.noClip_fail _)

theorem Receipt.received_or_refused [AeadAvailable] {session : Session} {channel : AeadChannel}
    {plain : Bytes} {result : Session × List SessionAction}
    (hchannel : session.channel = some channel) (hctr : channel.tx.ctr.toNat + 1 < 2 ^ 64)
    (h : session.Receipt plain result) :
    Received channel.tx.key session.paused plain result.2 ∨
      Refused channel.tx.key session.paused plain result := by
  cases h with
  | @received r clipId ct body ack contentType frame session' hslice hread hpaused hsize htype hack
      hseal =>
    obtain ⟨hty, hread'⟩ := readAck_sealed hchannel hack hseal
    exact .inl ⟨clipId, ct, body, contentType, _, _, frame, rfl, hty, hread', ⟨r, hslice, hread⟩,
      hpaused, hsize, htype⟩
  | paused hpush hpaused =>
    obtain ⟨frame, channel', heq, hty, hcode⟩ := wireError_eq hchannel hctr .rateLimited
      (by decide +kernel : (utf8 "beaming paused").length ≤ 1024)
    rw [heq]
    exact .inr {
      noClip := heq ▸ session.noClip_wireError .rateLimited "beaming paused"
      closed := rfl
      close_last := ⟨[.send frame], _, rfl⟩
      rateLimited := fun _ _ _ _ _ ↦ ⟨frame, _, rfl, hty, hcode⟩
      tooLarge := fun _ _ _ _ hunpaused ↦ absurd (hpaused.symm.trans hunpaused) (by decide) }
  | oversize hpush hpaused hsize =>
    obtain ⟨frame, channel', heq, hty, hcode⟩ := wireError_eq hchannel hctr .frameTooLarge
      (by decide +kernel : (utf8 "clip exceeds MAX_TEXT_CLIP").length ≤ 1024)
    rw [heq]
    exact .inr {
      noClip := heq ▸ session.noClip_wireError .frameTooLarge "clip exceeds MAX_TEXT_CLIP"
      closed := rfl
      close_last := ⟨[.send frame], _, rfl⟩
      rateLimited := fun _ _ _ _ hset ↦ absurd (hpaused.symm.trans hset) (by decide)
      tooLarge := fun _ _ _ _ _ _ ↦ ⟨frame, _, rfl, hty, hcode⟩ }
  | refused why hreason =>
    exact .inr {
      noClip := session.noClip_fail why
      closed := rfl
      close_last := ⟨[], why, rfl⟩
      rateLimited := fun clipId ct body hpush hset ↦
        absurd ((hreason clipId ct body hpush).1.symm.trans hset) (by decide)
      tooLarge := fun clipId ct body hpush _ hsize ↦
        absurd (hreason clipId ct body hpush).2.1 (not_le.mpr hsize) }

omit [Ciborium.Lawful] [AeadCorrect] in
/-- A frame that makes a clip arrive or be acknowledged is an authentic CLIP_PUSH. -/
theorem receive_receipt {key : Key32} {session : Session} (h : session.Transmits key)
    (arrival : Arrival) : NoClip (session.receive arrival).2 ∨
      arrival.frame.ty = .clipPush ∧ ∃ plain opened,
        (session.setPaused arrival.paused).opens arrival.frame = some plain ∧ opened.tx.key = key ∧
          Receipt { session.setPaused arrival.paused with
            lastActivityMs := arrival.nowMs, channel := some opened } plain
            (session.receive arrival) := by
  have hpaused := h.setPaused arrival.paused
  have hreception := onFrame_cases hpaused.coherent arrival.frame arrival.nowMs arrival.seed
  unfold Session.receive
  generalize (session.setPaused arrival.paused).onFrame arrival.frame arrival.nowMs arrival.seed =
    result at hreception
  cases hreception with
  | refused => exact .inl ⟨rfl, rfl⟩
  | greeted hstate | acknowledged hstate =>
    obtain hbegun | hbegun := hpaused.begun <;> exact absurd (hbegun.symm.trans hstate) (by simp)
  | @opened channel opened plain hstate hencrypted hchannel hopen =>
    obtain ⟨channel₀, hchannel₀, hkey⟩ := hpaused.channel
    cases hchannel.symm.trans hchannel₀
    by_cases hty : arrival.frame.ty = .clipPush
    · rw [hty]
      exact .inr ⟨rfl, plain, opened, opens_eq_some hstate hencrypted hchannel hopen,
        by rw [AeadChannel.openPayload_tx hopen, hkey], onClipPush_cases _ plain⟩
    · exact .inl (noClip_onPlain _ hty plain)

/-- It has been received while the pause flag is not set. -/
theorem receive_received {key : Key32} {session : Session} (h : session.Transmits key)
    (arrival : Arrival) : NoClip (session.receive arrival).2 ∨
      arrival.frame.ty = .clipPush ∧
        ∃ plain, (session.setPaused arrival.paused).opens arrival.frame = some plain ∧
          Received key arrival.paused plain (session.receive arrival).2 := by
  obtain hnone | ⟨hty, plain, opened, hopens, hkey, hreceipt⟩ := receive_receipt h arrival
  · exact .inl hnone
  · obtain hreceived | hnone := hreceipt.received_or_noClip rfl
    · rw [hkey] at hreceived
      exact .inr ⟨hty, plain, hopens, hreceived⟩
    · exact .inl hnone

/-- While the counter lasts, a CLIP_PUSH that opens is received or refused. -/
theorem receive_clipPush [AeadAvailable] {key : Key32} {session : Session}
    (h : session.Transmits key) (arrival : Arrival) {plain : Bytes}
    (hty : arrival.frame.ty = .clipPush)
    (hopens : (session.setPaused arrival.paused).opens arrival.frame = some plain)
    (hctr : ∀ channel, session.channel = some channel → channel.tx.ctr.toNat + 1 < 2 ^ 64) :
    Received key arrival.paused plain (session.receive arrival).2 ∨
      Refused key arrival.paused plain (session.receive arrival) := by
  have hpaused := h.setPaused arrival.paused
  obtain ⟨channel, channel', hchannel, htx, heq⟩ :=
    onFrame_opens hpaused.coherent hopens arrival.nowMs arrival.seed
  obtain ⟨channel₀, hchannel₀, hkey⟩ := hpaused.channel
  cases hchannel.symm.trans hchannel₀
  unfold Session.receive
  rw [heq, hty, ← hkey, ← htx]
  exact (onClipPush_cases _ plain).received_or_refused rfl (htx ▸ hctr channel hchannel)

/-- What arrives in one step is what is acknowledged in it. -/
theorem acks_eq_arrivals {key : Key32} {session : Session} (h : session.Transmits key)
    (arrival : Arrival) : (ackFrames (session.receive arrival).2).map (readAck key) =
      (arrivedClips (session.receive arrival).2).map fun clipId ↦ some (clipId, 0) := by
  obtain hnone | ⟨-, plain, -, clipId, ct, body, contentType, sourceName, createdAtMs, frame,
    hactions, hty, hread, -⟩ := receive_received h arrival
  · rw [hnone.acked, hnone.arrived]
    rfl
  · rw [hactions]
    simp [ackFrames, sentFrames, arrivedClips, emittedEvents, hty, hread]

/-- In every run of an established session, whatever arrives and however the pause flag is set, the
clips that arrive are, in order, those acknowledged with status 0.  Each such pair comes from one
CLIP_PUSH that opened while the pause flag was not set; and a CLIP_PUSH that opens and is not received
has neither, and closes the session. -/
theorem clip_receipts_atomic [AeadAvailable] {session : Session} {channel : AeadChannel}
    (hstate : session.state = .established) (hchannel : session.channel = some channel)
    (arrivals : List Arrival) :
    (ackFrames (session.receiveAll arrivals).2).map (readAck channel.tx.key) =
        (arrivedClips (session.receiveAll arrivals).2).map (fun clipId ↦ some (clipId, 0)) ∧
    ∀ arrival, let before := (session.receiveAll arrivals).1
      let result := before.receive arrival
      (¬ NoClip result.2 → arrival.frame.ty = .clipPush ∧
        ∃ plain, (before.setPaused arrival.paused).opens arrival.frame = some plain ∧
          Received channel.tx.key arrival.paused plain result.2) ∧
      ∀ plain, arrival.frame.ty = .clipPush →
        (before.setPaused arrival.paused).opens arrival.frame = some plain →
        (∀ later, before.channel = some later → later.tx.ctr.toNat + 1 < 2 ^ 64) →
          Received channel.tx.key arrival.paused plain result.2 ∨
            Refused channel.tx.key arrival.paused plain result := by
  have htransmits : session.Transmits channel.tx.key := ⟨.inl hstate, channel, hchannel, rfl⟩
  generalize channel.tx.key = key at htransmits
  clear hstate hchannel
  induction arrivals generalizing session with
  | nil =>
    exact ⟨rfl, fun arrival ↦ ⟨fun hclip ↦ (receive_received htransmits arrival).resolve_left hclip,
      fun plain ↦ receive_clipPush htransmits arrival⟩⟩
  | cons arrival arrivals ih =>
    obtain ⟨hacks, hlater⟩ := ih (htransmits.receive arrival)
    refine ⟨?_, hlater⟩
    rw [receiveAll]
    dsimp only
    rw [ackFrames_append, arrivedClips_append, List.map_append, List.map_append, hacks,
      acks_eq_arrivals htransmits arrival]

end Session

end Receipts

namespace Reference

/-- The phone pushes two clips. -/
def firstPush : Except Error Frame × Session :=
  phoneSession.pushClipWithId (pad 8 [1]) .text [104, 105] "iPhone" 5

def secondPush : Except Error Frame × Session :=
  firstPush.2.pushClipWithId (pad 8 [2]) .text [104, 111] "iPhone" 6

/-- The frame of a call that has returned one. -/
def frameOf (result : Except Error Frame × Session) : Frame :=
  result.1.toOption.getD ⟨.ping, []⟩

end Reference

open Reference in
/-- The first clip is received, and the second one refused because the pause flag is set. -/
theorem clip_receipts_atomic_two_pushes :
    let first : Session.Arrival := ⟨false, frameOf firstPush, 0, none⟩
    let second : Session.Arrival := ⟨true, frameOf secondPush, 0, none⟩
    ∃ key, (ackFrames (pcSession.receiveAll [first]).2).map (readAck key) = [some (pad 8 [1], 0)] ∧
      ((pcSession.receiveAll [first]).1.receive second).1.state = .closed ∧
      NoClip ((pcSession.receiveAll [first]).1.receive second).2 := by
  intro first second
  have hsome : pcSession.channel.isSome := by decide +kernel
  obtain ⟨channel, hchannel⟩ := Option.isSome_iff_exists.mp hsome
  obtain ⟨hacks, hlater⟩ :=
    Session.clip_receipts_atomic (by decide +kernel : pcSession.state = .established) hchannel [first]
  have harrived : arrivedClips (pcSession.receiveAll [first]).2 = [pad 8 [1]] := by decide +kernel
  rw [harrived] at hacks
  obtain ⟨plain, hopens⟩ := Option.isSome_iff_exists.mp (by decide +kernel :
    (((pcSession.receiveAll [first]).1.setPaused true).opens second.frame).isSome)
  have hctr : ∀ later, (pcSession.receiveAll [first]).1.channel = some later →
      later.tx.ctr.toNat + 1 < 2 ^ 64 := by
    intro later hlater
    have hone : (pcSession.receiveAll [first]).1.channel.map (·.tx.ctr) = some 1 := by decide +kernel
    rw [hlater, Option.map_some, Option.some.injEq] at hone
    rw [hone]
    decide
  refine ⟨channel.tx.key, hacks, ?_⟩
  obtain ⟨_, _, _, _, _, _, _, -, -, -, -, hunpaused, -⟩ | hrefused :=
    (hlater second).2 plain (by decide +kernel) hopens hctr
  · cases hunpaused
  · exact ⟨hrefused.closed, hrefused.noClip⟩

end AirClip
