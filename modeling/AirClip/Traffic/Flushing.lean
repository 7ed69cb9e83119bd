import AirClip.Core.Client
import AirClip.Agent.ConnectionStatus
import AirClip.Traffic.Delivery

/-!
# Transmission of replies

The loop of the agent writes whatever its session returns before it acts on a close, waits or returns.
The operations of the phone write their request only, so they transmit everything exactly if no frame
they handle is one that the session replies to.
-/

open Foundation

namespace AirClip

section Flushing

variable [Primitives] [Ciborium]

/-! ## Replies of a session -/

namespace Session

/-- The session replies to the frame: it opens as a PING, or as a CLIP_PUSH that is accepted or refused
with an ERROR, and the sending counter is not exhausted. -/
def RepliesTo (session : Session) (frame : Frame) : Prop :=
  session.Unexhausted ∧ ∃ plain, session.opens frame = some plain ∧
    (frame.ty = .ping ∨ frame.ty = .clipPush ∧ ∃ clipId ct body, IsClipPush plain clipId ct body ∧
      (session.paused = true ∨ maxTextClip < body.length ∨ (contentTypeOf ct).isSome))

omit [Ciborium] in
theorem unexhausted_of_sealFrame {session session' : Session} {ty : FrameType} {plain : Bytes}
    {frame : Frame} (h : session.sealFrame ty plain = (.ok frame, session')) :
    session.Unexhausted := by
  obtain ⟨channel, payload, channel', hchannel, hpayload, -, -⟩ := sealFrame_eq_ok h
  obtain ⟨ct, -, hctr, -, -⟩ := AeadChannel.sealPayload_eq_ok hpayload
  intro other hother
  cases hchannel.symm.trans hother
  exact hctr

variable [AeadAvailable]

omit [Ciborium] in
theorem sealFrame_of_unexhausted {session : Session} {channel : AeadChannel} (ty : FrameType)
    {plain : Bytes} (hchannel : session.channel = some channel) (hctr : session.Unexhausted)
    (hplain : plain.length ≤ 64) :
    ∃ frame session', session.sealFrame ty plain = (.ok frame, session') :=
  sealFrame_available ty hchannel (hctr channel hchannel)
    (show plain.length / 64 < 2 ^ 32 - 1 by omega)

variable [Ciborium.Lawful] [AeadCorrect]

/-- A refusal with an error code is an ERROR frame if it can be sealed. -/
theorem sentFrames_wireError {session : Session} {channel : AeadChannel}
    (hchannel : session.channel = some channel) (code : WireErrorCode) {msg : String}
    (hmsg : (utf8 msg).length ≤ 1024) :
    sentFrames (session.wireError code msg).2 ≠ [] ↔ session.Unexhausted := by
  constructor
  · intro hsent
    rw [wireError_sealFrame] at hsent
    generalize hseal : session.sealFrame .error _ = sealed at hsent
    obtain ⟨failure | frame, later⟩ := sealed
    · exact absurd rfl hsent
    · exact unexhausted_of_sealFrame hseal
  · intro hctr
    obtain ⟨frame, channel', heq, -⟩ := wireError_eq hchannel (hctr channel hchannel) code hmsg
    rw [heq]
    simp [sentFrames]

/-- A CLIP_PUSH is replied to if it is accepted, or refused with an ERROR. -/
theorem sentFrames_onClipPush {session : Session} {channel : AeadChannel}
    (hchannel : session.channel = some channel) (plain : Bytes) :
    sentFrames (session.onClipPush plain).2 ≠ [] ↔ session.Unexhausted ∧
      ∃ clipId ct body, IsClipPush plain clipId ct body ∧
        (session.paused = true ∨ maxTextClip < body.length ∨ (contentTypeOf ct).isSome) := by
  have hreceipt := session.onClipPush_cases plain
  generalize session.onClipPush plain = result at hreceipt
  cases hreceipt with
  | @received r clipId ct body ack contentType frame session' hslice hread _ _ htype _ hseal =>
    refine iff_of_true (by simp [sentFrames]) ⟨unexhausted_of_sealFrame hseal, ?_⟩
    exact ⟨clipId, ct, body, ⟨r, hslice, hread⟩, .inr (.inr (by rw [htype]; rfl))⟩
  | @paused clipId ct body hpush hpaused =>
    rw [sentFrames_wireError hchannel _ (by decide +kernel)]
    exact (and_iff_left ⟨clipId, ct, body, hpush, .inl hpaused⟩).symm
  | @oversize clipId ct body hpush _ hsize =>
    rw [sentFrames_wireError hchannel _ (by decide +kernel)]
    exact (and_iff_left ⟨clipId, ct, body, hpush, .inr (.inl hsize)⟩).symm
  | refused why hreason =>
    refine iff_of_false (fun h ↦ h rfl) ?_
    rintro ⟨hctr, clipId, ct, body, hpush, hreplied⟩
    obtain ⟨hpaused, hsize, hunsealed⟩ := hreason clipId ct body hpush
    obtain hset | hlarge | hsome := hreplied
    · exact absurd (hpaused.symm.trans hset) (by decide)
    · exact absurd hlarge (not_lt.mpr hsize)
    · obtain ⟨contentType, htype⟩ := Option.isSome_iff_exists.mp hsome
      obtain ⟨ack, r, hack, -, -, -, hlength⟩ := clipAckMap_reads clipId
      obtain ⟨frame, session', hseal⟩ :=
        sealFrame_of_unexhausted .clipAck hchannel hctr hlength
      exact hunsealed contentType ack frame session' htype hack hseal

/-- The frames an opened frame is replied to with. -/
theorem sentFrames_onPlain {session : Session} {channel : AeadChannel}
    (hchannel : session.channel = some channel) (ty : FrameType) (plain : Bytes) :
    sentFrames (session.onPlain ty plain).2 ≠ [] ↔ session.Unexhausted ∧
      (ty = .ping ∨ ty = .clipPush ∧ ∃ clipId ct body, IsClipPush plain clipId ct body ∧
        (session.paused = true ∨ maxTextClip < body.length ∨ (contentTypeOf ct).isSome)) := by
  by_cases hping : ty = .ping
  · subst hping
    simp only [true_or, and_true]
    change sentFrames session.onPing.2 ≠ [] ↔ _
    obtain ⟨frame, session', hseal, -, heq⟩ | ⟨⟨failure, hfail⟩, heq⟩ := session.onPing_cases
    · rw [heq]
      exact iff_of_true (by simp [sentFrames]) (unexhausted_of_sealFrame hseal)
    · rw [heq]
      refine iff_of_false (fun h ↦ h rfl) fun hctr ↦ ?_
      obtain ⟨frame, session', hseal⟩ := sealFrame_of_unexhausted .pong hchannel hctr
        (show ([] : Bytes).length ≤ 64 from Nat.zero_le 64)
      rw [hfail] at hseal
      cases hseal
  by_cases hpush : ty = .clipPush
  · subst hpush
    change sentFrames (session.onClipPush plain).2 ≠ [] ↔ _
    rw [sentFrames_onClipPush hchannel]
    simp
  · rw [(session.onPlain_silent hpush hping plain).1]
    simp [hping, hpush]

/-- A session that has begun replies to exactly these frames. -/
theorem sentFrames_onFrame {session : Session} (hcoherent : session.Coherent)
    (hbegun : session.Begun) (frame : Frame) (nowMs : UInt64) (seed : Option Key32) :
    sentFrames (session.onFrame frame nowMs seed).2 ≠ [] ↔ session.RepliesTo frame := by
  have hreception := onFrame_cases hcoherent frame nowMs seed
  generalize session.onFrame frame nowMs seed = result at hreception
  cases hreception with
  | refused _ _ hnone =>
    refine iff_of_false (fun h ↦ h rfl) ?_
    rintro ⟨-, plain, hopens, -⟩
    rw [hnone] at hopens
    cases hopens
  | greeted hstate | acknowledged hstate =>
    obtain hbegun | hbegun := hbegun <;> exact absurd (hbegun.symm.trans hstate) (by simp)
  | @opened channel channel' plain hstate hencrypted hchannel hopen =>
    have hopens := opens_eq_some hstate hencrypted hchannel hopen
    have htx := AeadChannel.openPayload_tx hopen
    have hctr : ({ session with lastActivityMs := nowMs, channel := some channel' } :
        Session).Unexhausted ↔ session.Unexhausted := by
      simp [Unexhausted, hchannel, htx]
    rw [sentFrames_onPlain rfl, hctr, RepliesTo, hopens]
    simp

end Session

/-! ## The loop of the agent -/

namespace SessionTask

/-- What the loop has still to write. -/
def owes (task : SessionTask) : Prop :=
  match task.phase with
  | .received _ => Owes task.trace []
  | .acting actions => Owes task.trace (sentFrames actions) ∧ ∃ done, Batch (done ++ actions)
  | .returned _ => Flushed task.trace

omit [Primitives] [Ciborium] in
/-- Nothing follows a close, and no frame an event but an arriving clip. -/
theorem batch_rest {done rest : List SessionAction} {action : SessionAction}
    (h : Batch (done ++ action :: rest)) : (∀ why, action = .close why → rest = []) ∧
      ∀ event, action = .emit event →
        sentFrames rest = [] ∨ ∃ clipId contentType body sourceName createdAtMs,
          event = .clipArrived clipId contentType body sourceName createdAtMs := by
  generalize hactions : done ++ action :: rest = actions at h
  cases h with
  | silent => simp at hactions
  | refused | acknowledged | event | reply =>
    obtain ⟨rfl, hsingle⟩ | ⟨-, hnil⟩ := List.append_eq_singleton_iff.mp hactions
    · obtain ⟨rfl, rfl⟩ := List.cons.inj hsingle
      exact ⟨fun _ _ ↦ rfl, fun _ _ ↦ .inl rfl⟩
    · simp at hnil
  | greeted | wireError | clip | peerError =>
    rcases done with - | ⟨first, - | ⟨second, done⟩⟩
    · cases hactions
      simp [sentFrames]
    · cases hactions
      simp [sentFrames]
    · cases done <;> cases hactions

/-- The loop keeps what it owes in every step whose write works. -/
theorem owes_step {task : SessionTask} (hcoherent : task.session.Coherent) (h : task.owes)
    {input : Input} (hworks : ∀ stage, input ≠ .act stage false) : (task.step input).owes := by
  have hstep := task.step_cases input
  generalize task.step input = task' at hstep
  unfold owes at h
  cases hstep with
  | still => exact h
  | @called frame paused nowMs seed hphase =>
    rw [hphase] at h
    have hpaused : (task.session.setPaused paused).Coherent :=
      hcoherent.perform (.setPaused paused)
    exact ⟨h.batch _, [], Session.batch_onFrame hpaused frame nowMs seed⟩
  | @sent stage frame rest hphase =>
    rw [hphase] at h
    obtain ⟨howes, done, hbatch⟩ := h
    exact ⟨howes.wrote, done ++ [.send frame], by simpa using hbatch⟩
  | @handled stage works event rest hphase =>
    rw [hphase] at h
    obtain ⟨howes, done, hbatch⟩ := h
    exact ⟨howes.handled event, done ++ [.emit event], by simpa using hbatch⟩
  | @answered stage event rest reply hphase =>
    rw [hphase] at h
    obtain ⟨howes, done, hbatch⟩ := h
    exact ⟨(howes.handled event).reply reply, done ++ [.emit event], by simpa using hbatch⟩
  | @closed stage works why rest hphase =>
    rw [hphase] at h
    obtain ⟨howes, done, hbatch⟩ := h
    cases (batch_rest hbatch).1 why rfl
    have hclosing : Owes (task.trace ++ [.closing]) [] := Owes.stop howes rfl (by simp)
    exact hclosing.flushed_snoc .returned
  | received hphase =>
    rw [hphase] at h
    exact Owes.stop h.1 rfl (by simp)
  | ended hphase | failed hphase =>
    rw [hphase] at h
    have hreceiving : Owes (task.trace ++ [.receiving]) [] := Owes.stop h.1 rfl (by simp)
    exact hreceiving.flushed_snoc .returned
  | @unbuilt stage works event rest failure hphase hreply =>
    rw [hphase] at h
    obtain ⟨howes, done, hbatch⟩ := h
    obtain hnil | ⟨_, _, _, _, _, rfl⟩ := (batch_rest hbatch).2 event rfl
    · have howes' : Owes task.trace [] := hnil ▸ howes
      exact (howes'.handled event).flushed_snoc .returned
    · cases hreply
  | unsent | unanswered => exact absurd rfl (hworks _)

/-- As long as its writes work, the loop writes the frames of every batch, in order, before it acts on
a close, waits for the next frame or returns. -/
theorem flushed_run {task : SessionTask} (hinv : task.Inv) (howes : task.owes) {inputs : List Input}
    (hworks : ∀ stage, .act stage false ∉ inputs) : Flushed (task.run inputs).trace := by
  have hrun : (task.run inputs).Inv ∧ (task.run inputs).owes := by
    refine run_invariant (P := fun task ↦ task.Inv ∧ task.owes)
      (fun task input hmem ⟨hinv, howes⟩ ↦ ⟨hinv.step input, owes_step hinv.coherent howes ?_⟩)
      ⟨hinv, howes⟩
    rintro stage rfl
    exact hworks stage hmem
  have hlater := hrun.2
  unfold owes at hlater
  split at hlater
  · exact hlater.flushed
  · exact hlater.1.flushed
  · exact hlater

end SessionTask

/-! ## The operations of the phone -/

namespace Exchange

variable {α : Type}

/-- No frame that an operation handles is one that its session replies to. -/
def Unreplied (operation : List (Except ClientError Frame × UInt64) → Exchange α)
    (replies : List (Except ClientError Frame × UInt64)) : Prop :=
  ∀ before frame nowMs after, replies = before ++ (.ok frame, nowMs) :: after →
    (operation before).result = none → ¬ (operation before).session.RepliesTo frame

theorem unreplied_nil (operation : List (Except ClientError Frame × UInt64) → Exchange α) :
    Unreplied operation [] := fun before frame nowMs after h ↦ by simp at h

theorem unreplied_snoc (operation : List (Except ClientError Frame × UInt64) → Exchange α)
    (replies : List (Except ClientError Frame × UInt64))
    (reply : Except ClientError Frame × UInt64) :
    Unreplied operation (replies ++ [reply]) ↔ Unreplied operation replies ∧
      ∀ frame, reply.1 = .ok frame → (operation replies).result = none →
        ¬ (operation replies).session.RepliesTo frame := by
  constructor
  · refine fun h ↦ ⟨fun before frame nowMs after hsplit ↦ ?_, fun frame hframe ↦ ?_⟩
    · exact h before frame nowMs (after ++ [reply]) (by rw [hsplit]; simp)
    · exact h replies frame reply.2 [] (by rw [← hframe])
  · rintro ⟨hearlier, hlast⟩ before frame nowMs after hsplit
    obtain rfl | ⟨after', last, rfl⟩ := List.eq_nil_or_concat after
    · obtain ⟨rfl, heq⟩ := List.append_inj' hsplit rfl
      exact hlast frame (by rw [(List.cons.inj heq).1])
    · rw [List.concat_eq_append, ← List.cons_append, ← List.append_assoc] at hsplit
      obtain ⟨rfl, -⟩ := List.append_inj' hsplit rfl
      exact hearlier before frame nowMs after' rfl

variable [AeadAvailable] [Ciborium.Lawful] [AeadCorrect]

/-- The loop of an operation: every batch is dropped but for its result. -/
structure Dropping (exchange : Exchange α) : Prop where
  coherent : exchange.session.Coherent
  begun : exchange.session.Begun
  stopped : Stopped exchange.trace

theorem Dropping.receive {exchange : Exchange α} (h : exchange.Dropping) (settles : Settles α)
    (reply : Except ClientError Frame) (nowMs : UInt64) :
    (exchange.receive settles reply nowMs).Dropping ∧
      (Flushed (exchange.receive settles reply nowMs).trace ↔ Flushed exchange.trace ∧
        ∀ frame, reply = .ok frame → exchange.result = none → ¬ exchange.session.RepliesTo frame) := by
  have hround := exchange.receive_cases settles reply nowMs
  generalize exchange.receive settles reply nowMs = later at hround
  cases hround with
  | settled hresult => exact ⟨h, by simp [hresult]⟩
  | failed =>
    obtain ⟨hstopped, hflushed⟩ : Stopped [.returned] ∧ Flushed [.returned] :=
      Stopped.of_not_batch (by simp)
    refine ⟨⟨h.coherent, h.begun, h.stopped.append hstopped⟩, ?_⟩
    rw [failed, h.stopped.flushed_append]
    simp [hflushed]
  | @handled frame _ stop hresult hstop =>
    have hreplied := Session.sentFrames_onFrame h.coherent h.begun frame nowMs none
    have hcarries : stop.carriesOn = false := by obtain rfl | rfl := hstop <;> rfl
    obtain ⟨hstopped, hflushed⟩ := Stopped.dropped (exchange.session.onFrame frame nowMs none).2
      hcarries (by obtain rfl | rfl := hstop <;> simp)
    refine ⟨⟨h.coherent.perform (.onFrame frame nowMs none),
      (Session.perform_begun h.coherent h.begun (.onFrame frame nowMs none)).1,
      h.stopped.append hstopped⟩, ?_⟩
    rw [h.stopped.flushed_append, hflushed]
    simp [hresult, ← hreplied]

/-- The loop of an operation transmits everything exactly if no frame it handles is replied to. -/
theorem Dropping.receiveAll {exchange : Exchange α} (h : exchange.Dropping)
    (hflushed : Flushed exchange.trace) (settles : Settles α)
    (replies : List (Except ClientError Frame × UInt64)) :
    Flushed (exchange.receiveAll settles replies).trace ↔
      Unreplied (exchange.receiveAll settles) replies := by
  have hrun : (exchange.receiveAll settles replies).Dropping ∧
      (Flushed (exchange.receiveAll settles replies).trace ↔
        Unreplied (exchange.receiveAll settles) replies) := by
    induction replies using List.reverseRecOn with
    | nil => exact ⟨h, iff_of_true hflushed (unreplied_nil _)⟩
    | append_singleton replies reply ih =>
      obtain ⟨hdropping, hiff⟩ := ih
      obtain ⟨hlater, hflushed⟩ := hdropping.receive settles reply.1 reply.2
      rw [receiveAll_snoc, hflushed, hiff, unreplied_snoc]
      exact ⟨hlater, Iff.rfl⟩
  exact hrun.2

/-- An operation once its request has been built. -/
theorem request_receiveAll {session : Session} (hcoherent : session.Coherent)
    (hbegun : session.Begun) (frame : Frame) (sent : Except String Unit) (settles : Settles α)
    (replies : List (Except ClientError Frame × UInt64)) :
    Flushed ((request session frame sent).receiveAll settles replies).trace ↔
      Unreplied ((request session frame sent).receiveAll settles) replies := by
  have htrace : ∀ actions, .batch actions ∉ (request (α := α) session frame sent).trace := by
    intro actions
    cases sent <;> simp [request, failed]
  obtain ⟨hstopped, hflushed⟩ := Stopped.of_not_batch htrace
  have hsession : (request (α := α) session frame sent).session = session := by cases sent <;> rfl
  have hdropping : (request (α := α) session frame sent).Dropping :=
    ⟨by rwa [hsession], by rwa [hsession], hstopped⟩
  exact hdropping.receiveAll hflushed settles replies

omit [AeadAvailable] [Ciborium.Lawful] [AeadCorrect] in
/-- An operation that ends before it sends its request handles no frame. -/
theorem failed_flushed (session : Session) (failure : ClientError)
    (replies : List (Except ClientError Frame × UInt64)) :
    Flushed (failed (α := α) session failure []).trace ↔
      Unreplied (fun _ ↦ failed (α := α) session failure []) replies := by
  apply iff_of_true (Stopped.of_not_batch (by simp [failed])).2
  intro before frame nowMs after _ h
  cases h

end Exchange

namespace Connection

variable [AeadAvailable] [Ciborium.Lawful] [AeadCorrect]

omit [AeadAvailable] [Ciborium.Lawful] [AeadCorrect] in
/-- Building a request keeps a session that has begun. -/
theorem sealMap_begun {session : Session} (hcoherent : session.Coherent) (hbegun : session.Begun)
    (ty : FrameType) (builder : MapBuilder) (hencrypted : ty.isEncrypted) :
    (session.sealMap ty builder).2.Coherent ∧ (session.sealMap ty builder).2.Begun := by
  obtain ⟨hcoherent, hstate⟩ := sealMap_answers hcoherent ty builder hencrypted
  exact ⟨hcoherent, hbegun.imp hstate.trans hstate.trans⟩

omit [AeadAvailable] [Ciborium.Lawful] [AeadCorrect] in
theorem pushClip_begun {session : Session} (hcoherent : session.Coherent) (hbegun : session.Begun)
    (contentType : ContentType) (body : Bytes) (sourceName : String) (nowMs : UInt64)
    (randomId : Option (Octets 8)) :
    (session.pushClip contentType body sourceName nowMs randomId).2.Coherent ∧
      (session.pushClip contentType body sourceName nowMs randomId).2.Begun := by
  unfold Session.pushClip
  split
  · exact ⟨hcoherent, hbegun⟩
  split
  · exact ⟨hcoherent, hbegun⟩
  next clipId =>
  have hlater := sealMap_begun hcoherent hbegun .clipPush
    (Session.clipPushMap clipId contentType body sourceName nowMs) rfl
  unfold Session.pushClipWithId
  generalize session.sealMap .clipPush _ = result at hlater
  obtain ⟨failure | frame, later⟩ := result <;> exact hlater

theorem beam_flushed {session : Session} (hcoherent : session.Coherent) (hbegun : session.Begun)
    (contentType : ContentType) (body : Bytes) (sourceName : String) (nowMs : UInt64)
    (randomId : Option (Octets 8)) (sent : Except String Unit)
    (replies : List (Except ClientError Frame × UInt64)) :
    Flushed (beam session contentType body sourceName nowMs randomId sent replies).trace ↔
      Exchange.Unreplied (beam session contentType body sourceName nowMs randomId sent) replies := by
  have hlater := pushClip_begun hcoherent hbegun contentType body sourceName nowMs randomId
  unfold beam beamRequest
  split_ifs with hlarge
  · exact Exchange.failed_flushed ..
  generalize session.pushClip contentType body sourceName nowMs randomId = result at hlater
  obtain ⟨failure | ⟨frame, clipId⟩, later⟩ := result
  · exact Exchange.failed_flushed ..
  · exact Exchange.request_receiveAll hlater.1 hlater.2 frame sent _ replies

theorem stageList_flushed {session : Session} (hcoherent : session.Coherent) (hbegun : session.Begun)
    (sent : Except String Unit) (replies : List (Except ClientError Frame × UInt64)) :
    Flushed (stageList session sent replies).trace ↔
      Exchange.Unreplied (stageList session sent) replies := by
  have hlater := sealMap_begun hcoherent hbegun .stageListReq MapBuilder.new rfl
  change (session.requestStageList).2.Coherent ∧ (session.requestStageList).2.Begun at hlater
  unfold stageList
  generalize session.requestStageList = result at hlater
  obtain ⟨failure | frame, later⟩ := result
  · exact Exchange.failed_flushed ..
  · exact Exchange.request_receiveAll hlater.1 hlater.2 frame sent _ replies

theorem stageItem_flushed {session : Session} (hcoherent : session.Coherent) (hbegun : session.Begun)
    (stageId : Octets 8) (sent : Except String Unit)
    (replies : List (Except ClientError Frame × UInt64)) :
    Flushed (stageItem session stageId sent replies).trace ↔
      Exchange.Unreplied (stageItem session stageId sent) replies := by
  have hlater := sealMap_begun hcoherent hbegun .stageGet
    (MapBuilder.new.bytes SessionKey.stageId stageId.toList) rfl
  change (session.requestStageItem stageId).2.Coherent ∧ (session.requestStageItem stageId).2.Begun
    at hlater
  unfold stageItem
  generalize session.requestStageItem stageId = result at hlater
  obtain ⟨failure | frame, later⟩ := result
  · exact Exchange.failed_flushed ..
  · exact Exchange.request_receiveAll hlater.1 hlater.2 frame sent _ replies

end Connection

/-! ## Both drivers -/

/-- The loop of the agent transmits everything as long as its writes work.  An operation of the phone
does so exactly if no frame it handles is one that its session replies to: a PING, or a CLIP_PUSH that
is accepted or refused with an ERROR. -/
theorem sends_transmitted_iff [AeadAvailable] [Ciborium.Lawful] [AeadCorrect] :
    (∀ identity peerKeys nowMs paused first inputs,
      (∀ stage, .act stage false ∉ inputs) →
        Flushed ((SessionTask.start identity peerKeys nowMs paused first).run inputs).trace) ∧
    ∀ opening calls, Session.Opened opening → (opening.after calls).Begun → ∀ sent replies,
      (∀ contentType body sourceName nowMs randomId,
        Flushed (Connection.beam (opening.after calls) contentType body sourceName nowMs randomId sent
            replies).trace ↔
          Exchange.Unreplied (Connection.beam (opening.after calls) contentType body sourceName nowMs
            randomId sent) replies) ∧
      (Flushed (Connection.stageList (opening.after calls) sent replies).trace ↔
          Exchange.Unreplied (Connection.stageList (opening.after calls) sent) replies) ∧
      ∀ stageId, Flushed (Connection.stageItem (opening.after calls) stageId sent replies).trace ↔
          Exchange.Unreplied (Connection.stageItem (opening.after calls) stageId sent) replies := by
  constructor
  · intro identity peerKeys nowMs paused first inputs hworks
    exact SessionTask.flushed_run (SessionTask.inv_start ..) Owes.start hworks
  · intro opening calls hopened hbegun sent replies
    have hcoherent := Session.after_coherent hopened.fresh.1 calls
    exact ⟨fun contentType body sourceName nowMs randomId ↦
        Connection.beam_flushed hcoherent hbegun contentType body sourceName nowMs randomId sent replies,
      Connection.stageList_flushed hcoherent hbegun sent replies,
      fun stageId ↦ Connection.stageItem_flushed hcoherent hbegun stageId sent replies⟩

end Flushing

namespace Reference

/-- The computer sends a PING. -/
def pcPing : Frame := frameOf pcSession.ping

/-- The computer answers a request for its staged clips. -/
def emptyList : Frame := frameOf (pcSession.sendStageList [])

/-- The computer sends a PING before that answer. -/
def listAfterPing : Frame := frameOf (pcSession.ping.2.sendStageList [])

/-- The answer of the phone to the PING. -/
def phonePong : Frame := frameOf (phoneSession.requestStageList.2.sealFrame .pong [])

end Reference

open Reference in
/-- The phone fetches an empty list, and the computer serves a session until the phone hangs up. -/
theorem sends_transmitted_iff_list :
    Flushed (sessionStart.run (sessionInputs ++ [.next .ended])).trace ∧
      Flushed (Connection.stageList phoneSession (.ok ()) [(.ok emptyList, 0)]).trace := by
  obtain ⟨hpc, hphone⟩ := sends_transmitted_iff
  constructor
  · exact hpc pcIdentity [phonePeer] 0 false helloFrame _ (by simp [sessionInputs])
  have hstart : Session.startPhone phoneIdentity pcPeer 0 (some (pad 32 [7])) =
      .ok (Session.phoneOpened phoneIdentity pcPeer 0 (.fromSeed (pad 32 [7])), helloFrame) :=
    Session.startPhone_eq phoneIdentity pcPeer 0 (.fromSeed (pad 32 [7]))
  have hafter : (Session.phoneOpened phoneIdentity pcPeer 0 (.fromSeed (pad 32 [7]))).after
      [.onFrame helloAckFrame 0 none] = phoneSession := by decide +kernel
  have hopened := hphone _ [.onFrame helloAckFrame 0 none] (.phone hstart)
  rw [hafter] at hopened
  have hlist := (hopened (.inl (by decide +kernel)) (.ok ()) [(.ok emptyList, 0)]).2.1
  refine hlist.mpr fun before frame nowMs after hsplit _ ⟨_, plain, _, hreplied⟩ ↦ ?_
  rcases before with - | ⟨first, before⟩
  · obtain ⟨hreply, -⟩ := List.cons.inj hsplit
    have hframe : emptyList = frame := Except.ok.inj (Prod.mk.inj hreply).1
    have hty : emptyList.ty = .stageList := by decide +kernel
    rw [← hframe, hty] at hreplied
    simp at hreplied
  · simp at hsplit

open Reference in
/-- The computer sends a PING while the phone fetches the list.  The fetch succeeds, and the PONG of
the session is never written. -/
theorem pong_never_written :
    let operation := Connection.stageList phoneSession (.ok ()) [(.ok pcPing, 0), (.ok listAfterPing, 0)]
    operation.result = some (.ok []) ∧ .batch [.send phonePong] ∈ operation.trace ∧
      .wrote phonePong ∉ operation.trace ∧ ¬ Flushed operation.trace := by
  intro operation
  have htrace : operation.trace = [.wrote (frameOf phoneSession.requestStageList), .receiving,
      .batch [.send phonePong], .receiving, .batch [.emit (.stageList [])], .returned] := by
    decide +kernel
  refine ⟨by decide +kernel, by simp [htrace], by decide +kernel, fun hflushed ↦ ?_⟩
  have hwritten := hflushed [.wrote (frameOf phoneSession.requestStageList), .receiving] _ _ htrace
    ⟨.receiving, by simp, rfl⟩
  exact absurd (List.sublist_nil.mp hwritten) (by simp [sentFrames])

end AirClip
