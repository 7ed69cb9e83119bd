import AirClip.Agent.SessionServer
import AirClip.Core.StageHistory
import AirClip.Traffic.Delivery

/-!
# Staged pull

The phone lists the staged clips and fetches one by its id, while copies are staged, evicted and
cleared in between.  The list is the content of the ring, newest first; and a listed clip is fetched as
it was staged, unless it has been cleared or enough newer ones have been staged.
-/

open Foundation Cbor

namespace AirClip

/-! ## What is listed -/

/-- The row of a staged clip. -/
def StagedClip.row (clip : StagedClip) : StageMeta :=
  ⟨clip.stageId, clip.contentType, previewOf clip.body, UInt32.ofNat clip.body.length,
    clip.copiedAtMs⟩

/-- A preview has at most 120 characters, of four bytes each at most. -/
theorem previewOf_length_le (body : Bytes) : (utf8 (previewOf body)).length ≤ 480 := by
  calc
    _ ≤ 4 * (((fromUtf8Lossy body).toList.take previewChars).map _).length :=
      length_utf8_ofList_le _
    _ = 4 * ((fromUtf8Lossy body).toList.take previewChars).length := by rw [List.length_map]
    _ ≤ 4 * previewChars := Nat.mul_le_mul_left 4 (List.length_take_le _ _)
    _ = 480 := rfl

/-- A row states the size of its clip. -/
theorem StagedClip.row_size {clip : StagedClip} (h : clip.body.length ≤ maxTextClip) :
    clip.row.size.toNat = clip.body.length := by
  have hmax : maxTextClip = 262144 := rfl
  have hsize : UInt32.size = 4294967296 := rfl
  exact UInt32.toNat_ofNat_of_lt' (by omega)

/-- What the agent answers a request for its staged clips with. -/
def StageRing.answer (stage : StageRing) : SessionEvent → Option Message
  | .stageListRequested => some (.stageList stage.list)
  | .stageItemRequested stageId =>
    some (match stage.get stageId with
      | some clip => .stageItem clip
      | none => .stageList [])
  | _ => none

/-! ## Messages within the limits of the ring -/

/-- A message of the staged pull within the limits of the ring. -/
def Message.Pulled : Message → Prop
  | .stageListReq | .stageGet _ => True
  | .stageList items => items.length ≤ stageDepth ∧
      ∀ entry ∈ items, (utf8 entry.preview).length ≤ 480
  | .stageItem clip => clip.body.length ≤ maxTextClip
  | _ => False

theorem Message.Pulled.admissible {message : Message} (h : message.Pulled) : message.Admissible := by
  have hmax : maxTextClip = 262144 := rfl
  have hdepth : stageDepth = 5 := rfl
  cases message with
  | stageList items =>
    obtain ⟨hlength, hpreviews⟩ := h
    refine ⟨by omega, fun entry hmem ↦ ?_⟩
    have hpreview := hpreviews entry hmem
    omega
  | stageItem clip =>
    change clip.body.length ≤ maxTextClip at h
    change clip.body.length < 2 ^ 64
    omega
  | stageListReq | stageGet => trivial
  | clipPush | ping | error => exact h.elim

theorem Message.Pulled.not_replied {message : Message} (h : message.Pulled) :
    ¬ message.IsReplied := by
  cases message with
  | stageListReq | stageGet | stageList | stageItem => exact id
  | clipPush | ping | error => exact h.elim

/-- What the agent answers with keeps within the limits of the ring. -/
theorem StageRing.answer_pulled {calls : List StageCall} {event : SessionEvent} {message : Message}
    (h : (StageRing.default.performAll calls).answer event = some message) : message.Pulled := by
  have hholds := StageRing.holds_performAll calls
  cases event with
  | stageListRequested =>
    cases h
    refine ⟨?_, fun entry hmem ↦ ?_⟩
    · rw [StageRing.list, List.length_map, List.length_reverse, hholds.items, length_rtake]
      exact min_le_left _ _
    · obtain ⟨clip, -, rfl⟩ := List.mem_map.mp hmem
      exact previewOf_length_le clip.body
  | stageItemRequested stageId =>
    rcases hget : (StageRing.default.performAll calls).get stageId with - | clip <;>
      rw [StageRing.answer, hget] at h <;> cases h
    · exact ⟨by simp, by simp⟩
    · obtain ⟨offered, -, haccepted⟩ := mem_stagedBy.mp
        (StageRing.performAll_items_subset calls (List.mem_of_find?_eq_some hget))
      exact (offered.body_of_accepted haccepted).2
  | established | clipArrived | clipAcked | stageList | stageItem | peerError => cases h

section Pulls

variable [Primitives] [Ciborium]

/-- The answer is sealed by the session of the request. -/
theorem handleEvent_answer {event : SessionEvent} {stage : StageRing} {message : Message}
    (h : stage.answer event = some message) (session : Session) (connectedId : Option String) :
    handleEvent event session stage connectedId =
      ⟨(session.transmit message).1.map some, (session.transmit message).2, connectedId, []⟩ := by
  cases event with
  | stageListRequested =>
    cases h
    rfl
  | stageItemRequested stageId =>
    cases h
    unfold handleEvent
    dsimp only
    cases stage.get stageId <;> rfl
  | established | clipArrived | clipAcked | stageList | stageItem | peerError => cases h

/-- What comes of a request of the phone. -/
structure Fetched where
  phone : Session
  pc : Session
  actions : List SessionAction

/-- A request of the phone, the answer of the agent, and what the phone makes of it. -/
def fetch (phone pc : Session) (stage : StageRing) (request : Message) (nowMs : UInt64) :
    Option Fetched :=
  match phone.transmit request with
  | (.error _, _) => none
  | (.ok frame, phone) =>
    match pc.onFrame frame nowMs none with
    | (pc, [.emit event]) =>
      let handled := handleEvent event pc stage none
      match handled.reply with
      | .ok (some reply) =>
        let result := phone.onFrame reply nowMs none
        some ⟨result.1, handled.session, result.2⟩
      | _ => none
    | _ => none

namespace Session

variable [Ciborium.Lawful]

omit [Primitives] in
/-- The cipher takes every message of the staged pull. -/
theorem pulled_payload {message : Message} (h : message.Pulled) :
    ∃ plain, message.payload = .ok plain ∧ plain.length / 64 < 2 ^ 32 - 1 := by
  have hmax : maxTextClip = 262144 := rfl
  have hdepth : stageDepth = 5 := rfl
  cases message with
  | stageListReq =>
    obtain ⟨payload, hvec, -, hpayload⟩ := MapBuilder.toVec_reads .new ⟨[], List.nodup_nil⟩ rfl
      (by simp [integerMap, Plain])
    refine ⟨payload, hvec, ?_⟩
    rw [hpayload]
    simp [integerMap, encode, encodeEntries, head]
  | stageGet stageId =>
    obtain ⟨payload, -, hvec, -, -, hlength⟩ := stageGetMap_reads stageId
    exact ⟨payload, hvec, by omega⟩
  | stageList items =>
    obtain ⟨payload, -, hvec, -, -, hlength⟩ := stageListMap_reads h.admissible.1 h.admissible.2
    have hlength := hlength 480 h.2
    have hitems := Nat.mul_le_mul_right (128 + 480) h.1
    exact ⟨payload, hvec, by omega⟩
  | stageItem clip =>
    obtain ⟨payload, -, hvec, -, -, hlength⟩ := stageItemMap_reads h.admissible
    change clip.body.length ≤ maxTextClip at h
    exact ⟨payload, hvec, by omega⟩
  | clipPush | ping | error => exact h.elim

variable [AeadCorrect] [AeadAvailable]

omit [Ciborium.Lawful] [AeadCorrect] [AeadAvailable] in
/-- A frame that is not replied to leaves the sending counter alone. -/
theorem unexhausted_onFrame {session : Session} {channel : AeadChannel}
    (hcoherent : session.Coherent) (hchannel : session.channel = some channel)
    (hunexhausted : session.Unexhausted) {frame : Frame} {nowMs : UInt64} {seed : Option Key32}
    (hsilent : sentFrames (session.onFrame frame nowMs seed).2 = []) :
    (session.onFrame frame nowMs seed).1.Unexhausted := by
  obtain ⟨opened, items, later, hopening, hsealing, hlater, hitems, -⟩ :=
    perform_channel hcoherent hchannel (.onFrame frame nowMs seed)
  have hnone : items.map Prod.fst = [] := by
    rw [hitems, show (session.perform (.onFrame frame nowMs seed)).2 = [] from hsilent]
    rfl
  cases List.map_eq_nil_iff.mp hnone
  cases hsealing
  intro other hother
  cases hlater.symm.trans hother
  rw [hopening.tx_eq]
  exact hunexhausted channel hchannel

/-- A message of the staged pull is sealed, and delivered as the next frame it comes out as its
event. -/
theorem Mirrored.pulled {sender receiver : Session} (h : sender.Mirrored receiver)
    (hsender : sender.Unexhausted) {message : Message} (hmessage : message.Pulled) :
    ∃ frame sender', sender.transmit message = (.ok frame, sender') ∧
      ∀ nowMs seed, ∃ receiver' : Session,
        receiver.onFrame frame nowMs seed = (receiver', message.events.map .emit) ∧
          sender'.Mirrored receiver' ∧ (receiver.Unexhausted → receiver'.Unexhausted) := by
  obtain ⟨plain, hpayload, hplain⟩ := pulled_payload hmessage
  obtain ⟨channel, channel', hchannel, hchannel', -⟩ := h.channels
  obtain ⟨frame, sender', htransmit⟩ :=
    transmit_available hchannel (hsender channel hchannel) hpayload hplain
  refine ⟨frame, sender', htransmit, fun nowMs seed ↦ ?_⟩
  have hdelivered : sender'.Mirrored (receiver.onFrame frame nowMs seed).1 ∧
      (receiver.onFrame frame nowMs seed).2 = message.events.map .emit := by
    cases message with
    | clipPush | ping | error => exact hmessage.elim
    | stageListReq | stageGet | stageList | stageItem =>
      exact h.deliver (fun hreplied ↦ absurd hreplied hmessage.not_replied) hmessage.admissible
        (by simp [Message.ty]) htransmit nowMs seed
  refine ⟨_, Prod.ext rfl hdelivered.2, hdelivered.1, fun hreceiver ↦ unexhausted_onFrame
    (coherent_of_established h.right_state hchannel') hchannel' hreceiver ?_⟩
  rw [hdelivered.2]
  simp [sentFrames]

/-- A request is answered by the message for its event, and the two sessions go on mirroring each
other. -/
theorem Mirrored.fetch {phone pc : Session} (h : phone.Mirrored pc) (hphone : phone.Unexhausted)
    (hpc : pc.Unexhausted) {stage : StageRing} {request answer : Message} {event : SessionEvent}
    (hrequest : request.Pulled) (hevent : request.events = [event])
    (hanswer : stage.answer event = some answer) (hpulled : answer.Pulled) (nowMs : UInt64) :
    ∃ fetched, AirClip.fetch phone pc stage request nowMs = some fetched ∧
      fetched.actions = answer.events.map .emit ∧ fetched.phone.Mirrored fetched.pc := by
  obtain ⟨frame, phone', htransmit, hreceive⟩ := h.pulled hphone hrequest
  obtain ⟨pc', hreceived, hmirrored, hunexhausted⟩ := hreceive nowMs none
  rw [hevent, List.map_singleton] at hreceived
  obtain ⟨reply, pc'', hreply, hreceive'⟩ := hmirrored.symm.pulled (hunexhausted hpc) hpulled
  obtain ⟨phone'', hreceived', hmirrored', -⟩ := hreceive' nowMs none
  have hhandled := handleEvent_answer hanswer pc' none
  rw [hreply] at hhandled
  refine ⟨⟨phone'', pc'', answer.events.map .emit⟩, ?_, rfl, hmirrored'.symm⟩
  simp only [AirClip.fetch, htransmit, hreceived, hhandled, Except.map, hreceived']

end Session

/-! ## The staged pull -/

variable [Ciborium.Lawful] [AeadCorrect] [AeadAvailable]

/-- Whatever copies are staged and however the ring is cleared in between, with distinct ids: the list
is the content of the ring, newest first.  A listed clip is fetched later with the type, the size and
the preview that were listed and the body that was staged, or it is answered by an empty list because
the ring has been cleared since it was staged or as many newer clips as the ring is deep have been
staged. -/
theorem staged_pull_consistent (calls later : List StageCall)
    (hids : ((stagedBy (calls ++ later)).map StagedClip.stageId).Nodup)
    {phone pc phone' pc' : Session} (h : phone.Mirrored pc) (hphone : phone.Unexhausted)
    (hpc : pc.Unexhausted) (h' : phone'.Mirrored pc') (hphone' : phone'.Unexhausted)
    (hpc' : pc'.Unexhausted) (nowMs nowMs' : UInt64) :
    (StageRing.default.performAll calls).items = (stagedSince calls).rtake stageDepth ∧
    (∃ fetched, fetch phone pc (StageRing.default.performAll calls) .stageListReq nowMs =
        some fetched ∧ fetched.actions = [.emit (.stageList
          ((StageRing.default.performAll calls).items.reverse.map StagedClip.row))]) ∧
    ∀ entry ∈ (StageRing.default.performAll calls).items.reverse.map StagedClip.row,
      ∃ before offered clip after, calls = before ++ .copy offered :: after ∧
        offered.accepted = some clip ∧ clip.stageId = entry.stageId ∧ clip.body = offered.body ∧
        ∃ fetched, fetch phone' pc' (StageRing.default.performAll (calls ++ later))
            (.stageGet entry.stageId) nowMs' = some fetched ∧
          (fetched.actions = [.emit (.stageItem entry.stageId entry.contentType clip.body)] ∧
              clip.body.length = entry.size.toNat ∧ previewOf clip.body = entry.preview ∨
            fetched.actions = [.emit (.stageList [])] ∧ (.clear ∈ after ++ later ∨
              stageDepth ≤ (stagedBy (after ++ later)).length)) := by
  have hholds := StageRing.holds_performAll calls
  have hbody {clip : StagedClip} (hmem : clip ∈ stagedBy (calls ++ later)) :
      clip.body.length ≤ maxTextClip := by
    obtain ⟨offered, -, haccepted⟩ := mem_stagedBy.mp hmem
    exact (offered.body_of_accepted haccepted).2
  have hstaged : stagedBy calls ⊆ stagedBy (calls ++ later) := by
    rw [stagedBy_append]
    exact List.subset_append_left _ _
  refine ⟨hholds.items, ?_, fun entry hentry ↦ ?_⟩
  · have hanswer : (StageRing.default.performAll calls).answer .stageListRequested =
        some (.stageList (StageRing.default.performAll calls).list) := rfl
    obtain ⟨fetched, hfetch, hactions, -⟩ :=
      h.fetch hphone hpc (show Message.stageListReq.Pulled from trivial) rfl hanswer
        (StageRing.answer_pulled hanswer) nowMs
    exact ⟨fetched, hfetch, hactions⟩
  · obtain ⟨clip, hmem, rfl⟩ := List.mem_map.mp hentry
    have hclip : clip ∈ stagedBy calls :=
      StageRing.performAll_items_subset calls (List.mem_reverse.mp hmem)
    obtain ⟨offered, hoffered, haccepted⟩ := mem_stagedBy.mp hclip
    obtain ⟨before, after, hcalls⟩ := List.append_of_mem hoffered
    refine ⟨before, offered, clip, after, hcalls, haccepted, rfl,
      (offered.body_of_accepted haccepted).1, ?_⟩
    obtain hget | ⟨hget, hgone⟩ := StageRing.get_cases
      (StageRing.performAll_items_subset (calls ++ later)) hids (hstaged hclip)
    · have hanswer : (StageRing.default.performAll (calls ++ later)).answer
          (.stageItemRequested clip.stageId) = some (.stageItem clip) := by
        rw [StageRing.answer, hget]
      obtain ⟨fetched, hfetch, hactions, -⟩ := h'.fetch hphone' hpc'
        (show (Message.stageGet clip.stageId).Pulled from trivial) rfl hanswer
        (StageRing.answer_pulled hanswer) nowMs'
      exact ⟨fetched, hfetch, .inl ⟨hactions, (StagedClip.row_size (hbody (hstaged hclip))).symm, rfl⟩⟩
    · have hanswer : (StageRing.default.performAll (calls ++ later)).answer
          (.stageItemRequested clip.stageId) = some (.stageList []) := by
        rw [StageRing.answer, hget]
      obtain ⟨fetched, hfetch, hactions, -⟩ := h'.fetch hphone' hpc'
        (show (Message.stageGet clip.stageId).Pulled from trivial) rfl hanswer
        (StageRing.answer_pulled hanswer) nowMs'
      have hsplit : calls ++ later = before ++ .copy offered :: (after ++ later) := by
        rw [hcalls]
        simp
      rw [hsplit] at hgone
      exact ⟨fetched, hfetch, .inr ⟨hactions, StageRing.cleared_or_evicted haccepted hgone⟩⟩

end Pulls

namespace Reference

/-- A copy of one character, staged under an id. -/
def copyOf (id byte : UInt8) : StageCall := .copy ⟨.text, [byte], 7, some (pad 8 [id])⟩

end Reference

open Reference in
/-- A clip that has been listed is fetched after another copy. -/
theorem staged_pull_consistent_two_copies :
    ∃ fetched, fetch phoneSession pcSession
        (StageRing.default.performAll [copyOf 1 104, copyOf 2 105]) (.stageGet (pad 8 [1])) 0 =
          some fetched ∧
      fetched.actions = [.emit (.stageItem (pad 8 [1]) .text [104])] := by
  have hphone : phoneSession.Unexhausted := unexhausted (by decide +kernel)
  have hpc : pcSession.Unexhausted := unexhausted (by decide +kernel)
  obtain ⟨-, -, hpull⟩ := staged_pull_consistent [copyOf 1 104] [copyOf 2 105] (by decide) mirrored
    hphone hpc mirrored hphone hpc 0 0
  obtain ⟨before, offered, clip, after, hcalls, haccepted, -, hbody, fetched, hfetch, hfetched⟩ :=
    hpull (StagedClip.row ⟨pad 8 [1], .text, [104], 7⟩) (by decide)
  obtain ⟨rfl, hsingle⟩ | ⟨-, hnil⟩ := List.singleton_eq_append_iff.mp hcalls
  · obtain ⟨hoffered, rfl⟩ := List.cons.inj hsingle
    cases hoffered
    refine ⟨fetched, hfetch, ?_⟩
    obtain ⟨hactions, -⟩ | ⟨-, hgone⟩ := hfetched
    · rwa [hbody] at hactions
    · exact absurd hgone (by decide)
  · simp at hnil

end AirClip
