import AirClip.Foundation.Runs
import AirClip.Traffic.BeamDelivery
import AirClip.Traffic.ReusedConnection

/-!
# Replies matched to requests

An acknowledgement and an item say which clip they are about, so a call takes no other for its own,
however late it comes.  A list does not: a call that takes in a list answering an earlier request returns
it.  Every list is otherwise the content of the ring at the request of the call.
-/

open Foundation Cbor

namespace AirClip

section Replies

variable [Primitives] [Ciborium]

namespace Session

variable {txKey rxKey : Key32} {session : Session}

/-- An event comes of a frame only while the session is established. -/
theorem Keyed.established_of_emit (h : session.Keyed txKey rxKey) {frame : Frame} {nowMs : UInt64}
    {seed : Option Key32} {event : SessionEvent}
    (hemit : .emit event ∈ (session.onFrame frame nowMs seed).2) : session.state = .established := by
  refine h.begun.resolve_right fun hclosed ↦ ?_
  unfold onFrame at hemit
  simp [hclosed] at hemit

/-- Answering an event keeps the keys. -/
theorem Keyed.handleEvent (h : session.Keyed txKey rxKey) (event : SessionEvent) (stage : StageRing)
    (connectedId : Option String) :
    (AirClip.handleEvent event session stage connectedId).session.Keyed txKey rxKey := by
  rcases hanswer : stage.answer event with - | message
  · cases event <;> first | exact h | cases hanswer
  · rw [handleEvent_answer hanswer]
    refine h.transmitted fun code msg herror ↦ ?_
    subst herror
    cases event with
    | stageItemRequested stageId =>
      rcases hget : stage.get stageId with - | clip <;> rw [StageRing.answer, hget] at hanswer <;>
        cases hanswer
    | _ => cases hanswer

/-- A reply to an event carries the answer of the ring. -/
theorem Keyed.reply [AeadCorrect] (h : session.Keyed txKey rxKey) {event : SessionEvent}
    {stage : StageRing} {connectedId : Option String} {frame : Frame}
    (hreply : (AirClip.handleEvent event session stage connectedId).reply = .ok (some frame)) :
    ∃ message, stage.answer event = some message ∧ frame.Carries txKey message := by
  rcases hanswer : stage.answer event with - | message
  · cases event <;> first | cases hreply | cases hanswer
  · rw [handleEvent_answer hanswer] at hreply
    rcases htransmit : session.transmit message with ⟨failure | sealed, later⟩ <;>
      rw [htransmit] at hreply <;> cases hreply
    exact ⟨message, rfl, h.transmit htransmit⟩

end Session

namespace ReusedConnection

/-! ## What is matched -/

/-- While the session is established, a call for the list or for an item takes a list in only if it
answers its own request. -/
def TakesOwnLists (world : ReusedConnection) : ReuseInput → Prop
  | .receive _ => ∀ number call asked frame frames, world.phone.state = .established →
    world.waiting = some (number, call) → call.IsStage → world.toPhone = (asked, frame) :: frames →
      frame.ty = .stageList → asked = some number
  | _ => True

/-! ## Matching -/

/-- A clip is acknowledged to a beam only if a clip with its id, pushed by a beam, has arrived; and an
item is what was staged under the id at a request for it. -/
structure MatchedBody (world : ReusedConnection) (number : ℕ) (result : CallResult) : Prop where
  beam : ∀ clipId, result = .beam (.ok clipId) → ∃ contentType body sourceName hname nowMs,
    world.called[number]? = some (.beam contentType body sourceName hname nowMs (some clipId)) ∧
      ∃ entry ∈ world.handled, ∃ other clip, entry.call = some other ∧
        entry.event = BeamedClip.event clip ∧ clip.clipId = clipId ∧
        ∃ hname, world.called[other]? = some
          (.beam clip.contentType clip.body clip.sourceName hname clip.createdAtMs (some clipId))
  item : ∀ contentType body, result = .stageItem (.ok (contentType, body)) → ∃ stageId,
    world.called[number]? = some (.stageItem stageId) ∧ ∃ entry ∈ world.handled, ∃ clip,
      entry.event = .stageItemRequested stageId ∧ entry.ring.get stageId = some clip ∧
        clip.contentType = contentType ∧ clip.body = body

/-- A list is the content of the ring when the request of the call was handled, and an item is said to be
gone only if it was not in the ring then. -/
structure MatchedList (world : ReusedConnection) (number : ℕ) (result : CallResult) : Prop where
  list : ∀ items, result = .stageList (.ok items) → ∃ entry ∈ world.handled,
    entry.call = some number ∧ entry.event = .stageListRequested ∧ items = entry.ring.list
  gone : result = .stageItem (.error (.rejected noLongerStaged)) → ∃ stageId,
    world.called[number]? = some (.stageItem stageId) ∧ ∃ entry ∈ world.handled,
      entry.call = some number ∧ entry.event = .stageItemRequested stageId ∧
        entry.ring.get stageId = none

/-! ## What is under way -/

/-- The frame carries the request of a call. -/
def Requested (called : List ConnectionCall) (key : Key32) (number : ℕ) (frame : Frame) : Prop :=
  ∃ call message, called[number]? = some call ∧ call.message = some message ∧ message.Admissible ∧
    frame.Carries key message

/-- The event is that of the request of a call, or the session has been established. -/
def Asked (called : List ConnectionCall) (number : Option ℕ) (event : SessionEvent) : Prop :=
  (∃ peer, event = .established peer) ∨ ∃ asking call message, number = some asking ∧
    called[asking]? = some call ∧ call.message = some message ∧ event ∈ message.events

/-- The frame has a type that settles no call with success. -/
def Neutral (frame : Frame) : Prop :=
  frame.ty = .helloAck ∨ frame.ty = .error ∨ frame.ty = .pong

/-- The frame acknowledges a clip whose arrival has been handled. -/
def Acks (handled : List HandledEvent) (key : Key32) (frame : Frame) : Prop :=
  frame.ty = .clipAck ∧ ∃ entry ∈ handled, ∃ clip : BeamedClip, entry.event = clip.event ∧
    readAck key frame = some (clip.clipId, 0)

/-- The frame answers an event, for the call whose request the event comes of. -/
inductive Replied (handled : List HandledEvent) (key : Key32) (asked : Option ℕ) (frame : Frame) : Prop
  | neutral (hneutral : Neutral frame)
  | acked (hacks : Acks handled key frame)
  | answered {entry : HandledEvent} {message : Message} (hmem : entry ∈ handled)
      (hcall : entry.call = asked) (hanswer : entry.ring.answer entry.event = some message)
      (hadmissible : message.Admissible) (hcarries : frame.Carries key message)

/-- What the loop has still to write: nothing that settles a call, or the acknowledgement of a clip whose
arrival it has handled or handles before. -/
def Sends (handled : List HandledEvent) (key : Key32) (pending : List SessionAction) : Prop :=
  (∀ frame, .send frame ∈ pending → Neutral frame ∨ Acks handled key frame) ∨
    ∃ clip frame, pending = [.emit (BeamedClip.event clip), .send frame] ∧ frame.ty = .clipAck ∧
      readAck key frame = some (clip.clipId, 0)

/-- Requests carry what their calls ask for; the loop handles and answers nothing else; and no result is
mistaken for that of another clip. -/
structure Inv (p2c c2p : Key32) (world : ReusedConnection) : Prop where
  phone : world.phone.Keyed p2c c2p
  task : world.task.session.Keyed c2p p2c
  waiting : ∀ number call, world.waiting = some (number, call) → world.called[number]? = some call
  requests : ∀ number frame, (number, frame) ∈ world.toPc →
    Requested world.called p2c number frame
  received : ∀ frame, world.task.phase = .received frame → ∃ number, world.serving = some number ∧
    Requested world.called p2c number frame
  emits : ∀ event, .emit event ∈ world.task.pending → Asked world.called world.serving event
  sends : Sends world.handled c2p world.task.pending
  handled : ∀ entry ∈ world.handled, Asked world.called entry.call entry.event
  replies : ∀ asked frame, (asked, frame) ∈ world.toPhone → Replied world.handled c2p asked frame
  returned : ∀ number result, (number, result) ∈ world.returned → world.MatchedBody number result

/-! ## More calls, and more that is handled -/

section Growth

variable {called : List ConnectionCall} {handled handled' : List HandledEvent} {key : Key32}
  {world later : ReusedConnection}

theorem Requested.append {number : ℕ} {frame : Frame} (h : Requested called key number frame)
    (call : ConnectionCall) : Requested (called ++ [call]) key number frame := by
  obtain ⟨asking, message, hcalled, hrequest⟩ := h
  exact ⟨asking, message, called_append hcalled call, hrequest⟩

omit [Primitives] [Ciborium] in
theorem Asked.append {number : Option ℕ} {event : SessionEvent} (h : Asked called number event)
    (call : ConnectionCall) : Asked (called ++ [call]) number event := by
  refine h.imp_right ?_
  rintro ⟨asking, caller, message, hnumber, hcalled, hrequest⟩
  exact ⟨asking, caller, message, hnumber, called_append hcalled call, hrequest⟩

theorem Acks.mono {frame : Frame} (h : Acks handled key frame) (hsubset : handled ⊆ handled') :
    Acks handled' key frame := by
  obtain ⟨hty, entry, hmem, hacks⟩ := h
  exact ⟨hty, entry, hsubset hmem, hacks⟩

theorem Replied.mono {asked : Option ℕ} {frame : Frame} (h : Replied handled key asked frame)
    (hsubset : handled ⊆ handled') : Replied handled' key asked frame := by
  cases h with
  | neutral hneutral => exact .neutral hneutral
  | acked hacks => exact .acked (hacks.mono hsubset)
  | answered hmem hcall hanswer hadmissible hcarries =>
    exact .answered (hsubset hmem) hcall hanswer hadmissible hcarries

omit [Ciborium] in
theorem MatchedBody.mono {number : ℕ} {result : CallResult} (h : world.MatchedBody number result)
    (hcalled : ∀ (other : ℕ) call, world.called[other]? = some call → later.called[other]? = some call)
    (hhandled : world.handled ⊆ later.handled) : later.MatchedBody number result where
  beam := by
    intro clipId hresult
    obtain ⟨contentType, body, sourceName, hname, nowMs, hcall, entry, hmem, other, clip, hother,
      hevent, hid, hname', hpushed⟩ := h.beam clipId hresult
    exact ⟨contentType, body, sourceName, hname, nowMs, hcalled _ _ hcall, entry, hhandled hmem, other,
      clip, hother, hevent, hid, hname', hcalled _ _ hpushed⟩
  item := by
    intro contentType body hresult
    obtain ⟨stageId, hcall, entry, hmem, hstaged⟩ := h.item contentType body hresult
    exact ⟨stageId, hcalled _ _ hcall, entry, hhandled hmem, hstaged⟩

omit [Ciborium] in
theorem MatchedList.mono {number : ℕ} {result : CallResult} (h : world.MatchedList number result)
    (hcalled : ∀ (other : ℕ) call, world.called[other]? = some call → later.called[other]? = some call)
    (hhandled : world.handled ⊆ later.handled) : later.MatchedList number result where
  list := by
    intro items hresult
    obtain ⟨entry, hmem, hentry⟩ := h.list items hresult
    exact ⟨entry, hhandled hmem, hentry⟩
  gone := by
    intro hresult
    obtain ⟨stageId, hcall, entry, hmem, hentry⟩ := h.gone hresult
    exact ⟨stageId, hcalled _ _ hcall, entry, hhandled hmem, hentry⟩

omit [Ciborium] in
/-- A call that has failed leaves nothing to match. -/
theorem matched_of_failed {number : ℕ} {result : CallResult} (h : result.Failed) :
    world.MatchedBody number result ∧ world.MatchedList number result := by
  obtain ⟨hfailure, hgone⟩ := h
  refine ⟨⟨?_, ?_⟩, ⟨?_, fun hresult ↦ absurd hresult hgone⟩⟩
  · rintro clipId rfl
    cases hfailure
  · rintro contentType body rfl
    cases hfailure
  · rintro items rfl
    cases hfailure

end Growth

/-! ## What a frame of the computer settles -/

namespace Replied

variable [Ciborium.Lawful] {handled : List HandledEvent} {p2c c2p : Key32} {asked : Option ℕ}
  {frame : Frame} {phone : Session}

/-- A list or an item comes of the answer to the call the frame goes with. -/
theorem answer (h : Replied handled c2p asked frame) (hphone : phone.Keyed p2c c2p) {nowMs : UInt64}
    {event : SessionEvent} (hty : event.ty = .stageList ∨ event.ty = .stageItem)
    (hemit : .emit event ∈ (phone.onFrame frame nowMs none).2) :
    ∃ entry ∈ handled, entry.call = asked ∧
      ∃ message, entry.ring.answer entry.event = some message ∧ event ∈ message.events := by
  have hsame := (hphone.emit hemit).1
  cases h with
  | neutral hneutral =>
    rw [Neutral, ← hsame] at hneutral
    obtain hty | hty := hty <;> rw [hty] at hneutral <;> simp at hneutral
  | acked hacks =>
    rw [hacks.1] at hsame
    obtain hty | hty := hty <;> cases hty.symm.trans hsame
  | answered hmem hcall hanswer hadmissible hcarries =>
    exact ⟨_, hmem, hcall, _, hanswer, hphone.emits hcarries hadmissible hemit⟩

omit [Ciborium.Lawful] in
/-- A clip is acknowledged after its arrival. -/
theorem acknowledged (h : Replied handled c2p asked frame) (hphone : phone.Keyed p2c c2p)
    {nowMs : UInt64} {clipId : Octets 8} {status : UInt8}
    (hemit : .emit (.clipAcked clipId status) ∈ (phone.onFrame frame nowMs none).2) :
    ∃ entry ∈ handled, ∃ clip : BeamedClip, entry.event = clip.event ∧ clip.clipId = clipId := by
  have hty := (Session.onFrame_clipAcked hphone.coherent hemit).1
  cases h with
  | neutral hneutral => simp [Neutral, hty] at hneutral
  | acked hacks =>
    obtain ⟨-, entry, hmem, clip, hevent, hread⟩ := hacks
    exact ⟨entry, hmem, clip, hevent, hphone.readAck_eq hemit hread⟩
  | @answered entry message _ _ hanswer _ hcarries =>
    -- No answer of the ring is a CLIP_ACK.
    have hmessage : message.ty = .clipAck := hcarries.ty.symm.trans hty
    cases message <;> cases hmessage

end Replied

/-! ## What every step keeps -/

namespace Inv

variable {p2c c2p : Key32} {world : ReusedConnection}

/-- A call is made. -/
theorem append (h : world.Inv p2c c2p) (hwaiting : world.waiting = none) (call : ConnectionCall) :
    Inv p2c c2p { world with called := world.called ++ [call] } where
  phone := h.phone
  task := h.task
  waiting := by simp [hwaiting]
  requests := fun number frame hmem ↦ (h.requests number frame hmem).append call
  received := by
    intro frame hphase
    obtain ⟨number, hserving, hrequested⟩ := h.received frame hphase
    exact ⟨number, hserving, hrequested.append call⟩
  emits := fun event hmem ↦ (h.emits event hmem).append call
  sends := h.sends
  handled := fun entry hmem ↦ (h.handled entry hmem).append call
  replies := h.replies
  returned := fun number result hmem ↦ (h.returned number result hmem).mono
    (fun _ _ hcalled ↦ called_append hcalled call) (List.Subset.refl _)

/-- A call goes on to wait, or returns. -/
theorem follow (h : world.Inv p2c c2p) {number : ℕ} {call : ConnectionCall} {step : CallStep}
    (hcalled : world.called[number]? = some call) (hphone : step.session.Keyed p2c c2p)
    (hwritten : ∀ frame ∈ step.written, Requested world.called p2c number frame)
    (hresult : ∀ result, step.result = some result → world.MatchedBody number result) :
    (world.follow number call step).Inv p2c c2p where
  phone := hphone
  task := h.task
  waiting := by
    intro number' call' hwaiting
    change (if step.result.isNone then some (number, call) else none) = some (number', call')
      at hwaiting
    split_ifs at hwaiting
    cases hwaiting
    exact hcalled
  requests := by
    intro number' frame hmem
    obtain hearlier | hnew := List.mem_append.mp hmem
    · exact h.requests number' frame hearlier
    · obtain ⟨frame', hframe, heq⟩ := List.mem_map.mp hnew
      cases heq
      exact hwritten frame hframe
  received := h.received
  emits := h.emits
  sends := h.sends
  handled := h.handled
  replies := h.replies
  returned := by
    intro number' result hmem
    obtain hearlier | ⟨rfl, hsettled⟩ := mem_follow_returned hmem
    · exact (h.returned number' result hearlier).mono (fun _ _ ↦ id) (List.Subset.refl _)
    · exact (hresult result hsettled).mono (fun _ _ ↦ id) (List.Subset.refl _)

/-- A call begins. -/
theorem call [AeadCorrect] (h : world.Inv p2c c2p) (hwaiting : world.waiting = none)
    (call : ConnectionCall) (sent : Except String Unit) :
    ({ world with called := world.called ++ [call] }.follow world.called.length call
      (call.start world.phone sent)).Inv p2c c2p := by
  have hcalled : (world.called ++ [call])[world.called.length]? = some call :=
    List.getElem?_concat_length ..
  have hmessage {message : Message} (hrequest : call.message = some message) (code : WireErrorCode)
      (msg : String) : message ≠ .error code msg := by
    rintro rfl
    cases call with
    | beam contentType body sourceName hname nowMs randomId => cases randomId <;> cases hrequest
    | stageList | stageItem => cases hrequest
  have hstarted := call.start_started world.phone sent
  generalize call.start world.phone sent = step at hstarted
  cases hstarted with
  | @waiting message frame later hrequest hadmissible htransmit =>
    have hlater := h.phone.transmitted (hmessage hrequest)
    rw [htransmit] at hlater
    refine (h.append hwaiting call).follow hcalled hlater ?_ (by simp)
    intro frame' hmem
    cases List.mem_singleton.mp hmem
    exact ⟨call, message, hcalled, hrequest, hadmissible, h.phone.transmit htransmit⟩
  | @failed later result failure hlater hfailure hnot =>
    refine (h.append hwaiting call).follow hcalled ?_ (by simp) ?_
    · obtain rfl | ⟨message, hrequest, rfl⟩ := hlater
      · exact h.phone
      · exact h.phone.transmitted (hmessage hrequest)
    · intro result' hresult
      cases hresult
      exact (matched_of_failed (.of_failure hfailure hnot)).1

/-- A call that waits gets no frame. -/
theorem fail (h : world.Inv p2c c2p) {number : ℕ} {call : ConnectionCall}
    (hwaiting : world.waiting = some (number, call)) (failure : RecvFailure) :
    (world.follow number call (call.receive world.phone (.error failure.error) 0)).Inv p2c c2p := by
  obtain ⟨result, hfailure, hstep⟩ := call.receive_failure world.phone failure.error 0
  rw [hstep]
  refine h.follow (h.waiting number call hwaiting) h.phone (by simp) fun result' hresult ↦ ?_
  cases hresult
  exact (matched_of_failed (.of_failure hfailure failure.error_ne)).1

variable [Ciborium.Lawful]

/-- What a call returns on a frame is not mistaken for that of another clip. -/
theorem matchedBody (h : world.Inv p2c c2p) {number : ℕ} {call : ConnectionCall}
    (hcalled : world.called[number]? = some call) {asked : Option ℕ} {frame : Frame}
    (hreplied : Replied world.handled c2p asked frame) {nowMs : UInt64} {result : CallResult}
    (hresult : (call.receive world.phone (.ok frame) nowMs).result = some result) :
    world.MatchedBody number result := by
  have hsettled := ConnectionCall.receive_settled hresult
  cases hsettled with
  | failed hfailed => exact (matched_of_failed hfailed).1
  | listed | gone => exact ⟨by simp, by simp⟩
  | @acked contentType body sourceName hname sentMs clipId status hcall hmem =>
    refine ⟨fun id hid ↦ ?_, by simp⟩
    cases hid
    subst hcall
    obtain ⟨entry, hentry, clip, hevent, rfl⟩ := hreplied.acknowledged h.phone hmem
    refine ⟨contentType, body, sourceName, hname, sentMs, hcalled, entry, hentry, ?_⟩
    obtain ⟨peer, hpeer⟩ | ⟨other, caller, message, hother, hcaller, hrequest, hasked⟩ :=
      h.handled entry hentry
    · cases hevent.symm.trans hpeer
    refine ⟨other, clip, hother, hevent, rfl, ?_⟩
    rw [hevent] at hasked
    cases caller with
    | beam contentType' body' sourceName' hname' nowMs' randomId =>
      cases randomId <;> cases hrequest
      cases List.mem_singleton.mp hasked
      exact ⟨hname', hcaller⟩
    | stageList | stageItem =>
      cases hrequest
      cases List.mem_singleton.mp hasked
  | @fetched stageId contentType body hcall hmem =>
    refine ⟨by simp, fun contentType' body' hitem ↦ ?_⟩
    cases hitem
    subst hcall
    refine ⟨stageId, hcalled, ?_⟩
    obtain ⟨entry, hentry, -, message, hanswer, hevents⟩ := hreplied.answer h.phone (.inr rfl) hmem
    rcases hevent : entry.event with _ | _ | _ | _ | requested | _ | _ | _ <;>
      rw [hevent, StageRing.answer] at hanswer <;> cases hanswer
    · cases List.mem_singleton.mp hevents
    · rcases hget : entry.ring.get requested with - | clip <;> rw [hget] at hevents
      · cases List.mem_singleton.mp hevents
      · cases List.mem_singleton.mp hevents
        have hid : clip.stageId = requested := by simpa using List.find?_some hget
        exact ⟨entry, hentry, clip, hid ▸ hevent, hid ▸ hget, rfl, rfl⟩

/-- A call that waits takes the next frame in. -/
theorem receive (h : world.Inv p2c c2p) {number : ℕ} {call : ConnectionCall}
    (hwaiting : world.waiting = some (number, call)) {asked : Option ℕ} {frame : Frame}
    {frames : List (Option ℕ × Frame)} (hframes : world.toPhone = (asked, frame) :: frames)
    (nowMs : UInt64) : ({ world with toPhone := frames }.follow number call
      (call.receive world.phone (.ok frame) nowMs)).Inv p2c c2p := by
  have hcalled := h.waiting number call hwaiting
  have hreplied := h.replies asked frame (by rw [hframes]; exact List.mem_cons_self)
  have hshorter : Inv p2c c2p { world with toPhone := frames } := {
    h with
    replies := fun other later hmem ↦
      h.replies other later (by rw [hframes]; exact List.mem_cons_of_mem _ hmem)
    returned := fun other result hmem ↦
      (h.returned other result hmem).mono (fun _ _ ↦ id) (List.Subset.refl _) }
  obtain ⟨hsession, hwritten⟩ := call.receive_frame world.phone frame nowMs
  refine hshorter.follow hcalled ?_ (by rw [hwritten]; simp) fun result hresult ↦ ?_
  · rw [hsession]
    exact h.phone.perform (.onFrame frame nowMs none)
  · exact (h.matchedBody hcalled hreplied hresult).mono (fun _ _ ↦ id) (List.Subset.refl _)

/-! ### The loop -/

omit [Ciborium.Lawful] in
/-- The loop takes a step in which it handles and writes nothing. -/
theorem quiet (h : world.Inv p2c c2p) {input : SessionTask.Input} {task : SessionTask}
    {entries : List DriverEntry} (hstep : world.task.step input = task)
    (htrace : task.trace = world.task.trace ++ entries) (hevents : handledEvents entries = [])
    (hframes : writtenFrames entries = []) (hkeyed : task.session.Keyed c2p p2c)
    (hreceived : ∀ frame, task.phase = .received frame → ∃ number, world.serving = some number ∧
      Requested world.called p2c number frame)
    (hemits : ∀ event, .emit event ∈ task.pending → Asked world.called world.serving event)
    (hsends : Sends world.handled c2p task.pending) : (world.computer input).Inv p2c c2p := by
  rw [computer_eq hstep htrace, hevents, hframes]
  exact {
    phone := h.phone
    task := hkeyed
    waiting := h.waiting
    requests := h.requests
    received := hreceived
    emits := hemits
    sends := by
      change Sends (world.handled ++ []) _ _
      rwa [List.append_nil]
    handled := by
      change ∀ entry ∈ world.handled ++ [], _
      rw [List.append_nil]
      exact h.handled
    replies := by
      change ∀ asked frame, (asked, frame) ∈ world.toPhone ++ [] → Replied (world.handled ++ []) _ _ _
      rw [List.append_nil, List.append_nil]
      exact h.replies
    returned := fun number result hmem ↦ (h.returned number result hmem).mono (fun _ _ ↦ id)
      (List.subset_append_left _ _) }

omit [Ciborium.Lawful] in
/-- The loop leaves, or is about to wait. -/
theorem idle (h : world.Inv p2c c2p) {input : SessionTask.Input} {task : SessionTask}
    {entries : List DriverEntry} (hstep : world.task.step input = task)
    (htrace : task.trace = world.task.trace ++ entries) (hevents : handledEvents entries = [])
    (hframes : writtenFrames entries = []) (hsession : task.session = world.task.session)
    (hreceived : ∀ frame, task.phase ≠ .received frame) (hpending : task.pending = []) :
    (world.computer input).Inv p2c c2p := by
  apply h.quiet hstep htrace hevents hframes (by rw [hsession]; exact h.task)
  · exact fun frame hphase ↦ absurd hphase (hreceived frame)
  · simp [hpending]
  · exact .inl (by simp [hpending])

omit [Ciborium.Lawful] in
/-- The loop writes a frame it has pending. -/
theorem wrote (h : world.Inv p2c c2p) {input : SessionTask.Input} {task : SessionTask} {frame : Frame}
    {rest : List SessionAction} (hphase : world.task.phase = .acting (.send frame :: rest))
    (hstep : world.task.step input = task)
    (htrace : task.trace = world.task.trace ++ [.wrote frame])
    (hsession : task.session = world.task.session) (hrest : task.phase = .acting rest) :
    (world.computer input).Inv p2c c2p := by
  have hpending : world.task.pending = .send frame :: rest := by rw [SessionTask.pending, hphase]
  have hlater : task.pending = rest := by rw [SessionTask.pending, hrest]
  have hsends : ∀ other, .send other ∈ world.task.pending →
      Neutral other ∨ Acks world.handled c2p other := by
    refine h.sends.resolve_right ?_
    rintro ⟨clip, ack, hactions, -⟩
    cases hpending.symm.trans hactions
  have hsubset : world.handled ⊆ world.handled ++ [] := List.subset_append_left _ _
  rw [computer_eq hstep htrace]
  exact {
    phone := h.phone
    task := by
      change task.session.Keyed c2p p2c
      rw [hsession]
      exact h.task
    waiting := h.waiting
    requests := h.requests
    received := fun other hother ↦ by cases hrest.symm.trans hother
    emits := by
      intro event hmem
      exact h.emits event (hpending ▸ List.mem_cons_of_mem _ (hlater ▸ hmem))
    sends := by
      refine .inl fun other hmem ↦ ?_
      have hother := hsends other (hpending ▸ List.mem_cons_of_mem _ (hlater ▸ hmem))
      exact hother.imp_right (·.mono hsubset)
    handled := by
      change ∀ entry ∈ world.handled ++ [], _
      rw [List.append_nil]
      exact h.handled
    replies := by
      intro asked other hmem
      obtain hearlier | hnew := List.mem_append.mp hmem
      · exact (h.replies asked other hearlier).mono hsubset
      · cases List.mem_singleton.mp hnew
        obtain hneutral | hacks := hsends frame (hpending ▸ List.mem_cons_self)
        · exact .neutral hneutral
        · exact .acked (hacks.mono hsubset)
    returned := fun number result hmem ↦
      (h.returned number result hmem).mono (fun _ _ ↦ id) hsubset }

omit [Ciborium.Lawful] in
/-- The loop handles an event, and answers it if it writes a reply. -/
theorem handle [AeadCorrect] (h : world.Inv p2c c2p) {input : SessionTask.Input} {task : SessionTask}
    {event : SessionEvent} {rest : List SessionAction}
    (hphase : world.task.phase = .acting (.emit event :: rest)) {entries : List DriverEntry}
    (hstep : world.task.step input = task)
    (htrace : task.trace = world.task.trace ++ .handled event :: entries)
    (hevents : handledEvents entries = [])
    (hsession : task.session =
      (handleEvent event world.task.session world.stage world.task.connectedId).session)
    (hreceived : ∀ frame, task.phase ≠ .received frame)
    (hpending : task.pending = rest ∨ task.pending = [])
    (hreplies : ∀ frame ∈ writtenFrames entries,
      (handleEvent event world.task.session world.stage world.task.connectedId).reply =
        .ok (some frame)) : (world.computer input).Inv p2c c2p := by
  let entry : HandledEvent := ⟨world.serving, event, world.stage⟩
  have hactions : world.task.pending = .emit event :: rest := by rw [SessionTask.pending, hphase]
  have hasked : Asked world.called world.serving event :=
    h.emits event (hactions ▸ List.mem_cons_self)
  have hsubset : world.handled ⊆ world.handled ++ [entry] := List.subset_append_left _ _
  have hnew : entry ∈ world.handled ++ [entry] := List.mem_append_right _ (List.mem_singleton_self _)
  have hlater : ∀ action ∈ task.pending, action ∈ rest := by
    obtain hrest | hnone := hpending
    · exact fun action ↦ hrest ▸ id
    · simp [hnone]
  have hentries : handledEvents (.handled event :: entries) = [event] := by
    change event :: handledEvents entries = _
    rw [hevents]
  have hwritten : writtenFrames (.handled event :: entries) = writtenFrames entries := rfl
  rw [computer_eq hstep htrace, hentries, hwritten]
  exact {
    phone := h.phone
    task := by
      change task.session.Keyed c2p p2c
      rw [hsession]
      exact h.task.handleEvent ..
    waiting := h.waiting
    requests := h.requests
    received := fun frame hframe ↦ absurd hframe (hreceived frame)
    emits := fun other hmem ↦
      h.emits other (hactions ▸ List.mem_cons_of_mem _ (hlater _ hmem))
    sends := by
      refine .inl fun frame hmem ↦ ?_
      obtain hsends | ⟨clip, ack, hpair, hty, hread⟩ := h.sends
      · have hframe := hsends frame (hactions ▸ List.mem_cons_of_mem _ (hlater _ hmem))
        exact hframe.imp_right (·.mono hsubset)
      · obtain ⟨hemit, rfl⟩ := List.cons.inj (hactions.symm.trans hpair)
        cases hemit
        cases List.mem_singleton.mp (hlater _ hmem)
        exact .inr ⟨hty, entry, hnew, clip, rfl, hread⟩
    handled := by
      intro other hmem
      obtain hearlier | hother := List.mem_append.mp hmem
      · exact h.handled other hearlier
      · cases List.mem_singleton.mp hother
        exact hasked
    replies := by
      intro asked frame hmem
      obtain hearlier | hreply := List.mem_append.mp hmem
      · exact (h.replies asked frame hearlier).mono hsubset
      · obtain ⟨frame', hframe, heq⟩ := List.mem_map.mp hreply
        cases heq
        obtain ⟨message, hanswer, hcarries⟩ := h.task.reply (hreplies frame hframe)
        exact .answered hnew rfl hanswer (StageRing.answer_pulled hanswer).admissible hcarries
    returned := fun number result hmem ↦
      (h.returned number result hmem).mono (fun _ _ ↦ id) hsubset }

/-- The session gets the request of the call that is served. -/
theorem serve [AeadCorrect] (h : world.Inv p2c c2p) {frame : Frame}
    (hphase : world.task.phase = .received frame) (paused : Bool) (nowMs : UInt64)
    (seed : Option Key32) : (world.computer (.onFrame paused nowMs seed)).Inv p2c c2p := by
  let arrival : Session.Arrival := ⟨paused, frame, nowMs, seed⟩
  have hpaused := h.task.perform (.setPaused paused)
  have hactions : (world.task.onFrame frame paused nowMs seed).pending =
      (world.task.session.receive arrival).2 := rfl
  have hstep : world.task.step (.onFrame paused nowMs seed) =
      world.task.onFrame frame paused nowMs seed := by rw [SessionTask.step, hphase]
  apply h.quiet hstep rfl rfl rfl (hpaused.perform (.onFrame frame nowMs seed))
  · intro other hother
    cases hother
  · intro event hmem
    rw [hactions] at hmem
    obtain ⟨number, hserving, call, message, hcalled, hrequest, hadmissible, hcarries⟩ :=
      h.received frame hphase
    exact .inr ⟨number, call, message, hserving, hcalled, hrequest,
      hpaused.emits hcarries hadmissible hmem⟩
  · rw [hactions]
    obtain hnone | ⟨plain, clip, ack, -, -, -, -, hpair, hty, hread⟩ :=
      Session.receive_arrival h.task.transmits arrival
    · refine .inl fun other hmem ↦ .inl ?_
      have hsent : other ∈ sentFrames (world.task.session.receive arrival).2 :=
        List.mem_filterMap.mpr ⟨_, hmem, rfl⟩
      obtain hty | hty | hty | hty := Session.onFrame_sent_ty hpaused.coherent hsent
      · exact .inl hty
      · have hack : other ∈ ackFrames (world.task.session.receive arrival).2 :=
          List.mem_filter.mpr ⟨hsent, by simpa using hty⟩
        rw [hnone.acked] at hack
        cases hack
      · exact .inr (.inl hty)
      · exact .inr (.inr hty)
    · exact .inr ⟨clip, ack, hpair, hty, hread⟩

/-- The loop takes a step. -/
theorem computer [AeadCorrect] (h : world.Inv p2c c2p) {input : SessionTask.Input}
    (hstage : ∀ stage works, input = .act stage works → stage = world.stage)
    (hnext : ∀ frame, input = .next (.frame frame) → ∃ number, world.serving = some number ∧
      Requested world.called p2c number frame) : (world.computer input).Inv p2c c2p := by
  have hstep := world.task.step_cases input
  generalize htask : world.task.step input = task at hstep
  cases hstep with
  | still =>
    exact h.quiet htask (List.append_nil _).symm rfl rfl h.task h.received h.emits h.sends
  | called hphase => exact h.serve hphase _ _ _
  | sent hphase => exact h.wrote hphase htask rfl rfl rfl
  | @handled stage works event rest hphase hreply =>
    obtain rfl := hstage stage works rfl
    exact h.handle hphase htask rfl rfl rfl (fun _ ↦ SessionPhase.noConfusion) (.inl rfl)
      (by simp [writtenFrames])
  | @answered stage event rest reply hphase hreply =>
    obtain rfl := hstage stage true rfl
    exact h.handle hphase htask (List.append_assoc ..) rfl rfl (fun _ ↦ SessionPhase.noConfusion)
      (.inl rfl) (by simpa [writtenFrames] using hreply)
  | closed hphase | ended hphase | failed hphase =>
    exact h.idle htask (List.append_assoc ..) rfl rfl rfl (fun _ ↦ SessionPhase.noConfusion) rfl
  | unsent hphase => exact h.idle htask rfl rfl rfl rfl (fun _ ↦ SessionPhase.noConfusion) rfl
  | @received frame hphase =>
    apply h.quiet htask rfl rfl rfl h.task
    · intro other hother
      cases hother
      exact hnext frame rfl
    · simp [SessionTask.pending, SessionTask.note]
    · exact .inl (by simp [SessionTask.pending, SessionTask.note])
  | @unbuilt stage works event rest failure hphase hreply =>
    obtain rfl := hstage stage works rfl
    exact h.handle hphase htask (List.append_assoc ..) rfl rfl (fun _ ↦ SessionPhase.noConfusion)
      (.inr rfl) (by simp [writtenFrames])
  | @unanswered stage event rest reply hphase hreply =>
    obtain rfl := hstage stage false rfl
    exact h.handle hphase htask (List.append_assoc ..) rfl rfl (fun _ ↦ SessionPhase.noConfusion)
      (.inr rfl) (by simp [writtenFrames])

/-- The loop takes the next request. -/
theorem take [AeadCorrect] (h : world.Inv p2c c2p) (hphase : world.task.phase = .acting [])
    {number : ℕ} {frame : Frame} {frames : List (ℕ × Frame)}
    (hframes : world.toPc = (number, frame) :: frames) :
    ({ world with toPc := frames, serving := some number }.computer (.next (.frame frame))).Inv
      p2c c2p := by
  have hrequested := h.requests number frame (by rw [hframes]; exact List.mem_cons_self)
  have hpending : world.task.pending = [] := by rw [SessionTask.pending, hphase]
  have htaken : Inv p2c c2p { world with toPc := frames, serving := some number } := {
    h with
    requests := fun other later hmem ↦
      h.requests other later (by rw [hframes]; exact List.mem_cons_of_mem _ hmem)
    received := fun other hother ↦ by cases hphase.symm.trans hother
    emits := by
      change ∀ event, .emit event ∈ world.task.pending → _
      simp [hpending]
    returned := fun other result hmem ↦
      (h.returned other result hmem).mono (fun _ _ ↦ id) (List.Subset.refl _) }
  refine htaken.computer (by simp) fun other hother ↦ ?_
  cases hother
  exact ⟨number, rfl, hrequested⟩

/-- Every step keeps the invariant. -/
theorem step [AeadCorrect] (h : world.Inv p2c c2p) (input : ReuseInput) :
    (world.step input).Inv p2c c2p := by
  have hstep := world.step_cases input
  generalize world.step input = later at hstep
  cases hstep with
  | still => exact h
  | ring =>
    exact { h with
      returned := fun number result hmem ↦
        (h.returned number result hmem).mono (fun _ _ ↦ id) (List.Subset.refl _) }
  | @called call sent hwaiting => exact h.call hwaiting call sent
  | received hwaiting hframes => exact h.receive hwaiting hframes _
  | failed hwaiting => exact h.fail hwaiting _
  | taken hphase hframes => exact h.take hphase hframes
  | served => exact h.computer (by simp) (by simp)
  | acted => exact h.computer (by simp) (by simp)
  | @hungUp ok => exact h.computer (by simp) (by cases ok <;> simp)

/-! ## Lists -/

/-- A list that a call takes in answers its own request. -/
theorem own_answer (h : world.Inv p2c c2p) {nowMs : UInt64}
    (hown : world.TakesOwnLists (.receive nowMs)) {number : ℕ} {call : ConnectionCall}
    (hwaiting : world.waiting = some (number, call)) (hstage : call.IsStage) {asked : Option ℕ}
    {frame : Frame} {frames : List (Option ℕ × Frame)}
    (hframes : world.toPhone = (asked, frame) :: frames) {items : List StageMeta}
    (hemit : .emit (.stageList items) ∈ (world.phone.onFrame frame nowMs none).2) :
    ∃ entry ∈ world.handled, entry.call = some number ∧ (∃ message, call.message = some message ∧
      entry.event ∈ message.events) ∧ ∃ answer, entry.ring.answer entry.event = some answer ∧
        .stageList items ∈ answer.events := by
  have hcalled := h.waiting number call hwaiting
  have hreplied := h.replies asked frame (by rw [hframes]; exact List.mem_cons_self)
  have hestablished := h.phone.established_of_emit hemit
  obtain rfl := hown number call asked frame frames hestablished hwaiting hstage hframes
    (h.phone.emit hemit).1.symm
  obtain ⟨entry, hentry, hcall, answer, hanswer, hevents⟩ :=
    hreplied.answer h.phone (.inl rfl) hemit
  refine ⟨entry, hentry, hcall, ?_, answer, hanswer, hevents⟩
  obtain ⟨peer, hpeer⟩ | ⟨asking, caller, message, hnumber, hcaller, hrequest, hasked⟩ :=
    h.handled entry hentry
  · rw [hpeer] at hanswer
    cases hanswer
  · cases hnumber.symm.trans hcall
    cases hcaller.symm.trans hcalled
    exact ⟨message, hrequest, hasked⟩

/-- What a call returns on its own list is the content of the ring at its request. -/
theorem matchedList (h : world.Inv p2c c2p) {nowMs : UInt64}
    (hown : world.TakesOwnLists (.receive nowMs)) {number : ℕ} {call : ConnectionCall}
    (hwaiting : world.waiting = some (number, call)) {asked : Option ℕ} {frame : Frame}
    {frames : List (Option ℕ × Frame)} (hframes : world.toPhone = (asked, frame) :: frames)
    {result : CallResult}
    (hresult : (call.receive world.phone (.ok frame) nowMs).result = some result) :
    world.MatchedList number result := by
  have hsettled := ConnectionCall.receive_settled hresult
  cases hsettled with
  | failed hfailed => exact (matched_of_failed hfailed).2
  | acked | fetched => exact ⟨by simp, by simp⟩
  | @listed items hcall hmem =>
    refine ⟨fun items' hitems ↦ ?_, by simp⟩
    cases hitems
    subst hcall
    obtain ⟨entry, hentry, hcall, ⟨message, hrequest, hasked⟩, answer, hanswer, hevents⟩ :=
      h.own_answer hown hwaiting trivial hframes hmem
    cases hrequest
    have hevent : entry.event = .stageListRequested := List.mem_singleton.mp hasked
    rw [hevent] at hanswer
    cases hanswer
    cases List.mem_singleton.mp hevents
    exact ⟨entry, hentry, hcall, hevent, rfl⟩
  | @gone stageId hcall hmem =>
    refine ⟨by simp, fun _ ↦ ⟨stageId, hcall ▸ h.waiting number call hwaiting, ?_⟩⟩
    subst hcall
    obtain ⟨items, hmem⟩ := hmem.resolve_right (h.phone.not_close frame nowMs none)
    obtain ⟨entry, hentry, hcall, ⟨message, hrequest, hasked⟩, answer, hanswer, hevents⟩ :=
      h.own_answer hown hwaiting trivial hframes hmem
    cases hrequest
    have hevent : entry.event = .stageItemRequested stageId := List.mem_singleton.mp hasked
    rw [hevent, StageRing.answer] at hanswer
    cases hanswer
    rcases hget : entry.ring.get stageId with - | clip <;> rw [hget] at hevents
    · exact ⟨entry, hentry, hcall, hevent, hget⟩
    · cases List.mem_singleton.mp hevents

omit [Ciborium] [Ciborium.Lawful] in
/-- The results stay matched if what a call returns in its round is. -/
theorem follow_matched
    (hmatched : ∀ number result, (number, result) ∈ world.returned → world.MatchedList number result)
    {number : ℕ} {call : ConnectionCall} {step : CallStep}
    (hstep : ∀ result, step.result = some result → world.MatchedList number result) :
    ∀ other result, (other, result) ∈ (world.follow number call step).returned →
      (world.follow number call step).MatchedList other result := by
  intro other result hmem
  have hresult : world.MatchedList other result := by
    obtain hearlier | ⟨rfl, hsettled⟩ := mem_follow_returned hmem
    · exact hmatched other result hearlier
    · exact hstep result hsettled
  exact hresult.mono (fun _ _ ↦ id) (List.Subset.refl _)

/-- Every step on which no call takes in the list of another keeps the results matched. -/
theorem step_matched [AeadCorrect] (h : world.Inv p2c c2p)
    (hmatched : ∀ number result, (number, result) ∈ world.returned → world.MatchedList number result)
    {input : ReuseInput} (hown : world.TakesOwnLists input) :
    ∀ number result, (number, result) ∈ (world.step input).returned →
      (world.step input).MatchedList number result := by
  have hstep := world.step_cases input
  generalize world.step input = later at hstep
  cases hstep with
  | still => exact hmatched
  | ring =>
    exact fun number result hmem ↦
      (hmatched number result hmem).mono (fun _ _ ↦ id) (List.Subset.refl _)
  | taken | served | acted | hungUp =>
    exact fun number result hmem ↦
      (hmatched number result hmem).mono (fun _ _ ↦ id) (List.subset_append_left _ _)
  | @called call sent hwaiting =>
    apply follow_matched
    · exact fun number result hmem ↦ (hmatched number result hmem).mono
        (fun _ _ hcalled ↦ called_append hcalled call) (List.Subset.refl _)
    · intro result hresult
      have hstarted := call.start_started world.phone sent
      generalize call.start world.phone sent = step at hstarted hresult
      cases hstarted with
      | waiting => cases hresult
      | failed _ hfailure hnot =>
        cases hresult
        exact (matched_of_failed (.of_failure hfailure hnot)).2
  | @received nowMs number call asked frame frames hwaiting hframes =>
    apply follow_matched
    · exact fun other result hmem ↦
        (hmatched other result hmem).mono (fun _ _ ↦ id) (List.Subset.refl _)
    · exact fun result hresult ↦ (h.matchedList hown hwaiting hframes hresult).mono
        (fun _ _ ↦ id) (List.Subset.refl _)
  | @failed failure number call hwaiting =>
    refine follow_matched hmatched fun result hresult ↦ ?_
    obtain ⟨settled, hfailure, hstep⟩ := call.receive_failure world.phone failure.error 0
    rw [hstep] at hresult
    cases hresult
    exact (matched_of_failed (.of_failure hfailure failure.error_ne)).2

end Inv

/-! ## Every run -/

/-- The two ends once the phone is established, before any call: the loop has at most to report the
phone as connected. -/
structure Opened (phone : Session) (task : SessionTask) : Prop where
  joined : Joined phone task
  pending : ∀ action ∈ task.pending, ∃ peer, action = .emit (.established peer)
  idle : ∀ frame, task.phase ≠ .received frame

theorem Inv.start {phone : Session} {task : SessionTask} (h : Opened phone task) :
    ∃ p2c c2p, (start phone task).Inv p2c c2p := by
  obtain ⟨p2c, c2p, hphone, htask⟩ := h.joined.channels
  refine ⟨p2c, c2p, ?_⟩
  exact {
    phone := ⟨h.joined.phone_begun, _, hphone, rfl, rfl⟩
    task := ⟨h.joined.task_begun, _, htask, rfl, rfl⟩
    waiting := fun _ _ hwaiting ↦ by cases hwaiting
    requests := fun _ _ hmem ↦ by cases hmem
    received := fun frame hphase ↦ absurd hphase (h.idle frame)
    emits := by
      intro event hmem
      obtain ⟨peer, hpeer⟩ := h.pending _ hmem
      exact .inl ⟨peer, SessionAction.emit.inj hpeer⟩
    sends := by
      refine .inl fun frame hmem ↦ ?_
      obtain ⟨peer, hpeer⟩ := h.pending _ hmem
      cases hpeer
    handled := fun _ hmem ↦ by cases hmem
    replies := fun _ _ hmem ↦ by cases hmem
    returned := fun _ _ hmem ↦ by cases hmem }

/-- In every run a beam succeeds only for a clip with its id that has arrived, and an item is only
returned as it was staged under its id.  If no call takes in a list that answers an earlier request,
every list returned is the content of the ring when the request of the very call was handled, and an
item is said to be gone only if the ring lacked it then. -/
theorem replies_match_requests [Ciborium.Lawful] [AeadCorrect] {phone : Session} {task : SessionTask}
    (hopened : Opened phone task) (inputs : List ReuseInput) :
    (∀ number result, (number, result) ∈ ((start phone task).run inputs).returned →
      ((start phone task).run inputs).MatchedBody number result) ∧
    (EveryStep step TakesOwnLists (start phone task) inputs → ∀ number result,
      (number, result) ∈ ((start phone task).run inputs).returned →
        ((start phone task).run inputs).MatchedList number result) := by
  obtain ⟨p2c, c2p, hstart⟩ := Inv.start hopened
  have hinv : ((start phone task).run inputs).Inv p2c c2p :=
    foldl_invariant (fun _ input _ h ↦ h.step input) hstart
  refine ⟨hinv.returned, fun hevery ↦ ?_⟩
  let Q (world : ReusedConnection) : Prop := world.Inv p2c c2p ∧
    ∀ number result, (number, result) ∈ world.returned → world.MatchedList number result
  have hrun : Q ((start phone task).run inputs) :=
    hevery.invariant (fun _ input hown h ↦ ⟨h.1.step input, h.1.step_matched h.2 hown⟩)
      ⟨hstart, fun _ _ hmem ↦ by cases hmem⟩
  exact hrun.2

end ReusedConnection

end Replies

namespace Reference

theorem opened : ReusedConnection.Opened phoneSession serving := by
  have hphase : serving.phase = .acting [] := by decide +kernel
  exact {
    joined := joined
    pending := by simp [SessionTask.pending, hphase]
    idle := by simp [hphase] }

/-- The phone lists the clips, and the loop takes the request and writes its answer. -/
def listingInputs : List ReuseInput :=
  [.ring (copyOf 1 104), .call .stageList (.ok ()), .take, .serve false 0 none, .act true]

def listing : ReusedConnection := (ReusedConnection.start phoneSession serving).run listingInputs

/-- The phone gives up listing an empty ring, a clip is staged, and the phone lists again: the answer to
the first request reaches it before the loop handles the second. -/
def relisted : ReusedConnection := (ReusedConnection.start phoneSession serving).run
  [.call .stageList (.ok ()), .fail .timedOut, .take, .serve false 0 none, .act true,
    .ring (copyOf 1 104), .call .stageList (.ok ()), .receive 0, .take, .serve false 0 none, .act true]

end Reference

open Reference in
/-- A list is the content of the ring at its request. -/
theorem replies_match_requests_listing :
    (listing.step (.receive 0)).returned.length = 1 ∧
      ∃ entry ∈ (listing.step (.receive 0)).handled, entry.call = some 0 ∧
        entry.event = .stageListRequested ∧
        (0, .stageList (.ok entry.ring.list)) ∈ (listing.step (.receive 0)).returned := by
  have hanswered : listing.toPhone.map Prod.fst = [some 0] := by decide +kernel
  have hown : listing.TakesOwnLists (.receive 0) := by
    intro number call asked frame frames _ hwaiting _ hframes _
    have hnumber : listing.waiting.map Prod.fst = some 0 := by decide +kernel
    rw [hwaiting] at hnumber
    rw [hframes] at hanswered
    cases hnumber
    exact (List.cons.inj hanswered).1
  have hreturned : (listing.step (.receive 0)).returned =
      [(0, .stageList (.ok [StagedClip.row ⟨pad 8 [1], .text, [104], 7⟩]))] := by decide +kernel
  have hevery : EveryStep ReusedConnection.step ReusedConnection.TakesOwnLists
      (ReusedConnection.start phoneSession serving) (listingInputs ++ [.receive 0]) :=
    ⟨trivial, trivial, trivial, trivial, trivial, hown, trivial⟩
  have hrun : (ReusedConnection.start phoneSession serving).run (listingInputs ++ [.receive 0]) =
      listing.step (.receive 0) := List.foldl_concat ..
  obtain ⟨-, hmatched⟩ :=
    ReusedConnection.replies_match_requests opened (listingInputs ++ [.receive 0])
  have hlisted := hmatched hevery
  rw [hrun, hreturned] at hlisted
  obtain ⟨entry, hentry, hcall, hevent, hitems⟩ :=
    (hlisted 0 _ (List.mem_singleton_self _)).list _ rfl
  refine ⟨by rw [hreturned]; rfl, entry, hentry, hcall, hevent, ?_⟩
  rw [← hitems, hreturned]
  exact List.mem_singleton_self _

open Reference in
/-- The answer to the request of a call that has timed out is returned by the next one, though the ring
has a clip when its own request is handled. -/
theorem stale_list_returned :
    ReusedConnection.Opened phoneSession serving ∧
      (1, .stageList (.ok [])) ∈ relisted.returned ∧
      (∃ entry ∈ relisted.handled, entry.call = some 1 ∧ entry.event = .stageListRequested) ∧
      ¬ relisted.MatchedList 1 (.stageList (.ok [])) := by
  have hfull : (relisted.handled.all fun entry ↦
      entry.call ≠ some 1 || !entry.ring.list.isEmpty) = true := by decide +kernel
  have hsecond : (relisted.handled.any fun entry ↦
      entry.call = some 1 && entry.event = .stageListRequested) = true := by decide +kernel
  refine ⟨opened, by decide +kernel, ?_, fun hmatched ↦ ?_⟩
  · obtain ⟨entry, hentry, hcall⟩ := List.any_eq_true.mp hsecond
    exact ⟨entry, hentry, by simpa using hcall⟩
  · obtain ⟨entry, hentry, hcall, -, hitems⟩ := hmatched.list [] rfl
    have hnonempty := List.all_eq_true.mp hfull entry hentry
    simp [hcall, ← hitems] at hnonempty

end AirClip
