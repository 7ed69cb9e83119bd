import AirClip.Foundation.SequencedQueue
import AirClip.Traffic.FramesInTurn
import AirClip.Traffic.MatchedReplies

/-!
# Every call is answered

Where a call waits, its request is on its way, is being served, or is answered by a frame on its way
back, unless the loop is about to leave.  A call never waits with nothing under way: whatever has
happened before, however late the answers to earlier calls come, the loop and the phone only have to go
on for it to return.
-/

open Foundation Cbor

namespace AirClip

/-- A batch has two actions at most. -/
theorem Batch.length_le {actions : List SessionAction} (h : Batch actions) : actions.length ≤ 2 := by
  cases h <;> simp

section Answers

variable [Primitives] [Ciborium]

/-! ## What is under way -/

namespace SessionTask

omit [Ciborium]

/-- The frame that the loop has taken and its session has not. -/
def taken (task : SessionTask) : List Frame :=
  match task.phase with
  | .received frame => [frame]
  | _ => []

/-- The loop has returned, or is going to close the connection. -/
def Leaves (task : SessionTask) : Prop :=
  (∃ ok, task.phase = .returned ok) ∨ ∃ why, .close why ∈ task.pending

variable {task : SessionTask}

theorem Leaves.close_mem (h : task.Leaves) {actions : List SessionAction}
    (hphase : task.phase = .acting actions) : ∃ why, .close why ∈ actions := by
  obtain ⟨ok, hreturned⟩ | ⟨why, hmem⟩ := h
  · cases hphase.symm.trans hreturned
  · rw [pending, hphase] at hmem
    exact ⟨why, hmem⟩

/-- Once the loop leaves, it does. -/
theorem Leaves.step [Ciborium] (h : task.Leaves) (input : Input) : (task.step input).Leaves := by
  have hstep := task.step_cases input
  generalize task.step input = later at hstep
  have hrest {action : SessionAction} {rest : List SessionAction}
      (hphase : task.phase = .acting (action :: rest)) (haction : ∀ why, action ≠ .close why) :
      ∃ why, .close why ∈ rest := by
    obtain ⟨why, hmem⟩ := h.close_mem hphase
    exact ⟨why, (List.mem_cons.mp hmem).resolve_left fun heq ↦ haction why heq.symm⟩
  cases hstep with
  | still => exact h
  | called hphase =>
    obtain ⟨ok, hreturned⟩ | ⟨why, hmem⟩ := h
    · cases hphase.symm.trans hreturned
    · rw [pending, hphase] at hmem
      cases hmem
  | sent hphase | handled hphase | answered hphase => exact .inr (hrest hphase (by simp))
  | received hphase =>
    obtain ⟨why, hmem⟩ := h.close_mem hphase
    cases hmem
  | closed | ended | failed | unsent | unbuilt | unanswered => exact .inl ⟨_, rfl⟩

end SessionTask

namespace ReusedConnection

/-- The frame answers the call it goes with. -/
def Reply (called : List ConnectionCall) (key : Key32) (asked : Option ℕ) (frame : Frame) : Prop :=
  ∃ number call event, asked = some number ∧ called[number]? = some call ∧ call.Answers event ∧
    frame.Delivers key event

/-- What the loop is going to do for the call that it serves. -/
inductive Serves (called : List ConnectionCall) (key : Key32) (serving : Option ℕ) :
    List SessionAction → Prop
  | idle : Serves called key serving []
  | greeting (peer : DeviceId) (hserving : serving = none) :
      Serves called key serving [.emit (.established peer)]
  | pull {number : ℕ} {call : ConnectionCall} {request : Message} {event : SessionEvent}
      (hserving : serving = some number) (hcalled : called[number]? = some call)
      (hrequest : call.message = some request) (hpulled : request.Pulled)
      (hevents : request.events = [event]) : Serves called key serving [.emit event]
  | arrived (clip : BeamedClip) {ack : Frame} (hreply : Reply called key serving ack) :
      Serves called key serving [.emit clip.event, .send ack]
  | acknowledging {ack : Frame} (hreply : Reply called key serving ack) :
      Serves called key serving [.send ack]

/-- The request of the call is on its way or being served, or its answer is on its way. -/
def UnderWay (world : ReusedConnection) (number : ℕ) : Prop :=
  (∃ frame, (number, frame) ∈ world.toPc) ∨
    (world.serving = some number ∧ world.task.phase ≠ .acting []) ∨
    ∃ frame, (some number, frame) ∈ world.toPhone

/-- While the loop stays: the frames in both directions open in turn, the loop serves one call, what is
on its way to the phone answers calls, and the call that waits is under way. -/
structure Flow (p2c c2p : Key32) (world : ReusedConnection) : Prop where
  phone_state : world.phone.state = .established
  phone : world.phone.Keyed p2c c2p
  task_state : world.task.session.state = .established
  task : world.task.session.Keyed c2p p2c
  toPc : Sequenced frameNumber world.task.session.rxNext world.phone.txNext
    (world.task.taken ++ world.toPc.map Prod.snd)
  toPhone : Sequenced frameNumber world.phone.rxNext world.task.session.txNext
    (world.toPhone.map Prod.snd ++ sentFrames world.task.pending)
  requests : ∀ number frame, (number, frame) ∈ world.toPc →
    8 ≤ frame.payload.length ∧ Requested world.called p2c number frame
  received : ∀ frame, world.task.phase = .received frame → 8 ≤ frame.payload.length ∧
    ∃ number, world.serving = some number ∧ Requested world.called p2c number frame
  serves : Serves world.called c2p world.serving world.task.pending
  stays : ∀ ok, world.task.phase ≠ .returned ok
  replies : ∀ asked frame, (asked, frame) ∈ world.toPhone → Reply world.called c2p asked frame
  waiting : ∀ number call, world.waiting = some (number, call) →
    world.called[number]? = some call ∧ world.UnderWay number

omit [Primitives] [Ciborium] in
theorem message_ne_error {call : ConnectionCall} {message : Message}
    (h : call.message = some message) (code : WireErrorCode) (msg : String) :
    message ≠ .error code msg := by
  rintro rfl
  cases call with
  | beam contentType body sourceName hname nowMs randomId => cases randomId <;> cases h
  | stageList | stageItem => cases h

theorem Reply.append {called : List ConnectionCall} {key : Key32}
    {asked : Option ℕ} {frame : Frame} (h : Reply called key asked frame) (call : ConnectionCall) :
    Reply (called ++ [call]) key asked frame := by
  obtain ⟨number, caller, event, hasked, hcalled, hanswer⟩ := h
  exact ⟨number, caller, event, hasked, called_append hcalled call, hanswer⟩

omit [Primitives] [Ciborium] in
/-- The ring has an answer to the request of a call. -/
theorem exists_answer {call : ConnectionCall} {request : Message} {event : SessionEvent}
    (hrequest : call.message = some request) (hpulled : request.Pulled)
    (hevents : request.events = [event]) (stage : StageRing) : ∃ answer event',
      stage.answer event = some answer ∧ answer.events = [event'] ∧ call.Answers event' := by
  cases call with
  | beam contentType body sourceName hname nowMs randomId =>
    cases randomId <;> cases hrequest
    exact hpulled.elim
  | stageList =>
    cases hrequest
    cases hevents
    exact ⟨_, _, rfl, rfl, .listed _⟩
  | stageItem stageId =>
    cases hrequest
    cases hevents
    rcases hget : stage.get stageId with - | clip
    · exact ⟨.stageList [], _, by rw [StageRing.answer, hget], rfl, .gone stageId⟩
    · have hid : clip.stageId = stageId := by simpa using List.find?_some hget
      refine ⟨.stageItem clip, _, by rw [StageRing.answer, hget], rfl, ?_⟩
      rw [hid]
      exact .item stageId clip.contentType clip.body

theorem Serves.append {called : List ConnectionCall} {key : Key32} {serving : Option ℕ}
    {actions : List SessionAction} (h : Serves called key serving actions) (call : ConnectionCall) :
    Serves (called ++ [call]) key serving actions := by
  cases h with
  | idle => exact .idle
  | greeting peer hserving => exact .greeting peer hserving
  | pull hserving hcalled hrequest hpulled hevents =>
    exact .pull hserving (called_append hcalled call) hrequest hpulled hevents
  | arrived clip hreply => exact .arrived clip (hreply.append call)
  | acknowledging hreply => exact .acknowledging (hreply.append call)

namespace Flow

variable {p2c c2p : Key32} {world : ReusedConnection}

/-! ### The phone -/

/-- Another call is made. -/
theorem append (h : world.Flow p2c c2p) (hwaiting : world.waiting = none) (call : ConnectionCall) :
    Flow p2c c2p { world with called := world.called ++ [call] } where
  phone_state := h.phone_state
  phone := h.phone
  task_state := h.task_state
  task := h.task
  toPc := h.toPc
  toPhone := h.toPhone
  requests := fun number frame hmem ↦
    (h.requests number frame hmem).imp_right fun hrequested ↦ hrequested.append call
  received := by
    intro frame hphase
    obtain ⟨hlength, number, hserving, hrequested⟩ := h.received frame hphase
    exact ⟨hlength, number, hserving, hrequested.append call⟩
  serves := h.serves.append call
  stays := h.stays
  replies := fun asked frame hmem ↦ (h.replies asked frame hmem).append call
  waiting := by simp [hwaiting]

/-- The session of the phone seals what is sent, or uses up a number. -/
theorem start [AeadCorrect] (h : world.Flow p2c c2p) (hwaiting : world.waiting = none)
    (call : ConnectionCall) (sent : Except String Unit) :
    ({ world with called := world.called ++ [call] }.follow world.called.length call
      (call.start world.phone sent)).Flow p2c c2p := by
  have hcalled : (world.called ++ [call])[world.called.length]? = some call :=
    List.getElem?_concat_length ..
  have hbefore := h.append hwaiting call
  have hstarted := call.start_started world.phone sent
  generalize call.start world.phone sent = step at hstarted
  cases hstarted with
  | @waiting message frame later hmessage hadmissible htransmit =>
    have hne := message_ne_error hmessage
    have hkeyed := h.phone.transmitted hne
    rw [htransmit] at hkeyed
    obtain ⟨failure, hfailure⟩ | ⟨frame', later', htransmit', hnumbers⟩ :=
      world.phone.transmit_numbers hne
    · cases hfailure.symm.trans htransmit
    cases htransmit'.symm.trans htransmit
    exact { hbefore with
      phone_state := hnumbers.state.trans h.phone_state
      phone := hkeyed
      toPc := by
        have happend := h.toPc.append hnumbers.number
        rw [← hnumbers.txNext, List.append_assoc, ← List.map_singleton (f := Prod.snd)
          (a := (world.called.length, frame)), ← List.map_append] at happend
        exact happend
      toPhone := by
        change Sequenced _ later.rxNext _ _
        rw [hnumbers.rxNext]
        exact h.toPhone
      requests := by
        intro number other hmem
        obtain hearlier | hnew := List.mem_append.mp hmem
        · exact hbefore.requests number other hearlier
        · cases List.mem_singleton.mp hnew
          exact ⟨hnumbers.length, call, message, hcalled, hmessage, hadmissible,
            h.phone.transmit htransmit⟩
      waiting := by
        intro number other hother
        cases hother
        exact ⟨hcalled, .inl ⟨frame, List.mem_append_right _ (List.mem_singleton_self _)⟩⟩ }
  | @failed later result failure hlater =>
    have hsame : later.state = world.phone.state ∧ later.Keyed p2c c2p ∧
        later.rxNext = world.phone.rxNext ∧ world.phone.txNext ≤ later.txNext := by
      obtain rfl | ⟨message, hmessage, rfl⟩ := hlater
      · exact ⟨rfl, h.phone, rfl, le_rfl⟩
      have hne := message_ne_error hmessage
      refine ⟨?_, h.phone.transmitted hne, ?_⟩
      all_goals
        obtain ⟨failure, hfailure⟩ | ⟨frame, later, htransmit, hnumbers⟩ :=
          world.phone.transmit_numbers hne
      · rw [hfailure]
      · rw [htransmit, hnumbers.state]
      · rw [hfailure]
        exact ⟨rfl, le_rfl⟩
      · rw [htransmit, hnumbers.rxNext, hnumbers.txNext]
        exact ⟨rfl, Nat.le_succ _⟩
    obtain ⟨hstate, hkeyed, hrx, htx⟩ := hsame
    exact { hbefore with
      phone_state := hstate.trans h.phone_state
      phone := hkeyed
      toPc := by
        change Sequenced _ _ later.txNext (_ ++ List.map _ (world.toPc ++ []))
        rw [List.append_nil]
        exact h.toPc.mono htx
      toPhone := by
        change Sequenced _ later.rxNext _ _
        rw [hrx]
        exact h.toPhone
      requests := by
        intro number frame hmem
        exact hbefore.requests number frame (List.append_nil world.toPc ▸ hmem)
      waiting := fun _ _ hother ↦ by cases hother }

/-- A call that waits takes the next frame in, and returns if it is its own answer. -/
theorem receive (h : world.Flow p2c c2p) {number : ℕ} {call : ConnectionCall}
    (hwaiting : world.waiting = some (number, call)) {asked : Option ℕ} {frame : Frame}
    {frames : List (Option ℕ × Frame)} (hframes : world.toPhone = (asked, frame) :: frames)
    (nowMs : UInt64) : ({ world with toPhone := frames }.follow number call
      (call.receive world.phone (.ok frame) nowMs)).Flow p2c c2p := by
  obtain ⟨hcalled, hunder⟩ := h.waiting number call hwaiting
  obtain ⟨number', call', event, rfl, hcalled', hanswers, hdelivers⟩ :=
    h.replies asked frame (hframes ▸ List.mem_cons_self)
  have hsequenced := h.toPhone
  rw [hframes, List.map_cons, List.cons_append] at hsequenced
  obtain ⟨plain, hplain, hemits⟩ := hdelivers.plain
  obtain ⟨later, hstate, hkeyed, htx, hrx, hopened⟩ := h.phone.opened h.phone_state
    hdelivers.encrypted hdelivers.length hplain hsequenced.1 nowMs none
  rw [hemits] at hopened
  obtain ⟨hsession, hwritten⟩ := call.receive_frame world.phone frame nowMs
  rw [hopened] at hsession
  have hown (hsame : number' = number) :
      (call.receive world.phone (.ok frame) nowMs).result ≠ none := by
    subst hsame
    cases hcalled.symm.trans hcalled'
    exact hanswers.settles (by rw [hopened])
  generalize call.receive world.phone (.ok frame) nowMs = step at hsession hwritten hown
  exact { h with
    phone_state := by
      change step.session.state = _
      rw [hsession, hstate]
    phone := by
      change step.session.Keyed _ _
      rwa [hsession]
    toPc := by
      change Sequenced _ _ step.session.txNext
        (_ ++ List.map _ (world.toPc ++ List.map _ step.written))
      rw [hsession, htx, hwritten, List.map_nil, List.append_nil]
      exact h.toPc
    toPhone := by
      change Sequenced _ step.session.rxNext _ _
      rw [hsession, hrx]
      exact hsequenced.2
    requests := by
      intro other request hmem
      change (other, request) ∈ world.toPc ++ List.map _ step.written at hmem
      rw [hwritten, List.map_nil, List.append_nil] at hmem
      exact h.requests other request hmem
    replies := fun asked reply hmem ↦
      h.replies asked reply (hframes ▸ List.mem_cons_of_mem _ hmem)
    waiting := by
      intro other caller hother
      change (if step.result.isNone then some (number, call) else none) = some (other, caller)
        at hother
      split_ifs at hother with hnone
      cases hother
      refine ⟨hcalled, ?_⟩
      obtain ⟨request, hmem⟩ | hserved | ⟨reply, hmem⟩ := hunder
      · exact .inl ⟨request, List.mem_append_left _ hmem⟩
      · exact .inr (.inl hserved)
      · rw [hframes] at hmem
        obtain heq | hmem := List.mem_cons.mp hmem
        · cases heq
          exact absurd (Option.isNone_iff_eq_none.mp hnone) (hown rfl)
        · exact .inr (.inr ⟨reply, hmem⟩) }

/-- A call gives up. -/
theorem fail (h : world.Flow p2c c2p) {number : ℕ} {call : ConnectionCall} (failure : ClientError) :
    (world.follow number call (call.receive world.phone (.error failure) 0)).Flow p2c c2p := by
  obtain ⟨result, -, hstep⟩ := call.receive_failure world.phone failure 0
  rw [hstep]
  exact { h with
    toPc := by
      change Sequenced _ _ _ (_ ++ List.map _ (world.toPc ++ []))
      rw [List.append_nil]
      exact h.toPc
    requests := by
      intro other request hmem
      exact h.requests other request (List.append_nil world.toPc ▸ hmem)
    waiting := fun _ _ hother ↦ by cases hother }

/-! ### The loop -/

/-- The loop goes on, and what it writes answers the call that it serves. -/
theorem move (h : world.Flow p2c c2p) {input : SessionTask.Input} {task : SessionTask}
    {entries : List DriverEntry} (hstep : world.task.step input = task)
    (htrace : task.trace = world.task.trace ++ entries)
    (hstate : task.session.state = .established) (hkeyed : task.session.Keyed c2p p2c)
    (hrx : Sequenced frameNumber task.session.rxNext world.phone.txNext
      (task.taken ++ world.toPc.map Prod.snd))
    (htx : Sequenced frameNumber world.phone.rxNext task.session.txNext
      (world.toPhone.map Prod.snd ++ (writtenFrames entries ++ sentFrames task.pending)))
    (hreceived : ∀ frame, task.phase = .received frame → 8 ≤ frame.payload.length ∧
      ∃ number, world.serving = some number ∧ Requested world.called p2c number frame)
    (hserves : Serves world.called c2p world.serving task.pending)
    (hstays : ∀ ok, task.phase ≠ .returned ok)
    (hreplies : ∀ frame ∈ writtenFrames entries, Reply world.called c2p world.serving frame)
    (hanswered : ∀ number, world.serving = some number → world.task.phase ≠ .acting [] →
      task.phase ≠ .acting [] ∨ writtenFrames entries ≠ []) :
    (world.computer input).Flow p2c c2p := by
  rw [computer_eq hstep htrace]
  exact {
    phone_state := h.phone_state
    phone := h.phone
    task_state := hstate
    task := hkeyed
    toPc := hrx
    toPhone := by
      change Sequenced _ _ _ (List.map _ (world.toPhone ++ List.map _ (writtenFrames entries)) ++ _)
      rw [List.map_append, List.map_map, List.append_assoc]
      rwa [show (Prod.snd ∘ fun frame : Frame ↦ (world.serving, frame)) = id from rfl, List.map_id]
    requests := h.requests
    received := hreceived
    serves := hserves
    stays := hstays
    replies := by
      intro asked frame hmem
      obtain hearlier | hnew := List.mem_append.mp hmem
      · exact h.replies asked frame hearlier
      · obtain ⟨frame', hframe, heq⟩ := List.mem_map.mp hnew
        cases heq
        exact hreplies frame hframe
    waiting := by
      intro number call hwaiting
      obtain ⟨hcalled, hunder⟩ := h.waiting number call hwaiting
      refine ⟨hcalled, ?_⟩
      obtain hrequest | ⟨hserving, hphase⟩ | ⟨reply, hmem⟩ := hunder
      · exact .inl hrequest
      · obtain hgoes | hwritten := hanswered number hserving hphase
        · exact .inr (.inl ⟨hserving, hgoes⟩)
        · obtain ⟨frame, hframe⟩ := List.exists_mem_of_ne_nil _ hwritten
          refine .inr (.inr ⟨frame, List.mem_append_right _ ?_⟩)
          exact List.mem_map.mpr ⟨frame, hframe, by rw [hserving]⟩
      · exact .inr (.inr ⟨reply, List.mem_append_left _ hmem⟩) }

/-- The loop takes the next request. -/
theorem take (h : world.Flow p2c c2p) (hphase : world.task.phase = .acting []) {number : ℕ}
    {frame : Frame} {frames : List (ℕ × Frame)} (hframes : world.toPc = (number, frame) :: frames) :
    ({ world with toPc := frames, serving := some number }.computer (.next (.frame frame))).Flow
      p2c c2p := by
  let taken : ReusedConnection := { world with toPc := frames, serving := some number }
  have hstep : taken.task.step (.next (.frame frame)) = taken.task.next (.frame frame) := by
    rw [SessionTask.step, hphase]
  have hidle := h.toPc
  have hquiet := h.toPhone
  rw [SessionTask.taken, hphase, hframes] at hidle
  rw [SessionTask.pending, hphase] at hquiet
  change (taken.computer _).Flow p2c c2p
  rw [computer_eq hstep rfl]
  exact {
    phone_state := h.phone_state
    phone := h.phone
    task_state := h.task_state
    task := h.task
    toPc := hidle
    toPhone := by
      change Sequenced _ _ _ (List.map _ (world.toPhone ++ []) ++ _)
      rw [List.append_nil]
      exact hquiet
    requests := fun other request hmem ↦
      h.requests other request (hframes ▸ List.mem_cons_of_mem _ hmem)
    received := by
      intro other hother
      cases hother
      obtain ⟨hlength, hrequested⟩ := h.requests number frame (hframes ▸ List.mem_cons_self)
      exact ⟨hlength, number, rfl, hrequested⟩
    serves := .idle
    stays := fun _ ↦ SessionPhase.noConfusion
    replies := fun asked reply hmem ↦ h.replies asked reply (List.append_nil world.toPhone ▸ hmem)
    waiting := by
      intro other call hwaiting
      obtain ⟨hcalled, hunder⟩ := h.waiting other call hwaiting
      refine ⟨hcalled, ?_⟩
      obtain ⟨request, hmem⟩ | ⟨-, hbusy⟩ | ⟨reply, hmem⟩ := hunder
      · rw [hframes] at hmem
        obtain heq | hmem := List.mem_cons.mp hmem
        · cases heq
          exact .inr (.inl ⟨rfl, SessionPhase.noConfusion⟩)
        · exact .inl ⟨request, hmem⟩
      · exact absurd hphase hbusy
      · exact .inr (.inr ⟨reply, List.mem_append_left _ hmem⟩) }

/-- A step the loop is not ready for. -/
theorem still (h : world.Flow p2c c2p) {input : SessionTask.Input}
    (hstep : world.task.step input = world.task) : (world.computer input).Flow p2c c2p :=
  h.move hstep (List.append_nil _).symm h.task_state h.task h.toPc h.toPhone h.received h.serves
    h.stays (by simp [writtenFrames]) fun _ _ ↦ .inl

/-- The loop gets no further frame. -/
theorem hangUp (h : world.Flow p2c c2p) {inbound : Inbound}
    (hnone : ∀ frame, inbound ≠ .frame frame) :
    (world.computer (.next inbound)).task.Leaves ∨ (world.computer (.next inbound)).Flow p2c c2p := by
  have hstep := world.task.step_cases (.next inbound)
  change (world.task.step _).Leaves ∨ _
  generalize htask : world.task.step (.next inbound) = task at hstep
  cases hstep with
  | still => exact .inr (h.still htask)
  | @received frame => exact absurd rfl (hnone frame)
  | ended | failed => exact .inl (.inl ⟨_, rfl⟩)

variable [Ciborium.Lawful] [AeadCorrect]

/-- The session of the loop gets the request that has been taken, if one has. -/
theorem serve (h : world.Flow p2c c2p) (paused : Bool) (nowMs : UInt64) (seed : Option Key32) :
    (world.computer (.onFrame paused nowMs seed)).task.Leaves ∨
      (world.computer (.onFrame paused nowMs seed)).Flow p2c c2p := by
  rcases hphase : world.task.phase with frame | actions | ok
  case acting => exact .inr (h.still (by rw [SessionTask.step, hphase]))
  case returned => exact absurd hphase (h.stays ok)
  obtain ⟨hlength, number, hserving, call, message, hcalled, hmessage, hadmissible, hcarries⟩ :=
    h.received frame hphase
  obtain ⟨plain, hpayload, hplain⟩ := hcarries.plain
  have hsequenced := h.toPc
  rw [SessionTask.taken, hphase] at hsequenced
  have hpaused : (world.task.session.setPaused paused).Keyed c2p p2c :=
    h.task.perform (.setPaused paused)
  obtain ⟨opened, hstate, hkeyed, htx, hrx, hopened⟩ := hpaused.opened h.task_state
    (by rw [hcarries.ty]; exact message.ty_encrypted) hlength hplain hsequenced.1 nowMs seed
  rw [hcarries.ty] at hopened
  have hstep : world.task.step (.onFrame paused nowMs seed) =
      world.task.onFrame frame paused nowMs seed := by rw [SessionTask.step, hphase]
  have hactions : (world.task.onFrame frame paused nowMs seed).pending =
      (opened.onPlain message.ty plain).2 := congrArg Prod.snd hopened
  have hsession : (world.task.onFrame frame paused nowMs seed).session =
      (opened.onPlain message.ty plain).1 := congrArg Prod.fst hopened
  have htxNext : opened.txNext = world.task.session.txNext := htx
  obtain ⟨why, hcloses⟩ | ⟨event, hpulled, hevents, hpull⟩ |
    ⟨clip, ack, later, event, harrived, hnumbers, hlater, hanswers, hdelivers⟩ :=
    hkeyed.onPlain_request hmessage hadmissible hpayload
  · refine .inl (.inr ⟨why, ?_⟩)
    change _ ∈ (world.task.step _).pending
    rwa [hstep, hactions]
  · rw [hpull] at hactions hsession
    refine .inr (h.move hstep rfl ?_ ?_ ?_ ?_ (fun _ ↦ SessionPhase.noConfusion) ?_
      (fun _ ↦ SessionPhase.noConfusion) (by simp [writtenFrames]) fun _ _ _ ↦ .inl ?_)
    · rw [hsession, hstate]
    · rwa [hsession]
    · rw [hsession, hrx]
      exact hsequenced.2
    · rw [hsession, hactions, htxNext]
      have hidle := h.toPhone
      rw [SessionTask.pending, hphase] at hidle
      exact hidle
    · rw [hactions]
      exact .pull hserving hcalled hmessage hpulled hevents
    · change SessionPhase.acting (world.task.onFrame frame paused nowMs seed).pending ≠ _
      rw [hactions]
      simp
  · rw [harrived] at hactions hsession
    refine .inr (h.move hstep rfl ?_ ?_ ?_ ?_ (fun _ ↦ SessionPhase.noConfusion) ?_
      (fun _ ↦ SessionPhase.noConfusion) (by simp [writtenFrames]) fun _ _ _ ↦ .inl ?_)
    · rw [hsession, hnumbers.state, hstate]
    · rwa [hsession]
    · rw [hsession, hnumbers.rxNext, hrx]
      exact hsequenced.2
    · have hidle := h.toPhone
      rw [SessionTask.pending, hphase, ← htxNext] at hidle
      rw [hsession, hactions, hnumbers.txNext]
      have hacked := hidle.append hnumbers.number
      rwa [List.append_assoc] at hacked
    · rw [hactions]
      exact .arrived clip ⟨number, call, event, hserving, hcalled, hanswers, hdelivers⟩
    · change SessionPhase.acting (world.task.onFrame frame paused nowMs seed).pending ≠ _
      rw [hactions]
      simp

/-- The loop writes the answer of the ring to the request that it serves. -/
theorem answer (h : world.Flow p2c c2p) {event : SessionEvent} {rest : List SessionAction}
    (hphase : world.task.phase = .acting (.emit event :: rest)) {reply : Frame}
    (hreply : (handleEvent event world.task.session world.stage world.task.connectedId).reply =
      .ok (some reply)) : (world.computer (.act world.stage true)).Flow p2c c2p := by
  have hstep : world.task.step (.act world.stage true) =
      (world.task.onEvent event world.stage rest).note (.wrote reply) := by
    simp only [SessionTask.step, hphase, SessionTask.carryOut, hreply, SessionTask.write, if_true]
  have hserves := h.serves
  have hsequenced := h.toPhone
  rw [SessionTask.pending, hphase] at hserves hsequenced
  cases hserves with
  | greeting | arrived => cases hreply
  | @pull number call request _ hserving hcalled hrequest hpulled hevents =>
    obtain ⟨answer, event', hanswer, hevents', hanswers⟩ :=
      exists_answer hrequest hpulled hevents world.stage
    have hpulled' : answer.Pulled := StageRing.answer_pulled hanswer
    have hhandled := handleEvent_answer hanswer world.task.session world.task.connectedId
    have hne (code : WireErrorCode) (msg : String) : answer ≠ .error code msg := by
      rintro rfl
      exact hpulled'
    have hlater := h.task.transmitted hne
    rw [hhandled] at hreply
    obtain ⟨failure, hfailure⟩ | ⟨frame, later, htransmit, hnumbers⟩ :=
      world.task.session.transmit_numbers hne
    · rw [hfailure] at hreply
      cases hreply
    rw [htransmit] at hreply hlater
    cases hreply
    have hsession : (world.task.onEvent event world.stage []).session = later := by
      change (handleEvent _ _ _ _).session = _
      rw [hhandled, htransmit]
    refine h.move hstep (List.append_assoc ..) (hsession ▸ hnumbers.state.trans h.task_state)
      (hsession ▸ hlater) ?_ ?_ (fun _ ↦ SessionPhase.noConfusion) .idle
      (fun _ ↦ SessionPhase.noConfusion) ?_ fun _ _ _ ↦ .inr (by simp [writtenFrames])
    · change Sequenced _ (world.task.onEvent event world.stage []).session.rxNext _ _
      rw [hsession, hnumbers.rxNext]
      have hidle := h.toPc
      rwa [SessionTask.taken, hphase] at hidle
    · change Sequenced _ _ (world.task.onEvent event world.stage []).session.txNext _
      rw [hsession, hnumbers.txNext]
      have hanswered := hsequenced.append hnumbers.number
      rwa [List.append_assoc] at hanswered
    · intro other hother
      cases List.mem_singleton.mp hother
      exact ⟨number, call, event', hserving, hcalled, hanswers,
        h.task.delivers hpulled' hevents' htransmit hnumbers⟩

/-- The loop carries out an action. -/
theorem act (h : world.Flow p2c c2p) (works : Bool) :
    (world.computer (.act world.stage works)).task.Leaves ∨
      (world.computer (.act world.stage works)).Flow p2c c2p := by
  have hstep := world.task.step_cases (.act world.stage works)
  have hserves := h.serves
  have hsequenced := h.toPhone
  have htaken := h.toPc
  rw [SessionTask.pending] at hserves hsequenced
  rw [SessionTask.taken] at htaken
  change (world.task.step _).Leaves ∨ _
  generalize htask : world.task.step (.act world.stage works) = task at hstep
  cases hstep with
  | still => exact .inr (h.still htask)
  | sent hphase =>
    rw [hphase] at hserves hsequenced htaken
    cases hserves with
    | acknowledging hreply =>
      refine .inr (h.move htask rfl h.task_state h.task htaken hsequenced
        (fun _ ↦ SessionPhase.noConfusion) .idle (fun _ ↦ SessionPhase.noConfusion) ?_
        fun _ _ _ ↦ .inr (by simp [writtenFrames]))
      intro frame hframe
      cases List.mem_singleton.mp hframe
      exact hreply
  | handled hphase hnone =>
    rw [hphase] at hserves hsequenced htaken
    cases hserves with
    | greeting peer hserving =>
      refine .inr (h.move htask rfl h.task_state h.task htaken hsequenced
        (fun _ ↦ SessionPhase.noConfusion) .idle (fun _ ↦ SessionPhase.noConfusion)
        (by simp [writtenFrames]) fun number hnumber ↦ ?_)
      cases hserving.symm.trans hnumber
    | arrived clip hreply =>
      exact .inr (h.move htask rfl h.task_state h.task htaken hsequenced
        (fun _ ↦ SessionPhase.noConfusion) (.acknowledging hreply) (fun _ ↦ SessionPhase.noConfusion)
        (by simp [writtenFrames]) fun _ _ _ ↦ .inl (by simp [SessionTask.onEvent, SessionTask.note]))
    | pull hserving hcalled hrequest hpulled hevents =>
      obtain ⟨answer, -, hanswer, -⟩ := exists_answer hrequest hpulled hevents world.stage
      rw [handleEvent_answer hanswer] at hnone
      generalize (world.task.session.transmit answer).1 = reply at hnone
      cases reply <;> cases hnone
  | answered hphase hreply => exact .inr (h.answer hphase hreply)
  | closed hphase =>
    rw [hphase] at hserves
    cases hserves
  | unsent | unbuilt | unanswered => exact .inl (.inl ⟨_, rfl⟩)

end Flow

/-! ## Every run -/

/-- The loop leaves, or the connection works. -/
def Answering (p2c c2p : Key32) (world : ReusedConnection) : Prop :=
  world.task.Leaves ∨ world.Flow p2c c2p

variable [Ciborium.Lawful] [AeadCorrect]

theorem Answering.step {p2c c2p : Key32} {world : ReusedConnection} (h : world.Answering p2c c2p)
    (input : ReuseInput) : (world.step input).Answering p2c c2p := by
  have hstep := world.step_cases input
  generalize world.step input = later at hstep
  obtain hleaves | h := h
  · cases hstep with
    | still | called | received | failed | ring => exact .inl hleaves
    | taken | served | acted | hungUp => exact .inl (hleaves.step _)
  cases hstep with
  | still => exact .inr h
  | called hwaiting => exact .inr (h.start hwaiting _ _)
  | received hwaiting hframes => exact .inr (h.receive hwaiting hframes _)
  | failed => exact .inr (h.fail _)
  | ring => exact .inr { h with }
  | taken hphase hframes => exact .inr (h.take hphase hframes)
  | served => exact h.serve _ _ _
  | acted => exact h.act _
  | @hungUp ok => exact h.hangUp (by cases ok <;> simp)

/-! ## Going on -/

/-- The phone and the loop go on, and nothing fails. -/
inductive Proceeds : ReuseInput → Prop
  | receive (nowMs : UInt64) : Proceeds (.receive nowMs)
  | take : Proceeds .take
  | serve (paused : Bool) (nowMs : UInt64) (seed : Option Key32) :
      Proceeds (.serve paused nowMs seed)
  | act : Proceeds (.act true)

/-- A bound on the steps that are left where the loop stands: two actions for each frame at most, and one
frame written for each action. -/
def phaseLeft : SessionPhase → ℕ
  | .received _ => 6
  | .acting actions => 2 * actions.length
  | .returned _ => 0

/-- A bound on the steps that are left until nothing is under way. -/
def left (world : ReusedConnection) : ℕ :=
  8 * world.toPc.length + phaseLeft world.task.phase + world.toPhone.length

omit [Ciborium.Lawful] [AeadCorrect] in
theorem left_computer {world : ReusedConnection} {input : SessionTask.Input} {task : SessionTask}
    {entries : List DriverEntry} (hstep : world.task.step input = task)
    (htrace : task.trace = world.task.trace ++ entries) : (world.computer input).left =
      8 * world.toPc.length + phaseLeft task.phase +
        (world.toPhone.length + (writtenFrames entries).length) := by
  rw [computer_eq hstep htrace, left, List.length_append, List.length_map]

omit [Ciborium.Lawful] [AeadCorrect] in
/-- Carrying out an action writes one frame at most. -/
theorem left_carryOut (task : SessionTask) (stage : StageRing) (rest : List SessionAction)
    (action : SessionAction) : ∃ entries,
      (task.carryOut stage true rest action).trace = task.trace ++ entries ∧
        phaseLeft (task.carryOut stage true rest action).phase + (writtenFrames entries).length ≤
          2 * rest.length + 1 := by
  cases action with
  | send frame => exact ⟨[.wrote frame], rfl, le_rfl⟩
  | emit event =>
    rw [SessionTask.carryOut]
    split
    · exact ⟨[.handled event, .returned], List.append_assoc .., Nat.zero_le _⟩
    · exact ⟨[.handled event], rfl, Nat.le_succ _⟩
    · next reply _ => exact ⟨[.handled event, .wrote reply], List.append_assoc .., le_rfl⟩
  | close why => exact ⟨[.closing, .returned], List.append_assoc .., Nat.zero_le _⟩

omit [Ciborium.Lawful] [AeadCorrect] in
/-- Handing a frame to the session leaves two actions at most. -/
theorem Flow.left_serve {p2c c2p : Key32} {world : ReusedConnection} (h : world.Flow p2c c2p)
    {frame : Frame} (hphase : world.task.phase = .received frame) (paused : Bool) (nowMs : UInt64)
    (seed : Option Key32) : (world.computer (.onFrame paused nowMs seed)).left < world.left := by
  have hpaused := h.task.perform (.setPaused paused)
  have hbatch := (Session.batch_onFrame hpaused.coherent frame nowMs seed).length_le
  have hstep : world.task.step (.onFrame paused nowMs seed) =
      world.task.onFrame frame paused nowMs seed := by rw [SessionTask.step, hphase]
  have hleft : phaseLeft (world.task.onFrame frame paused nowMs seed).phase ≤ 4 :=
    Nat.mul_le_mul_left 2 hbatch
  rw [left_computer hstep rfl, left, hphase, phaseLeft]
  change _ + _ + (_ + 0) < _
  omega

/-- Where a call waits, the connection can go on, unless the loop has returned. -/
theorem Answering.progress {p2c c2p : Key32} {world : ReusedConnection}
    (h : world.Answering p2c c2p) :
    (world.waiting = none ∨ ∃ ok, world.task.phase = .returned ok) ∨
      ∃ input, Proceeds input ∧ (world.step input).Answering p2c c2p ∧
        (world.step input).left < world.left := by
  rcases hwaiting : world.waiting with - | ⟨number, call⟩
  · exact .inl (.inl rfl)
  have hstays (hnone : ∀ why, .close why ∉ world.task.pending)
      (hphase : ∀ ok, world.task.phase ≠ .returned ok) : world.Flow p2c c2p :=
    h.resolve_left fun hleaves ↦ hleaves.elim (fun ⟨ok, heq⟩ ↦ hphase ok heq)
      fun ⟨why, hmem⟩ ↦ hnone why hmem
  rcases hphase : world.task.phase with frame | actions | ok
  case returned => exact .inl (.inr ⟨ok, rfl⟩)
  case received =>
    have hflow := hstays (by simp [SessionTask.pending, hphase]) (by simp [hphase])
    exact .inr ⟨.serve false 0 none, .serve .., h.step _, hflow.left_serve hphase false 0 none⟩
  cases actions with
  | cons action rest =>
    refine .inr ⟨.act true, .act, h.step _, ?_⟩
    have hstep : world.task.step (.act world.stage true) =
        world.task.carryOut world.stage true rest action := by rw [SessionTask.step, hphase]
    obtain ⟨entries, htrace, hleft⟩ := left_carryOut world.task world.stage rest action
    change (world.computer _).left < _
    rw [left_computer hstep htrace, left, hphase, phaseLeft, List.length_cons]
    omega
  | nil =>
    have hflow := hstays (by simp [SessionTask.pending, hphase]) (by simp [hphase])
    obtain ⟨request, hmem⟩ | ⟨-, hbusy⟩ | ⟨reply, hmem⟩ := (hflow.waiting number call hwaiting).2
    · refine .inr ⟨.take, .take, h.step _, ?_⟩
      obtain ⟨⟨asking, frame⟩, frames, hframes⟩ :=
        List.exists_cons_of_ne_nil (List.ne_nil_of_mem hmem)
      let taken : ReusedConnection := { world with toPc := frames, serving := some asking }
      have hstep : taken.task.step (.next (.frame frame)) = taken.task.next (.frame frame) := by
        rw [SessionTask.step, hphase]
      simp only [ReusedConnection.step, hphase, hframes]
      change (taken.computer _).left < _
      rw [left_computer hstep rfl, left, hphase, hframes, List.length_cons]
      change 8 * frames.length + 6 + world.toPhone.length < _ + 0 + world.toPhone.length
      omega
    · exact absurd hphase hbusy
    · refine .inr ⟨.receive 0, .receive 0, h.step _, ?_⟩
      obtain ⟨⟨asked, frame⟩, frames, hframes⟩ :=
        List.exists_cons_of_ne_nil (List.ne_nil_of_mem hmem)
      obtain ⟨-, hwritten⟩ := call.receive_frame world.phone frame 0
      simp only [ReusedConnection.step, hwaiting, hframes, follow, left, hwritten, List.map_nil,
        List.append_nil, List.length_cons]
      omega

/-! ## Every call -/

/-- The two ends once both are established, before any call: the loop has at most to report the phone
as connected. -/
structure Ready (phone : Session) (task : SessionTask) : Prop where
  mirrored : phone.Mirrored task.session
  phase : task.phase = .acting [] ∨ ∃ peer, task.phase = .acting [.emit (.established peer)]

omit [Ciborium.Lawful] [AeadCorrect] in
theorem Ready.flow {phone : Session} {task : SessionTask} (h : Ready phone task) :
    ∃ p2c c2p, (start phone task).Flow p2c c2p := by
  obtain ⟨channel, channel', hchannel, hchannel', hforth, hback⟩ := h.mirrored.channels
  refine ⟨channel.tx.key, channel.rx.key, ?_⟩
  have hpending : Serves [] channel.rx.key none task.pending ∧ task.taken = [] ∧
      sentFrames task.pending = [] ∧ (∀ frame, task.phase ≠ .received frame) ∧
      ∀ ok, task.phase ≠ .returned ok := by
    rw [SessionTask.pending, SessionTask.taken]
    obtain hphase | ⟨peer, hphase⟩ := h.phase <;> rw [hphase]
    · exact ⟨.idle, rfl, rfl, by simp, by simp⟩
    · exact ⟨.greeting peer rfl, rfl, rfl, by simp, by simp⟩
  obtain ⟨hserves, htaken, hsent, hreceived, hstays⟩ := hpending
  exact {
    phone_state := h.mirrored.left_state
    phone := ⟨.inl h.mirrored.left_state, channel, hchannel, rfl, rfl⟩
    task_state := h.mirrored.right_state
    task := ⟨.inl h.mirrored.right_state, channel', hchannel', hback.key, hforth.key.symm⟩
    toPc := by
      change Sequenced _ task.session.rxNext phone.txNext (task.taken ++ [])
      rw [htaken, Session.rxNext_eq hchannel', Session.txNext_eq hchannel]
      exact hforth.fresh
    toPhone := by
      change Sequenced _ phone.rxNext task.session.txNext ([] ++ sentFrames task.pending)
      rw [hsent, Session.rxNext_eq hchannel, Session.txNext_eq hchannel']
      exact hback.fresh
    requests := fun _ _ hmem ↦ by cases hmem
    received := fun frame hphase ↦ absurd hphase (hreceived frame)
    serves := hserves
    stays := hstays
    replies := fun _ _ hmem ↦ by cases hmem
    waiting := fun _ _ hwaiting ↦ by cases hwaiting }

/-- Whatever calls are made and given up, however late the loop answers and whatever fails: where a call
waits, its request or its answer is under way, unless the loop leaves.  From there on the phone and the
loop only have to go on, for a bounded number of steps, until no call waits or the loop has returned. -/
theorem calls_return {phone : Session} {task : SessionTask} (hready : Ready phone task)
    (inputs : List ReuseInput) :
    (∀ number call, ((start phone task).run inputs).waiting = some (number, call) →
      ((start phone task).run inputs).task.Leaves ∨
        ((start phone task).run inputs).UnderWay number) ∧
    ∃ more : List ReuseInput, (∀ input ∈ more, Proceeds input) ∧
      more.length ≤ ((start phone task).run inputs).left ∧
      (((start phone task).run (inputs ++ more)).waiting = none ∨
        ∃ ok, ((start phone task).run (inputs ++ more)).task.phase = .returned ok) := by
  obtain ⟨p2c, c2p, hflow⟩ := hready.flow
  have hrun : ((start phone task).run inputs).Answering p2c c2p :=
    foldl_invariant (fun _ input _ h ↦ h.step input) (.inr hflow)
  refine ⟨fun number call hwaiting ↦ hrun.imp_right fun h ↦ (h.waiting number call hwaiting).2, ?_⟩
  obtain ⟨more, hmore, hlength, hgoal⟩ := exists_foldl_of_progress (fun world h ↦ h.progress) hrun
  refine ⟨more, hmore, hlength, ?_⟩
  rw [run, List.foldl_append]
  exact hgoal

end ReusedConnection

end Answers

namespace Reference

theorem ready : ReusedConnection.Ready phoneSession serving :=
  ⟨mirrored, .inl (by decide +kernel)⟩

/-- A listing is given up before the loop takes its request, and another one begins. -/
def abandoned : List ReuseInput :=
  [.call .stageList (.ok ()), .fail .timedOut, .call (.stageItem (pad 8 [1])) (.ok ())]

end Reference

open Reference in
/-- The call that waits after a call that has been given up. -/
theorem calls_return_abandoned :
    let world := (ReusedConnection.start phoneSession serving).run abandoned
    world.waiting.isSome ∧ ∃ more : List ReuseInput,
      (∀ input ∈ more, ReusedConnection.Proceeds input) ∧ more.length ≤ world.left ∧
        ((world.run more).waiting = none ∨ ∃ ok, (world.run more).task.phase = .returned ok) := by
  obtain ⟨-, more, hmore, hlength, hgoal⟩ := ReusedConnection.calls_return ready abandoned
  refine ⟨by decide +kernel, more, hmore, hlength, ?_⟩
  rwa [ReusedConnection.run, List.foldl_append] at hgoal

end AirClip
