import AirClip.Foundation.Runs
import AirClip.Traffic.CarriedMessages
import AirClip.Traffic.StagedPull

/-!
# A connection that is used again

Calls on one connection, one after the other, against an honest computer: its loop takes the requests in
order, answers each whenever it likes, and its ring changes in between.  A call gives up when it has
waited too long, and its reply is still under way when the next call begins.  Replies to a request for
the list carry nothing that names the request, so a list that is left over is taken for the answer to
the next call.
-/

open Foundation Cbor

namespace AirClip

/-! ## Calls -/

/-- A call on a connection.  No string outgrows the address space. -/
inductive ConnectionCall where
  | beam (contentType : ContentType) (body : Bytes) (sourceName : String)
      (hname : (utf8 sourceName).length < 2 ^ 64) (nowMs : UInt64) (randomId : Option (Octets 8))
  | stageList
  | stageItem (stageId : Octets 8)

/-- What a call returns. -/
inductive CallResult where
  | beam (result : Except ClientError (Octets 8))
  | stageList (result : Except ClientError (List StageMeta))
  | stageItem (result : Except ClientError (ContentType × Bytes))
deriving DecidableEq

/-- The error a call returns. -/
def CallResult.failure : CallResult → Option ClientError
  | .beam (.error failure) | .stageList (.error failure) | .stageItem (.error failure) => some failure
  | _ => none

/-- The call has failed, and not because an item is gone. -/
structure CallResult.Failed (result : CallResult) : Prop where
  failure : result.failure.isSome
  gone : result ≠ .stageItem (.error (.rejected noLongerStaged))

theorem CallResult.Failed.of_failure {result : CallResult} {failure : ClientError}
    (hfailure : result.failure = some failure) (hnot : failure ≠ .rejected noLongerStaged) :
    result.Failed := by
  refine ⟨by rw [hfailure]; rfl, ?_⟩
  rintro rfl
  exact hnot (Option.some.inj hfailure).symm

/-- How waiting for a frame can fail. -/
inductive RecvFailure where
  | timedOut
  | closed
  /-- A decoding or I/O error with its text. -/
  | broken (text : String)

def RecvFailure.error : RecvFailure → ClientError
  | .timedOut => .timedOut
  | .closed => .rejected "peer closed the connection"
  | .broken text => .protocol text

theorem RecvFailure.error_ne (failure : RecvFailure) :
    failure.error ≠ .rejected noLongerStaged := by
  cases failure <;> simp [RecvFailure.error, noLongerStaged]

/-- The frames among the entries of a driver. -/
def writtenFrames (trace : List DriverEntry) : List Frame :=
  trace.filterMap fun
    | .wrote frame => some frame
    | _ => none

/-- The events among the entries of a driver. -/
def handledEvents (trace : List DriverEntry) : List SessionEvent :=
  trace.filterMap fun
    | .handled event => some event
    | _ => none

section Calls

variable [Primitives] [Ciborium]

/-- What a call has come to: the session, the frames it has written, and its result when it has one. -/
structure CallStep where
  session : Session
  written : List Frame
  result : Option CallResult

def Exchange.callStep {α : Type} (exchange : Exchange α) (wrap : Except ClientError α → CallResult) :
    CallStep :=
  ⟨exchange.session, writtenFrames exchange.trace, exchange.result.map wrap⟩

namespace ConnectionCall

/-- The message a call requests something with. -/
def message : ConnectionCall → Option Message
  | .beam contentType body sourceName _ nowMs (some clipId) =>
    some (.clipPush clipId contentType body sourceName nowMs)
  | .beam _ _ _ _ _ none => none
  | .stageList => some .stageListReq
  | .stageItem stageId => some (.stageGet stageId)

/-- A call up to its first wait. -/
def start (call : ConnectionCall) (session : Session) (sent : Except String Unit) : CallStep :=
  match call with
  | .beam contentType body sourceName _ nowMs randomId =>
    (Connection.beam session contentType body sourceName nowMs randomId sent []).callStep .beam
  | .stageList => (Connection.stageList session sent []).callStep .stageList
  | .stageItem stageId => (Connection.stageItem session stageId sent []).callStep .stageItem

/-- One round of a call that waits. -/
def receive (call : ConnectionCall) (session : Session) (reply : Except ClientError Frame)
    (nowMs : UInt64) : CallStep :=
  match call with
  | .beam _ _ _ _ _ randomId =>
    -- A beam that waits has drawn its id.
    let settles := randomId.elim (fun _ ↦ none) Connection.beamSettles
    (Exchange.receive settles ⟨session, none, []⟩ reply nowMs).callStep .beam
  | .stageList =>
    (Exchange.receive Connection.stageListSettles ⟨session, none, []⟩ reply nowMs).callStep .stageList
  | .stageItem stageId =>
    (Exchange.receive (Connection.stageItemSettles stageId) ⟨session, none, []⟩ reply
      nowMs).callStep .stageItem

/-- The call is for the list or for an item. -/
def IsStage : ConnectionCall → Prop
  | .beam .. => False
  | _ => True

/-- What the operation of the connection has come to after some replies. -/
def operation (call : ConnectionCall) (session : Session) (sent : Except String Unit)
    (replies : List (Except ClientError Frame × UInt64)) : Session × Option CallResult :=
  match call with
  | .beam contentType body sourceName _ nowMs randomId =>
    let exchange := Connection.beam session contentType body sourceName nowMs randomId sent replies
    (exchange.session, exchange.result.map .beam)
  | .stageList =>
    let exchange := Connection.stageList session sent replies
    (exchange.session, exchange.result.map .stageList)
  | .stageItem stageId =>
    let exchange := Connection.stageItem session stageId sent replies
    (exchange.session, exchange.result.map .stageItem)

end ConnectionCall

/-! ## Calls are operations -/

/-- What an operation does in a round depends on its session alone, while it waits. -/
theorem Exchange.receive_waiting {α : Type} (settles : Settles α) {exchange : Exchange α}
    (hresult : exchange.result = none) (reply : Except ClientError Frame) (nowMs : UInt64) :
    (exchange.receive settles reply nowMs).session =
        (Exchange.receive settles ⟨exchange.session, none, []⟩ reply nowMs).session ∧
      (exchange.receive settles reply nowMs).result =
        (Exchange.receive settles ⟨exchange.session, none, []⟩ reply nowMs).result := by
  cases reply with
  | error failure =>
    simp only [Exchange.receive, hresult]
    exact ⟨rfl, rfl⟩
  | ok frame =>
    have hround := Exchange.receive_ok settles hresult frame nowMs
    have hagain := Exchange.receive_ok settles
      (rfl : (⟨exchange.session, none, []⟩ : Exchange α).result = none) frame nowMs
    exact ⟨hround.1.trans hagain.1.symm, hround.2.trans hagain.2.symm⟩

/-- A beam has failed before it waits, or it waits for the acknowledgement of the id it has drawn. -/
theorem Connection.beam_cases (session : Session) (contentType : ContentType) (body : Bytes)
    (sourceName : String) (nowMs : UInt64) (randomId : Option (Octets 8))
    (sent : Except String Unit) :
    (∃ exchange : Exchange (Octets 8), exchange.result ≠ none ∧ ∀ replies,
      Connection.beam session contentType body sourceName nowMs randomId sent replies = exchange) ∨
    ∃ clipId exchange, randomId = some clipId ∧ ∀ replies,
      Connection.beam session contentType body sourceName nowMs randomId sent replies =
        Exchange.receiveAll (beamSettles clipId) exchange replies := by
  unfold Connection.beam beamRequest Session.pushClip
  split_ifs
  · exact .inl ⟨_, by simp, fun _ ↦ rfl⟩
  cases randomId with
  | none => exact .inl ⟨_, by simp, fun _ ↦ rfl⟩
  | some clipId =>
    dsimp only
    generalize session.pushClipWithId clipId contentType body sourceName nowMs = result
    obtain ⟨failure | frame, later⟩ := result
    · exact .inl ⟨_, by simp, fun _ ↦ rfl⟩
    · exact .inr ⟨clipId, _, rfl, fun _ ↦ rfl⟩

namespace ConnectionCall

theorem start_operation (call : ConnectionCall) (session : Session) (sent : Except String Unit) :
    call.operation session sent [] =
      ((call.start session sent).session, (call.start session sent).result) := by
  cases call <;> rfl

/-- A round of a call that waits is a round of its operation. -/
theorem receiveAll_snoc_waiting {α : Type} {settles : Settles α}
    {wrap : Except ClientError α → CallResult} {exchange : Exchange α}
    {replies : List (Except ClientError Frame × UInt64)} {later : Session}
    (hwaits : ((exchange.receiveAll settles replies).session,
      (exchange.receiveAll settles replies).result.map wrap) = (later, none))
    (reply : Except ClientError Frame × UInt64) :
    ((exchange.receiveAll settles (replies ++ [reply])).session,
        (exchange.receiveAll settles (replies ++ [reply])).result.map wrap) =
      (((Exchange.receive settles ⟨later, none, []⟩ reply.1 reply.2).callStep wrap).session,
        ((Exchange.receive settles ⟨later, none, []⟩ reply.1 reply.2).callStep wrap).result) := by
  obtain ⟨hsession, hresult⟩ := Prod.mk.inj hwaits
  obtain ⟨hsame, hsettled⟩ := Exchange.receive_waiting settles
    (Option.map_eq_none_iff.mp hresult) reply.1 reply.2
  rw [Exchange.receiveAll_snoc, hsame, hsettled, hsession]
  rfl

/-- Each reply that reaches an operation while it waits is a round of the call. -/
theorem receive_operation {call : ConnectionCall} {session : Session} {sent : Except String Unit}
    {replies : List (Except ClientError Frame × UInt64)} {later : Session}
    (hwaits : call.operation session sent replies = (later, none))
    (reply : Except ClientError Frame × UInt64) :
    call.operation session sent (replies ++ [reply]) =
      ((call.receive later reply.1 reply.2).session, (call.receive later reply.1 reply.2).result) := by
  cases call with
  | beam contentType body sourceName hname nowMs randomId =>
    change ((Connection.beam ..).session, (Connection.beam ..).result.map _) = _ at hwaits ⊢
    obtain ⟨exchange, hresult, hbeam⟩ | ⟨clipId, exchange, rfl, hbeam⟩ := Connection.beam_cases
      session contentType body sourceName nowMs randomId sent
    · rw [hbeam] at hwaits
      exact absurd (Option.map_eq_none_iff.mp (Prod.mk.inj hwaits).2) hresult
    · rw [hbeam] at hwaits ⊢
      exact receiveAll_snoc_waiting hwaits reply
  | stageList =>
    change ((Connection.stageList ..).session, (Connection.stageList ..).result.map _) = _
      at hwaits ⊢
    unfold Connection.stageList at hwaits ⊢
    generalize session.requestStageList = request at hwaits ⊢
    obtain ⟨failure | frame, requested⟩ := request
    · cases (Prod.mk.inj hwaits).2
    · exact receiveAll_snoc_waiting hwaits reply
  | stageItem stageId =>
    change ((Connection.stageItem ..).session, (Connection.stageItem ..).result.map _) = _
      at hwaits ⊢
    unfold Connection.stageItem at hwaits ⊢
    generalize session.requestStageItem stageId = request at hwaits ⊢
    obtain ⟨failure | frame, requested⟩ := request
    · cases (Prod.mk.inj hwaits).2
    · exact receiveAll_snoc_waiting hwaits reply

end ConnectionCall

/-! ## What a call does -/

namespace ConnectionCall

/-- What a call has come to at its first wait. -/
inductive Started (call : ConnectionCall) (session : Session) : CallStep → Prop
  /-- Its request has been written. -/
  | waiting {message : Message} {frame : Frame} {later : Session}
      (hmessage : call.message = some message) (hadmissible : message.Admissible)
      (htransmit : session.transmit message = (.ok frame, later)) :
      Started call session ⟨later, [frame], none⟩
  | failed {later : Session} {result : CallResult} {failure : ClientError}
      (hlater : later = session ∨ ∃ message, call.message = some message ∧
        later = (session.transmit message).2)
      (hfailure : result.failure = some failure) (hnot : failure ≠ .rejected noLongerStaged) :
      Started call session ⟨later, [], some result⟩

section Requests

variable {call : ConnectionCall} {session later : Session} {message : Message} {α : Type}
  {wrap : Except ClientError α → CallResult}

/-- The request cannot be built. -/
theorem Started.unbuilt (hmessage : call.message = some message)
    (hwrap : ∀ failure, (wrap (.error failure)).failure = some failure) {failure : Error}
    (htransmit : session.transmit message = (.error failure, later)) :
    call.Started session ((Exchange.failed later (.ofError failure) []).callStep wrap) :=
  .failed (.inr ⟨message, hmessage, by rw [htransmit]; rfl⟩) (hwrap _)
    (by simp [ClientError.ofError])

/-- The request is written, or an I/O error is returned. -/
theorem Started.request (hmessage : call.message = some message) (hadmissible : message.Admissible)
    (hwrap : ∀ failure, (wrap (.error failure)).failure = some failure) {frame : Frame}
    (htransmit : session.transmit message = (.ok frame, later)) (sent : Except String Unit) :
    call.Started session ((Exchange.request later frame sent).callStep wrap) := by
  cases sent with
  | ok => exact .waiting hmessage hadmissible htransmit
  | error text =>
    exact .failed (.inr ⟨message, hmessage, by rw [htransmit]; rfl⟩) (hwrap _) (by simp)

end Requests

theorem start_started (call : ConnectionCall) (session : Session) (sent : Except String Unit) :
    call.Started session (call.start session sent) := by
  cases call with
  | beam contentType body sourceName hname nowMs randomId =>
    change Started _ _ ((Connection.beam ..).callStep _)
    unfold Connection.beam Connection.beamRequest Session.pushClip
    split_ifs with hlarge
    · exact .failed (.inl rfl) rfl (by simp)
    cases randomId with
    | none => exact .failed (.inl rfl) rfl (by simp [ClientError.ofError])
    | some clipId =>
      have hmessage : (ConnectionCall.beam contentType body sourceName hname nowMs
          (some clipId)).message =
            some (.clipPush clipId contentType body sourceName nowMs) := rfl
      dsimp only
      rcases htransmit : session.pushClipWithId clipId contentType body sourceName nowMs with
        ⟨failure | frame, later⟩
      · exact .unbuilt hmessage (fun _ ↦ rfl) htransmit
      · exact .request hmessage ⟨not_lt.mp hlarge, hname⟩ (fun _ ↦ rfl) htransmit sent
  | stageList =>
    have hmessage : ConnectionCall.stageList.message = some .stageListReq := rfl
    change Started _ _ ((Connection.stageList ..).callStep _)
    unfold Connection.stageList
    rcases htransmit : session.requestStageList with ⟨failure | frame, later⟩
    · exact .unbuilt hmessage (fun _ ↦ rfl) htransmit
    · exact .request hmessage trivial (fun _ ↦ rfl) htransmit sent
  | stageItem stageId =>
    have hmessage : (ConnectionCall.stageItem stageId).message = some (.stageGet stageId) := rfl
    change Started _ _ ((Connection.stageItem ..).callStep _)
    unfold Connection.stageItem
    rcases htransmit : session.requestStageItem stageId with ⟨failure | frame, later⟩
    · exact .unbuilt hmessage (fun _ ↦ rfl) htransmit
    · exact .request hmessage trivial (fun _ ↦ rfl) htransmit sent

/-- A frame that a call waits for goes to the session, and nothing is written. -/
theorem receive_frame (call : ConnectionCall) (session : Session) (frame : Frame) (nowMs : UInt64) :
    (call.receive session (.ok frame) nowMs).session = (session.onFrame frame nowMs none).1 ∧
      (call.receive session (.ok frame) nowMs).written = [] := by
  have hround {α : Type} (settles : Settles α) (wrap : Except ClientError α → CallResult) :
      ((Exchange.receive settles ⟨session, none, []⟩ (.ok frame) nowMs).callStep wrap).session =
          (session.onFrame frame nowMs none).1 ∧
        ((Exchange.receive settles ⟨session, none, []⟩ (.ok frame) nowMs).callStep wrap).written =
          [] := by
    have hround := Exchange.receive_cases settles ⟨session, none, []⟩ (.ok frame) nowMs
    generalize Exchange.receive settles ⟨session, none, []⟩ (.ok frame) nowMs = later at hround
    cases hround with
    | settled hsettled => exact absurd rfl hsettled
    | handled _ hstop => obtain rfl | rfl := hstop <;> exact ⟨rfl, rfl⟩
  cases call <;> exact hround ..

/-- A call that gets no frame returns why. -/
theorem receive_failure (call : ConnectionCall) (session : Session) (failure : ClientError)
    (nowMs : UInt64) : ∃ result : CallResult, result.failure = some failure ∧
      call.receive session (.error failure) nowMs = ⟨session, [], some result⟩ := by
  cases call <;> exact ⟨_, rfl, rfl⟩

/-- What the actions of a batch have settled a call with. -/
inductive Settled (call : ConnectionCall) (actions : List SessionAction) : CallResult → Prop
  | acked {contentType : ContentType} {body : Bytes} {sourceName : String}
      {hname : (utf8 sourceName).length < 2 ^ 64} {nowMs : UInt64} {clipId : Octets 8}
      {status : UInt8} (hcall : call = .beam contentType body sourceName hname nowMs (some clipId))
      (hmem : .emit (.clipAcked clipId status) ∈ actions) : Settled call actions (.beam (.ok clipId))
  | listed {items : List StageMeta} (hcall : call = .stageList)
      (hmem : .emit (.stageList items) ∈ actions) : Settled call actions (.stageList (.ok items))
  | fetched {stageId : Octets 8} {contentType : ContentType} {body : Bytes}
      (hcall : call = .stageItem stageId)
      (hmem : .emit (.stageItem stageId contentType body) ∈ actions) :
      Settled call actions (.stageItem (.ok (contentType, body)))
  | gone {stageId : Octets 8} (hcall : call = .stageItem stageId)
      (hmem : (∃ items, .emit (.stageList items) ∈ actions) ∨ .close noLongerStaged ∈ actions) :
      Settled call actions (.stageItem (.error (.rejected noLongerStaged)))
  | failed {result : CallResult} (hfailed : result.Failed) : Settled call actions result

theorem receive_settled {call : ConnectionCall} {session : Session} {frame : Frame} {nowMs : UInt64}
    {result : CallResult} (h : (call.receive session (.ok frame) nowMs).result = some result) :
    call.Settled (session.onFrame frame nowMs none).2 result := by
  have hround {α : Type} (settles : Settles α) := (Exchange.receive_ok settles
    (rfl : (⟨session, none, []⟩ : Exchange α).result = none) frame nowMs).2
  cases call with
  | beam contentType body sourceName hname sentMs randomId =>
    obtain ⟨settled, hsettled, rfl⟩ := Option.map_eq_some_iff.mp h
    rw [hround] at hsettled
    cases randomId with
    | none => cases hsettled
    | some clipId =>
      cases settled with
      | error failure => exact .failed ⟨rfl, by simp⟩
      | ok id =>
        obtain ⟨rfl, status, hmem⟩ := Connection.beamSettles_ok hsettled
        exact .acked rfl hmem
  | stageList =>
    obtain ⟨settled, hsettled, rfl⟩ := Option.map_eq_some_iff.mp h
    rw [hround] at hsettled
    cases settled with
    | error failure => exact .failed ⟨rfl, by simp⟩
    | ok items => exact .listed rfl (Connection.stageListSettles_ok hsettled)
  | stageItem stageId =>
    obtain ⟨settled, hsettled, rfl⟩ := Option.map_eq_some_iff.mp h
    rw [hround] at hsettled
    cases settled with
    | error failure =>
      by_cases hgone : failure = .rejected noLongerStaged
      · subst hgone
        exact .gone rfl (Connection.stageItemSettles_rejected hsettled)
      · exact .failed (.of_failure rfl hgone)
    | ok item =>
      obtain ⟨contentType, body⟩ := item
      exact .fetched rfl (Connection.stageItemSettles_ok hsettled)

end ConnectionCall

/-! ## The phone and the computer -/

/-- An event the loop has handled: the call whose request it was at, and the ring at that moment. -/
structure HandledEvent where
  call : Option ℕ
  event : SessionEvent
  ring : StageRing

/-- A connection of the phone and the loop that serves it.  Calls are numbered in their order; a frame
under way goes with the number of the call that has written it, or whose request it answers. -/
structure ReusedConnection where
  phone : Session
  called : List ConnectionCall
  waiting : Option (ℕ × ConnectionCall)
  returned : List (ℕ × CallResult)
  toPc : List (ℕ × Frame)
  task : SessionTask
  /-- The call whose request the loop has taken last. -/
  serving : Option ℕ
  /-- What has been done to the ring. -/
  copies : List StageCall
  handled : List HandledEvent
  toPhone : List (Option ℕ × Frame)

inductive ReuseInput where
  | call (call : ConnectionCall) (sent : Except String Unit)
  /-- The next frame of the computer reaches the call that waits. -/
  | receive (nowMs : UInt64)
  | fail (failure : RecvFailure)
  | ring (call : StageCall)
  /-- The loop takes the next request. -/
  | take
  | serve (paused : Bool) (nowMs : UInt64) (seed : Option Key32)
  | act (works : Bool)
  /-- The loop gets no further frame. -/
  | hangUp (ok : Bool)

namespace ReusedConnection

/-- A connection that has just been opened, to a loop with this state. -/
def start (phone : Session) (task : SessionTask) : ReusedConnection :=
  ⟨phone, [], none, [], [], task, none, [], [], []⟩

def stage (world : ReusedConnection) : StageRing := StageRing.default.performAll world.copies

/-- A call goes on to wait, or returns. -/
def follow (world : ReusedConnection) (number : ℕ) (call : ConnectionCall) (step : CallStep) :
    ReusedConnection :=
  { world with
    phone := step.session
    waiting := if step.result.isNone then some (number, call) else none
    returned := world.returned ++ (step.result.map fun result ↦ (number, result)).toList
    toPc := world.toPc ++ step.written.map fun frame ↦ (number, frame) }

/-- The loop takes a step; what it handles and writes belongs to the call it serves. -/
def computer (world : ReusedConnection) (input : SessionTask.Input) : ReusedConnection :=
  let task := world.task.step input
  let entries := task.trace.drop world.task.trace.length
  { world with
    task
    handled := world.handled ++
      (handledEvents entries).map fun event ↦ ⟨world.serving, event, world.stage⟩
    toPhone := world.toPhone ++ (writtenFrames entries).map fun frame ↦ (world.serving, frame) }

def step (world : ReusedConnection) : ReuseInput → ReusedConnection
  | .call call sent =>
    match world.waiting with
    -- A call borrows the connection until it returns.
    | some _ => world
    | none =>
      { world with called := world.called ++ [call] }.follow world.called.length call
        (call.start world.phone sent)
  | .receive nowMs =>
    match world.waiting, world.toPhone with
    | some (number, call), (_, frame) :: frames =>
      { world with toPhone := frames }.follow number call (call.receive world.phone (.ok frame) nowMs)
    | _, _ => world
  | .fail failure =>
    match world.waiting with
    | none => world
    | some (number, call) =>
      world.follow number call (call.receive world.phone (.error failure.error) 0)
  | .ring call => { world with copies := world.copies ++ [call] }
  | .take =>
    match world.task.phase, world.toPc with
    | .acting [], (number, frame) :: frames =>
      { world with toPc := frames, serving := some number }.computer (.next (.frame frame))
    | _, _ => world
  | .serve paused nowMs seed => world.computer (.onFrame paused nowMs seed)
  | .act works => world.computer (.act world.stage works)
  | .hangUp ok => world.computer (.next (if ok then .ended else .failed))

def run (world : ReusedConnection) (inputs : List ReuseInput) : ReusedConnection :=
  inputs.foldl step world

omit [Ciborium] in
/-- What has been returned once a call has gone on. -/
theorem mem_follow_returned {world : ReusedConnection} {number other : ℕ} {call : ConnectionCall}
    {step : CallStep} {result : CallResult}
    (h : (other, result) ∈ (world.follow number call step).returned) :
    (other, result) ∈ world.returned ∨ other = number ∧ step.result = some result := by
  refine (List.mem_append.mp h).imp_right fun hnew ↦ ?_
  obtain ⟨result', hresult, heq⟩ := Option.map_eq_some_iff.mp (Option.mem_toList.mp hnew)
  cases heq
  exact ⟨rfl, hresult⟩

/-- What the loop handles and writes in a step is what it adds to its trace. -/
theorem computer_eq {world : ReusedConnection} {input : SessionTask.Input} {task : SessionTask}
    {entries : List DriverEntry} (hstep : world.task.step input = task)
    (htrace : task.trace = world.task.trace ++ entries) :
    world.computer input = { world with
      task
      handled := world.handled ++
        (handledEvents entries).map fun event ↦ ⟨world.serving, event, world.stage⟩
      toPhone := world.toPhone ++ (writtenFrames entries).map fun frame ↦ (world.serving, frame) } := by
  have hentries : task.trace.drop world.task.trace.length = entries := by rw [htrace, List.drop_left]
  rw [computer, hstep, hentries]

omit [Primitives] [Ciborium] in
/-- Calls keep their numbers. -/
theorem called_append {called : List ConnectionCall} {number : ℕ} {call : ConnectionCall}
    (h : called[number]? = some call) (other : ConnectionCall) :
    (called ++ [other])[number]? = some call := by
  rw [List.getElem?_append_left (List.getElem?_eq_some_iff.mp h).1, h]

/-! ### What a step does -/

/-- The steps of the two. -/
inductive Stepped (world : ReusedConnection) : ReuseInput → ReusedConnection → Prop
  | still {input : ReuseInput} : Stepped world input world
  | called {call : ConnectionCall} {sent : Except String Unit} (hwaiting : world.waiting = none) :
      Stepped world (.call call sent) ({ world with called := world.called ++ [call] }.follow
        world.called.length call (call.start world.phone sent))
  | received {nowMs : UInt64} {number : ℕ} {call : ConnectionCall} {asked : Option ℕ} {frame : Frame}
      {frames : List (Option ℕ × Frame)} (hwaiting : world.waiting = some (number, call))
      (hframes : world.toPhone = (asked, frame) :: frames) :
      Stepped world (.receive nowMs) ({ world with toPhone := frames }.follow number call
        (call.receive world.phone (.ok frame) nowMs))
  | failed {failure : RecvFailure} {number : ℕ} {call : ConnectionCall}
      (hwaiting : world.waiting = some (number, call)) :
      Stepped world (.fail failure)
        (world.follow number call (call.receive world.phone (.error failure.error) 0))
  | ring {call : StageCall} : Stepped world (.ring call) { world with copies := world.copies ++ [call] }
  | taken {number : ℕ} {frame : Frame} {frames : List (ℕ × Frame)}
      (hphase : world.task.phase = .acting []) (hframes : world.toPc = (number, frame) :: frames) :
      Stepped world .take
        ({ world with toPc := frames, serving := some number }.computer (.next (.frame frame)))
  | served {paused : Bool} {nowMs : UInt64} {seed : Option Key32} :
      Stepped world (.serve paused nowMs seed) (world.computer (.onFrame paused nowMs seed))
  | acted {works : Bool} : Stepped world (.act works) (world.computer (.act world.stage works))
  | hungUp {ok : Bool} :
      Stepped world (.hangUp ok) (world.computer (.next (if ok then .ended else .failed)))

theorem step_cases (world : ReusedConnection) (input : ReuseInput) :
    world.Stepped input (world.step input) := by
  cases input with
  | call call sent =>
    rw [step]
    split
    · exact .still
    · next hwaiting => exact .called hwaiting
  | receive nowMs =>
    rw [step]
    split
    · next hwaiting hframes => exact .received hwaiting hframes
    · exact .still
  | fail failure =>
    rw [step]
    split
    · exact .still
    · next hwaiting => exact .failed hwaiting
  | ring call => exact .ring
  | take =>
    rw [step]
    split
    · next hphase hframes => exact .taken hphase hframes
    · exact .still
  | serve paused nowMs seed => exact .served
  | act works => exact .acted
  | hangUp ok => exact .hungUp

/-! ### Results of operations -/

/-- A call that waits is an operation that waits, and what a call has returned is the result of one. -/
structure Operated (world : ReusedConnection) : Prop where
  waiting : ∀ number call, world.waiting = some (number, call) →
    world.called[number]? = some call ∧
      ∃ session sent replies, call.operation session sent replies = (world.phone, none)
  returned : ∀ number result, (number, result) ∈ world.returned → ∃ call,
    world.called[number]? = some call ∧
      ∃ session sent replies, (call.operation session sent replies).2 = some result

namespace Operated

variable {world : ReusedConnection}

theorem follow (h : world.Operated) {number : ℕ} {call : ConnectionCall}
    (hcalled : world.called[number]? = some call) {step : CallStep} {session : Session}
    {sent : Except String Unit} {replies : List (Except ClientError Frame × UInt64)}
    (hstep : call.operation session sent replies = (step.session, step.result)) :
    (world.follow number call step).Operated where
  waiting := by
    intro number' call' hwaiting
    change (if step.result.isNone then some (number, call) else none) = some (number', call')
      at hwaiting
    split_ifs at hwaiting with hnone
    cases hwaiting
    rw [Option.isNone_iff_eq_none.mp hnone] at hstep
    exact ⟨hcalled, session, sent, replies, hstep⟩
  returned := by
    intro number' result hmem
    obtain hearlier | ⟨rfl, hresult⟩ := mem_follow_returned hmem
    · exact h.returned number' result hearlier
    · exact ⟨call, hcalled, session, sent, replies, by rw [hstep, hresult]⟩

/-- Another call does not change which ones have come before. -/
theorem append (h : world.Operated) (hwaiting : world.waiting = none) (call : ConnectionCall) :
    Operated { world with called := world.called ++ [call] } where
  waiting := by simp [hwaiting]
  returned := by
    intro number result hmem
    obtain ⟨earlier, hcalled, hoperation⟩ := h.returned number result hmem
    exact ⟨earlier, called_append hcalled call, hoperation⟩

theorem step (h : world.Operated) (input : ReuseInput) : (world.step input).Operated := by
  have hstep := world.step_cases input
  generalize world.step input = later at hstep
  cases hstep with
  | still | ring | served | acted | hungUp => exact ⟨h.waiting, h.returned⟩
  | taken => exact ⟨h.waiting, h.returned⟩
  | @called call sent hwaiting =>
    exact (h.append hwaiting call).follow (List.getElem?_concat_length ..)
      (call.start_operation world.phone sent)
  | @received nowMs number call asked frame frames hwaiting =>
    obtain ⟨hcalled, session, sent, replies, hwaits⟩ := h.waiting number call hwaiting
    have hshorter : Operated { world with toPhone := frames } := ⟨h.waiting, h.returned⟩
    exact hshorter.follow hcalled (ConnectionCall.receive_operation hwaits (.ok frame, nowMs))
  | @failed failure number call hwaiting =>
    obtain ⟨hcalled, session, sent, replies, hwaits⟩ := h.waiting number call hwaiting
    exact h.follow hcalled (ConnectionCall.receive_operation hwaits (.error failure.error, 0))

end Operated

/-- Whatever a call returns is the result of an operation of the connection. -/
theorem run_operated (phone : Session) (task : SessionTask) (inputs : List ReuseInput) :
    ((start phone task).run inputs).Operated := by
  have hstart : (start phone task).Operated := ⟨by simp [start], by simp [start]⟩
  exact foldl_invariant (fun _ input _ h ↦ h.step input) hstart

end ReusedConnection

end Calls

end AirClip
