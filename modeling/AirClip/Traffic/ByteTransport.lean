import AirClip.Foundation.BytePipe
import AirClip.Traffic.MatchedReplies

/-!
# The connection over bytes

What the two ends of a connection exchange are bytes.  A frame goes out through the encoder of
`FrameCodec`, which refuses a payload above the limit, and it may break off when the socket fails; bytes
arrive in pieces of any size; and a reader that gives up in the middle of a frame leaves the piece in its
buffer for the next call.  Every such run is a run on the queues of frames of `ReusedConnection`, so its
results are matched to the requests all the same.
-/

open Foundation

namespace AirClip

/-! ## One direction -/

/-- One direction of a connection, with the text of the error that has ended its writes. -/
structure Wire where
  pipe : BytePipe UInt8
  failed : Option String
deriving DecidableEq

namespace Wire

def empty : Wire := ⟨.empty, none⟩

/-- `wire.send`: the encoder refuses the frame, or the socket takes all its bytes, or it fails with a text
after some of them.  Once it has failed it takes no more. -/
def send (wire : Wire) (frame : Frame) (fault : Option (String × ℕ)) : Except String Unit × Wire :=
  match FrameCodec.encode frame [] with
  | (.error failure, _) => (.error failure.display, wire)
  | (.ok (), bytes) =>
    match wire.failed, fault with
    | some text, _ => (.error text, wire)
    | none, some (text, count) =>
      (.error text, ⟨wire.pipe.write (bytes.dropLast.take count), some text⟩)
    | none, none => (.ok (), { wire with pipe := wire.pipe.write bytes })

def arrive (wire : Wire) (count : ℕ) : Wire := { wire with pipe := wire.pipe.arrive count }

/-- `wire.next` on what has arrived. -/
def poll (wire : Wire) : Except Error (Option (Frame × Wire)) :=
  (wire.pipe.poll FrameCodec.streamDecoder).map
    (Option.map fun (frame, pipe) ↦ (frame, { wire with pipe }))

/-- The frames that are under way, behind which only a failed write can have left a piece. -/
def Holds (wire : Wire) (frames : List Frame) : Prop :=
  ∃ torn, wire.pipe.Carries FrameCodec.streamDecoder Frame.encode frames torn ∧
    (wire.failed = none → torn = [])

theorem holds_empty : empty.Holds [] := ⟨[], BytePipe.carries_empty, fun _ ↦ rfl⟩

variable {wire : Wire} {frames : List Frame}

theorem Holds.arrive (h : wire.Holds frames) (count : ℕ) : (wire.arrive count).Holds frames := by
  obtain ⟨torn, hcarries, htorn⟩ := h
  exact ⟨torn, hcarries.arrive count, htorn⟩

/-- The wire holds one frame more if it has been sent, and the same frames if not. -/
theorem Holds.send (h : wire.Holds frames) (frame : Frame) (fault : Option (String × ℕ)) :
    ((wire.send frame fault).1 = .ok () → (wire.send frame fault).2.Holds (frames ++ [frame])) ∧
      ∀ text, (wire.send frame fault).1 = .error text → (wire.send frame fault).2.Holds frames := by
  rw [Wire.send]
  by_cases hsize : frame.payload.length ≤ maxFrameLen.toNat
  · have hdecode (more : Bytes) :
        FrameCodec.streamDecoder.decode (frame.encode ++ more) = .ok (some (frame, more)) :=
      FrameCodec.attempt_encode frame more hsize
    have hwhole : FrameCodec.streamDecoder.decode frame.encode = .ok (some (frame, [])) := by
      rw [← hdecode [], List.append_nil]
    obtain ⟨torn, hcarries, htorn⟩ := h
    rw [FrameCodec.encode_eq_append frame [] hsize, List.nil_append]
    dsimp only
    split
    · exact ⟨by simp, fun _ _ ↦ ⟨torn, hcarries, htorn⟩⟩
    · next text count hfailed =>
      cases htorn hfailed
      refine ⟨by simp, fun _ _ ↦ ⟨_, hcarries.tear hwhole ?_ ?_, by simp⟩⟩
      · exact (List.take_prefix _ _).trans (List.dropLast_prefix _)
      · have hheader : 0 < frame.encode.length := by simp [Frame.encode, magic]
        rw [List.length_take, List.length_dropLast]
        omega
    · next hfailed =>
      cases htorn hfailed
      exact ⟨fun _ ↦ ⟨[], hcarries.write hdecode, fun _ ↦ rfl⟩, by simp⟩
  · rw [FrameCodec.encode, if_pos (not_le.mp hsize)]
    exact ⟨by simp, fun _ _ ↦ h⟩

/-- A reader asks for more or gets the first frame, and never an error. -/
theorem Holds.poll (h : wire.Holds frames) :
    wire.poll = .ok none ∨ ∃ frame later wire', frames = frame :: later ∧
      wire.poll = .ok (some (frame, wire')) ∧ wire'.Holds later := by
  obtain ⟨torn, hcarries, htorn⟩ := h
  unfold Wire.poll
  obtain hpoll | ⟨frame, later, pipe', hframes, hpoll, hlater⟩ := hcarries.poll
  · rw [hpoll]
    exact .inl rfl
  · rw [hpoll]
    exact .inr ⟨frame, later, { wire with pipe := pipe' }, hframes, rfl, torn, hlater, htorn⟩

theorem Holds.poll_ne_error (h : wire.Holds frames) {failure : Error} : wire.poll ≠ .error failure := by
  obtain hpoll | ⟨frame, later, wire', -, hpoll, -⟩ := h.poll <;> rw [hpoll] <;> exact nofun

/-- Once every byte has arrived, a reader waits only when no frame is under way. -/
theorem Holds.poll_arrived (h : wire.Holds frames) (harrived : wire.pipe.underWay = [])
    (hpoll : wire.poll = .ok none) : frames = [] := by
  obtain ⟨torn, hcarries, -⟩ := h
  apply hcarries.poll_arrived harrived
  unfold Wire.poll at hpoll
  match hpipe : wire.pipe.poll FrameCodec.streamDecoder with
  | .error failure => rw [hpipe] at hpoll; cases hpoll
  | .ok none => rfl
  | .ok (some taken) => rw [hpipe] at hpoll; cases hpoll

end Wire

section Ends

variable [Primitives] [Ciborium]

/-! ## The two ends -/

/-- The frame that the next action of the loop writes. -/
def SessionTask.outgoing (task : SessionTask) (stage : StageRing) : Option Frame :=
  match task.phase with
  | .acting (.send frame :: _) => some frame
  | .acting (.emit event :: _) =>
    match (handleEvent event task.session stage task.connectedId).reply with
    | .ok reply => reply
    | .error _ => none
  | _ => none

/-- The request that a call writes. -/
def ConnectionCall.outgoing (call : ConnectionCall) (session : Session) : Option Frame :=
  (call.start session (.ok ())).written.head?

/-- A connection of the phone and the loop that serves it, with the bytes between them. -/
structure ByteConnection where
  phone : Session
  called : List ConnectionCall
  waiting : Option (ℕ × ConnectionCall)
  returned : List (ℕ × CallResult)
  up : Wire
  task : SessionTask
  copies : List StageCall
  /-- What the loop has handled, with the ring at that moment. -/
  handled : List (SessionEvent × StageRing)
  down : Wire

/-- A fault is what an I/O error says, and how many bytes come before it. -/
inductive WireInput where
  | call (call : ConnectionCall) (fault : Option (String × ℕ))
  /-- More bytes of the phone reach the computer. -/
  | arriveUp (count : ℕ)
  | arriveDown (count : ℕ)
  /-- The call that waits looks for a frame. -/
  | receive (nowMs : UInt64)
  | fail (failure : RecvFailure)
  | ring (call : StageCall)
  /-- The loop looks for the next request. -/
  | take
  | serve (paused : Bool) (nowMs : UInt64) (seed : Option Key32)
  | act (fault : Option (String × ℕ))
  /-- The loop gets no further frame. -/
  | hangUp (ok : Bool)

namespace ByteConnection

def start (phone : Session) (task : SessionTask) : ByteConnection :=
  ⟨phone, [], none, [], .empty, task, [], [], .empty⟩

def stage (world : ByteConnection) : StageRing := StageRing.default.performAll world.copies

/-- A call goes on to wait, or returns. -/
def follow (world : ByteConnection) (number : ℕ) (call : ConnectionCall) (step : CallStep) :
    ByteConnection :=
  { world with
    phone := step.session
    waiting := if step.result.isNone then some (number, call) else none
    returned := world.returned ++ (step.result.map fun result ↦ (number, result)).toList }

/-- A call begins: a request that it builds goes onto the wire. -/
def call (world : ByteConnection) (call : ConnectionCall) (fault : Option (String × ℕ)) :
    ByteConnection :=
  let world' := { world with called := world.called ++ [call] }
  match call.outgoing world.phone with
  | none => world'.follow world.called.length call (call.start world.phone (.ok ()))
  | some frame =>
    let sent := world.up.send frame fault
    { world' with up := sent.2 }.follow world.called.length call (call.start world.phone sent.1)

/-- The loop takes a step. -/
def computer (world : ByteConnection) (input : SessionTask.Input) : ByteConnection :=
  let task := world.task.step input
  let entries := task.trace.drop world.task.trace.length
  { world with
    task
    handled := world.handled ++ (handledEvents entries).map fun event ↦ (event, world.stage) }

/-- The loop carries out an action: a frame that it writes goes onto the wire. -/
def act (world : ByteConnection) (fault : Option (String × ℕ)) : ByteConnection :=
  match world.task.outgoing world.stage with
  | none => world.computer (.act world.stage true)
  | some frame =>
    let sent := world.down.send frame fault
    { world with down := sent.2 }.computer (.act world.stage sent.1.isOk)

def step (world : ByteConnection) : WireInput → ByteConnection
  | .call call fault =>
    match world.waiting with
    | some _ => world
    | none => world.call call fault
  | .arriveUp count => { world with up := world.up.arrive count }
  | .arriveDown count => { world with down := world.down.arrive count }
  | .receive nowMs =>
    match world.waiting with
    | none => world
    | some (number, call) =>
      match world.down.poll with
      | .ok none => world
      | .ok (some (frame, down)) =>
        { world with down }.follow number call (call.receive world.phone (.ok frame) nowMs)
      | .error failure =>
        world.follow number call (call.receive world.phone (.error (.ofError failure)) nowMs)
  | .fail failure =>
    match world.waiting with
    | none => world
    | some (number, call) =>
      world.follow number call (call.receive world.phone (.error failure.error) 0)
  | .ring call => { world with copies := world.copies ++ [call] }
  | .take =>
    match world.task.phase with
    | .acting [] =>
      match world.up.poll with
      | .ok none => world
      | .ok (some (frame, up)) => { world with up }.computer (.next (.frame frame))
      | .error _ => world.computer (.next .failed)
    | _ => world
  | .serve paused nowMs seed => world.computer (.onFrame paused nowMs seed)
  | .act fault => world.act fault
  | .hangUp ok => world.computer (.next (if ok then .ended else .failed))

def run (world : ByteConnection) (inputs : List WireInput) : ByteConnection :=
  inputs.foldl step world

/-- A clip is acknowledged to a beam only if a clip with its id, pushed by a beam, has arrived; and an
item is what was staged under the id at a request for it. -/
structure MatchedBody (world : ByteConnection) (number : ℕ) (result : CallResult) : Prop where
  beam : ∀ clipId, result = .beam (.ok clipId) → ∃ contentType body sourceName hname nowMs,
    world.called[number]? = some (.beam contentType body sourceName hname nowMs (some clipId)) ∧
      ∃ clip ring, (BeamedClip.event clip, ring) ∈ world.handled ∧ clip.clipId = clipId ∧
        ∃ hname, .beam clip.contentType clip.body clip.sourceName hname clip.createdAtMs (some clipId) ∈
          world.called
  item : ∀ contentType body, result = .stageItem (.ok (contentType, body)) → ∃ stageId,
    world.called[number]? = some (.stageItem stageId) ∧ ∃ ring clip,
      (.stageItemRequested stageId, ring) ∈ world.handled ∧ ring.get stageId = some clip ∧
        clip.contentType = contentType ∧ clip.body = body

end ByteConnection

/-! ## What is written -/

/-- A call that writes nothing fails, and one that cannot write has written nothing. -/
theorem ConnectionCall.start_unsent (call : ConnectionCall) (session : Session) (text : String) :
    (call.start session (.error text)).written = [] := by
  cases call with
  | beam contentType body sourceName hname nowMs randomId =>
    change writtenFrames (Connection.beam ..).trace = []
    unfold Connection.beam Connection.beamRequest
    split_ifs
    · rfl
    generalize session.pushClip contentType body sourceName nowMs randomId = request
    obtain ⟨failure | ⟨frame, clipId⟩, later⟩ := request <;> rfl
  | stageList =>
    change writtenFrames (Connection.stageList ..).trace = []
    unfold Connection.stageList
    generalize session.requestStageList = request
    obtain ⟨failure | frame, later⟩ := request <;> rfl
  | stageItem stageId =>
    change writtenFrames (Connection.stageItem ..).trace = []
    unfold Connection.stageItem
    generalize session.requestStageItem stageId = request
    obtain ⟨failure | frame, later⟩ := request <;> rfl

/-- A call writes its request and nothing else. -/
theorem ConnectionCall.start_sent (call : ConnectionCall) (session : Session) :
    (call.start session (.ok ())).written = (call.outgoing session).toList := by
  have hstarted := call.start_started session (.ok ())
  rw [ConnectionCall.outgoing]
  generalize call.start session (.ok ()) = step at hstarted
  cases hstarted with
  | waiting | failed => rfl

/-- The frames that a step of the loop writes. -/
def SessionTask.written (task : SessionTask) : Input → List Frame
  | .act stage works => if works then (task.outgoing stage).toList else []
  | _ => []

theorem SessionTask.step_written (task : SessionTask) (input : Input) :
    ∃ entries, (task.step input).trace = task.trace ++ entries ∧
      writtenFrames entries = task.written input := by
  have htwice (first second : DriverEntry) :
      task.trace ++ [first] ++ [second] = task.trace ++ [first, second] := List.append_assoc ..
  have hstill : task.trace = task.trace ++ [] := (List.append_nil _).symm
  cases input with
  | onFrame paused nowMs seed =>
    rw [step]
    split
    · exact ⟨[_], rfl, rfl⟩
    · exact ⟨[], hstill, rfl⟩
  | act stage works =>
    rw [step, written]
    unfold outgoing
    rcases hphase : task.phase with received | (- | ⟨action, rest⟩) | ok
    · exact ⟨[], hstill, by cases works <;> rfl⟩
    · exact ⟨[], hstill, by cases works <;> rfl⟩
    · dsimp only
      cases action with
      | send frame =>
        cases works
        · exact ⟨[.returned], rfl, rfl⟩
        · exact ⟨[.wrote frame], rfl, rfl⟩
      | emit event =>
        dsimp only
        rw [carryOut]
        split
        · next hreply =>
          rw [hreply]
          exact ⟨[.handled event, .returned], htwice _ _, by cases works <;> rfl⟩
        · next hreply =>
          rw [hreply]
          exact ⟨[.handled event], rfl, by cases works <;> rfl⟩
        · next reply hreply =>
          rw [hreply]
          cases works
          · exact ⟨[.handled event, .returned], htwice _ _, rfl⟩
          · exact ⟨[.handled event, .wrote reply], htwice _ _, rfl⟩
      | close why => exact ⟨[.closing, .returned], htwice _ _, by cases works <;> rfl⟩
    · exact ⟨[], hstill, by cases works <;> rfl⟩
  | next inbound =>
    rw [step]
    split
    · cases inbound with
      | frame frame => exact ⟨[.receiving], rfl, rfl⟩
      | failed => exact ⟨[.receiving, .returned], htwice _ _, rfl⟩
      | ended => exact ⟨[.receiving, .returned], htwice _ _, rfl⟩
    · exact ⟨[], hstill, rfl⟩

/-! ## Frames under bytes -/

/-- The ends of a connection whose frames are under way on two wires. -/
def ReusedConnection.over (queued : ReusedConnection) (up down : Wire) : ByteConnection where
  phone := queued.phone
  called := queued.called
  waiting := queued.waiting
  returned := queued.returned
  up := up
  task := queued.task
  copies := queued.copies
  handled := queued.handled.map fun entry ↦ (entry.event, entry.ring)
  down := down

/-- The bytes carry the frames of a connection in the same state. -/
structure ByteConnection.Over (world : ByteConnection) (queued : ReusedConnection) : Prop where
  ends : world = queued.over world.up world.down
  up : world.up.Holds (queued.toPc.map Prod.snd)
  down : world.down.Holds (queued.toPhone.map Prod.snd)

namespace ByteConnection

variable {world : ByteConnection} {queued : ReusedConnection} {up down : Wire}

omit [Ciborium] in
theorem over_start (phone : Session) (task : SessionTask) :
    (start phone task).Over (.start phone task) := ⟨rfl, Wire.holds_empty, Wire.holds_empty⟩

omit [Ciborium] in
/-- A call goes on over the wires, and what it has written goes into the queue. -/
theorem over_follow (queued : ReusedConnection) {up down : Wire} (number : ℕ) (call : ConnectionCall)
    {step : CallStep} (hup : up.Holds (queued.toPc.map Prod.snd ++ step.written))
    (hdown : down.Holds (queued.toPhone.map Prod.snd)) :
    ((queued.over up down).follow number call step).Over (queued.follow number call step) where
  ends := rfl
  up := by
    change up.Holds ((queued.toPc ++ step.written.map fun frame ↦ (number, frame)).map Prod.snd)
    rw [List.map_append, List.map_map]
    simpa [Function.comp_def] using hup
  down := hdown

/-- The loop takes a step over the wires, and what it has written goes into the queue. -/
theorem over_computer (queued : ReusedConnection) {up down : Wire}
    (hup : up.Holds (queued.toPc.map Prod.snd)) (input : SessionTask.Input)
    (hdown : down.Holds (queued.toPhone.map Prod.snd ++ queued.task.written input)) :
    ((queued.over up down).computer input).Over (queued.computer input) := by
  obtain ⟨entries, htrace, hwritten⟩ := queued.task.step_written input
  have hentries : (queued.task.step input).trace.drop queued.task.trace.length = entries := by
    rw [htrace, List.drop_left]
  rw [ReusedConnection.computer_eq rfl htrace]
  refine ⟨?_, hup, ?_⟩
  · rw [computer, ReusedConnection.over, ReusedConnection.over, hentries]
    simp [Function.comp_def, stage, ReusedConnection.stage]
  · change down.Holds ((queued.toPhone ++ (writtenFrames entries).map _).map Prod.snd)
    rw [List.map_append, List.map_map, hwritten]
    simpa [Function.comp_def] using hdown

/-- A call over the wires is a call whose write ends the same way. -/
theorem over_call (hup : up.Holds (queued.toPc.map Prod.snd))
    (hdown : down.Holds (queued.toPhone.map Prod.snd)) (call : ConnectionCall)
    (fault : Option (String × ℕ)) :
    ∃ sent, ((queued.over up down).call call fault).Over
      ({ queued with called := queued.called ++ [call] }.follow queued.called.length call
        (call.start queued.phone sent)) := by
  have hsent := call.start_sent queued.phone
  rw [ByteConnection.call]
  split
  · next houtgoing =>
    have hheld : up.Holds (queued.toPc.map Prod.snd ++ (call.start queued.phone (.ok ())).written) := by
      rw [hsent, show call.outgoing queued.phone = none from houtgoing]
      exact (List.append_nil _).symm ▸ hup
    exact ⟨.ok (), over_follow { queued with called := queued.called ++ [call] } _ _ hheld hdown⟩
  · next frame houtgoing =>
    have hheld : (up.send frame fault).2.Holds (queued.toPc.map Prod.snd ++
        (call.start queued.phone (up.send frame fault).1).written) := by
      have hsend := hup.send frame fault
      cases hfate : (up.send frame fault).1 with
      | error text =>
        rw [call.start_unsent]
        exact (List.append_nil _).symm ▸ hsend.2 text hfate
      | ok =>
        rw [hsent, show call.outgoing queued.phone = some frame from houtgoing]
        exact hsend.1 hfate
    exact ⟨_, over_follow { queued with called := queued.called ++ [call] } _ _ hheld hdown⟩

/-- An action over the wires is one whose write ends the same way. -/
theorem over_act (hup : up.Holds (queued.toPc.map Prod.snd))
    (hdown : down.Holds (queued.toPhone.map Prod.snd)) (fault : Option (String × ℕ)) :
    ∃ works, ((queued.over up down).act fault).Over (queued.computer (.act queued.stage works)) := by
  rw [ByteConnection.act]
  split
  · next houtgoing =>
    have hheld : down.Holds (queued.toPhone.map Prod.snd ++
        queued.task.written (.act queued.stage true)) := by
      rw [SessionTask.written, show queued.task.outgoing queued.stage = none from houtgoing]
      exact (List.append_nil _).symm ▸ hdown
    exact ⟨true, over_computer queued hup _ hheld⟩
  · next frame houtgoing =>
    have hheld : (down.send frame fault).2.Holds (queued.toPhone.map Prod.snd ++
        queued.task.written (.act queued.stage (down.send frame fault).1.isOk)) := by
      have hsend := hdown.send frame fault
      rw [SessionTask.written, show queued.task.outgoing queued.stage = some frame from houtgoing]
      cases hfate : (down.send frame fault).1 with
      | error text => exact (List.append_nil _).symm ▸ hsend.2 text hfate
      | ok => exact hsend.1 hfate
    exact ⟨_, over_computer queued hup _ hheld⟩

/-- A step over bytes is a step on the queues, or none. -/
theorem Over.step (h : world.Over queued) (input : WireInput) :
    ∃ inputs, (world.step input).Over (queued.run inputs) := by
  obtain ⟨hends, hup, hdown⟩ := h
  generalize world.up = up at hends hup
  generalize world.down = down at hends hdown
  subst hends
  have hstill : ∃ inputs, (queued.over up down).Over (queued.run inputs) := ⟨[], rfl, hup, hdown⟩
  have hnone {frames : List Frame} {wire : Wire} (h : wire.Holds frames) : wire.Holds (frames ++ []) :=
    (List.append_nil _).symm ▸ h
  cases input with
  | call call fault =>
    rw [ByteConnection.step]
    split
    · exact hstill
    · next hwaiting =>
      obtain ⟨sent, hover⟩ := over_call hup hdown call fault
      refine ⟨[.call call sent], ?_⟩
      change ByteConnection.Over _ (queued.step (.call call sent))
      rwa [ReusedConnection.step, show queued.waiting = none from hwaiting]
  | arriveUp count => exact ⟨[], rfl, hup.arrive count, hdown⟩
  | arriveDown count => exact ⟨[], rfl, hup, hdown.arrive count⟩
  | receive nowMs =>
    rw [ByteConnection.step]
    split
    · exact hstill
    · next number call hwaiting =>
      change queued.waiting = some (number, call) at hwaiting
      obtain hpoll | ⟨frame, later, down', hframes, hpoll, hlater⟩ := hdown.poll
      · rw [show (queued.over up down).down.poll = .ok none from hpoll]
        exact hstill
      · rw [show (queued.over up down).down.poll = .ok (some (frame, down')) from hpoll]
        obtain ⟨⟨asked, frame'⟩, frames, htoPhone, hframe, hrest⟩ := List.map_eq_cons_iff.mp hframes
        cases hframe
        have hheld : up.Holds (queued.toPc.map Prod.snd ++
            (call.receive queued.phone (.ok frame') nowMs).written) := by
          rw [(call.receive_frame _ _ _).2]
          exact hnone hup
        refine ⟨[.receive nowMs], ?_⟩
        change ByteConnection.Over _ (queued.step (.receive nowMs))
        rw [ReusedConnection.step, hwaiting, htoPhone]
        exact over_follow { queued with toPhone := frames } _ _ hheld (hrest ▸ hlater)
  | fail failure =>
    rw [ByteConnection.step]
    split
    · exact hstill
    · next number call hwaiting =>
      have hheld : up.Holds (queued.toPc.map Prod.snd ++
          (call.receive queued.phone (.error failure.error) 0).written) := by
        obtain ⟨result, -, hreceive⟩ := call.receive_failure queued.phone failure.error 0
        rw [hreceive]
        exact hnone hup
      refine ⟨[.fail failure], ?_⟩
      change ByteConnection.Over _ (queued.step (.fail failure))
      rw [ReusedConnection.step, show queued.waiting = some (number, call) from hwaiting]
      exact over_follow queued _ _ hheld hdown
  | ring call => exact ⟨[.ring call], rfl, hup, hdown⟩
  | take =>
    rw [ByteConnection.step]
    split
    · next hphase =>
      change queued.task.phase = .acting [] at hphase
      obtain hpoll | ⟨frame, later, up', hframes, hpoll, hlater⟩ := hup.poll
      · rw [show (queued.over up down).up.poll = .ok none from hpoll]
        exact hstill
      · rw [show (queued.over up down).up.poll = .ok (some (frame, up')) from hpoll]
        obtain ⟨⟨number, frame'⟩, frames, htoPc, hframe, hrest⟩ := List.map_eq_cons_iff.mp hframes
        cases hframe
        refine ⟨[.take], ?_⟩
        change ByteConnection.Over _ (queued.step .take)
        rw [ReusedConnection.step, hphase, htoPc]
        exact over_computer { queued with toPc := frames, serving := some number } (hrest ▸ hlater) _
          (hnone hdown)
    · exact hstill
  | serve paused nowMs seed =>
    exact ⟨[.serve paused nowMs seed], over_computer queued hup _ (hnone hdown)⟩
  | act fault =>
    obtain ⟨works, hover⟩ := over_act hup hdown fault
    exact ⟨[.act works], hover⟩
  | hangUp ok => exact ⟨[.hangUp ok], over_computer queued hup _ (hnone hdown)⟩

/-- However its bytes are cut and its calls give up, a connection is one on queues of frames. -/
theorem run_over (phone : Session) (task : SessionTask) (inputs : List WireInput) :
    ∃ frames, ((start phone task).run inputs).Over ((ReusedConnection.start phone task).run frames) := by
  apply foldl_invariant (P := fun world ↦ ∃ frames,
    ByteConnection.Over world ((ReusedConnection.start phone task).run frames))
  · intro world input _ hover
    obtain ⟨earlier, hover⟩ := hover
    obtain ⟨frames, hstep⟩ := hover.step input
    refine ⟨earlier ++ frames, ?_⟩
    rwa [ReusedConnection.run, List.foldl_append]
  · exact ⟨[], over_start phone task⟩

omit [Ciborium] in
/-- Results that are matched on the queues are matched over bytes. -/
theorem Over.matchedBody (h : world.Over queued) {number : ℕ} {result : CallResult}
    (hmatched : queued.MatchedBody number result) : world.MatchedBody number result := by
  obtain ⟨hends, -, -⟩ := h
  rw [hends]
  have hhandled {entry : HandledEvent} (hmem : entry ∈ queued.handled) :
      (entry.event, entry.ring) ∈ (queued.over world.up world.down).handled :=
    List.mem_map_of_mem hmem
  refine ⟨fun clipId hresult ↦ ?_, fun contentType body hresult ↦ ?_⟩
  · obtain ⟨contentType, body, sourceName, hname, nowMs, hcalled, entry, hmem, other, clip, -, hevent,
      hid, hclip, hpushed⟩ := hmatched.beam clipId hresult
    exact ⟨contentType, body, sourceName, hname, nowMs, hcalled, clip, entry.ring,
      hevent ▸ hhandled hmem, hid, hclip, List.mem_of_getElem? hpushed⟩
  · obtain ⟨stageId, hcalled, entry, hmem, clip, hevent, hget, hcontent⟩ :=
      hmatched.item contentType body hresult
    exact ⟨stageId, hcalled, entry.ring, clip, hevent ▸ hhandled hmem, hget, hcontent⟩

/-- Whatever pieces the bytes arrive in, wherever a write breaks off, and wherever in a frame a call gives
up: the connection behaves as one on queues of frames, no reader ever fails to decode, one that has all
bytes waits only when no frame is left, and each result is matched to what has been asked and handled. -/
theorem bytes_carry_calls [Ciborium.Lawful] [AeadCorrect] {phone : Session} {task : SessionTask}
    (hopened : ReusedConnection.Opened phone task) (inputs : List WireInput) :
    (∃ frames, ((start phone task).run inputs).Over ((ReusedConnection.start phone task).run frames) ∧
      (((start phone task).run inputs).up.pipe.underWay = [] →
        ((start phone task).run inputs).up.poll = .ok none →
          ((ReusedConnection.start phone task).run frames).toPc = []) ∧
      (((start phone task).run inputs).down.pipe.underWay = [] →
        ((start phone task).run inputs).down.poll = .ok none →
          ((ReusedConnection.start phone task).run frames).toPhone = [])) ∧
    (∀ failure, ((start phone task).run inputs).up.poll ≠ .error failure ∧
      ((start phone task).run inputs).down.poll ≠ .error failure) ∧
    ∀ number result, (number, result) ∈ ((start phone task).run inputs).returned →
      ((start phone task).run inputs).MatchedBody number result := by
  obtain ⟨frames, hover⟩ := run_over phone task inputs
  obtain ⟨p2c, c2p, hstart⟩ := ReusedConnection.Inv.start hopened
  have hinv : ((ReusedConnection.start phone task).run frames).Inv p2c c2p :=
    foldl_invariant (fun _ input _ h ↦ h.step input) hstart
  generalize (start phone task).run inputs = world at hover ⊢
  refine ⟨⟨frames, hover, fun harrived hpoll ↦ ?_, fun harrived hpoll ↦ ?_⟩, fun failure ↦ ?_,
    fun number result hmem ↦ ?_⟩
  · exact List.map_eq_nil_iff.mp (hover.up.poll_arrived harrived hpoll)
  · exact List.map_eq_nil_iff.mp (hover.down.poll_arrived harrived hpoll)
  · exact ⟨hover.up.poll_ne_error, hover.down.poll_ne_error⟩
  · have hreturned : world.returned = ((ReusedConnection.start phone task).run frames).returned := by
      rw [hover.ends]
      rfl
    exact hover.matchedBody (hinv.returned number result (hreturned ▸ hmem))

end ByteConnection

end Ends

namespace Reference

/-- The phone gives up a list in the middle of the reply, and lists again: the rest of the first reply
arrives, and then the socket of the computer fails in the middle of the second. -/
def pieces : List WireInput :=
  [.call .stageList none, .arriveUp 5, .take, .arriveUp 100, .take, .serve false 0 none, .act none,
    .arriveDown 12, .receive 0, .fail .timedOut, .call .stageList none, .arriveDown 100, .receive 0,
    .arriveUp 100, .take, .serve false 0 none, .act (some ("connection reset", 20)), .arriveDown 100]

def inPieces : ByteConnection := (ByteConnection.start phoneSession serving).run pieces

end Reference

open Reference in
/-- The list that the second call returns is the rest of the first reply. -/
theorem bytes_carry_calls_pieces :
    inPieces.returned = [(0, .stageList (.error .timedOut)), (1, .stageList (.ok []))] ∧
    inPieces.down.pipe.buffered.length = 20 ∧
    (∃ frames, inPieces.Over ((ReusedConnection.start phoneSession serving).run frames) ∧
      (inPieces.up.pipe.underWay = [] → inPieces.up.poll = .ok none →
        ((ReusedConnection.start phoneSession serving).run frames).toPc = []) ∧
      (inPieces.down.pipe.underWay = [] → inPieces.down.poll = .ok none →
        ((ReusedConnection.start phoneSession serving).run frames).toPhone = [])) ∧
    (∀ failure, inPieces.up.poll ≠ .error failure ∧ inPieces.down.poll ≠ .error failure) ∧
    ∀ number result, (number, result) ∈ inPieces.returned → inPieces.MatchedBody number result := by
  have hcarried := ByteConnection.bytes_carry_calls opened pieces
  have hreturned : inPieces.returned = [(0, .stageList (.error .timedOut)), (1, .stageList (.ok []))] := by
    decide +kernel
  have hbuffered : inPieces.down.pipe.buffered.length = 20 := by decide +kernel
  rw [← inPieces] at hcarried
  exact ⟨hreturned, hbuffered, hcarried⟩

end AirClip
