import AirClip.Agent.PairingServer
import AirClip.Core.Driver
import AirClip.Foundation.Runs

/-!
# Session connections of the agent

`run_session` is a task with the locals of its loop.  Each input lets it go on by one step: call the
session with the current frame, carry out one action, or take the next frame.  What the task finds in
the shared state at that moment (the pause flag, the staged clips), the clock, random draws and
whether a write succeeds are part of the input.
-/

open Foundation

namespace AirClip

section SessionServer

variable [Primitives] [Ciborium]

/-- What comes of waiting for the next frame. -/
inductive Inbound where
  | frame (frame : Frame)
  /-- A decoding or I/O error. -/
  | failed
  /-- The peer has closed the connection, or the idle timeout has elapsed. -/
  | ended
deriving DecidableEq

/-- Where the loop stands. -/
inductive SessionPhase where
  /-- About to call the session. -/
  | received (frame : Frame)
  /-- Carrying out actions, and waiting for the next frame when there are none left. -/
  | acting (actions : List SessionAction)
  /-- Returned, normally or with an error. -/
  | returned (ok : Bool)
deriving DecidableEq

/-- The locals of the loop, the events emitted to the agent, and the trace. -/
structure SessionTask where
  session : Session
  connectedId : Option String
  phase : SessionPhase
  events : List AgentEvent
  trace : List DriverEntry
deriving DecidableEq

/-- What an event of the core comes to. -/
structure Handled where
  reply : Except Error (Option Frame)
  session : Session
  connectedId : Option String
  events : List AgentEvent

/-- Translate a core event into agent-level effects, optionally producing a reply frame. -/
def handleEvent (event : SessionEvent) (session : Session) (stage : StageRing)
    (connectedId : Option String) : Handled :=
  match event with
  | .established peer => ⟨.ok none, session, some peer.hex, [.peerConnected peer.hex]⟩
  | .clipArrived _ contentType body sourceName _ =>
    ⟨.ok none, session, connectedId, [.clipArrived contentType body sourceName]⟩
  | .stageListRequested =>
    let result := session.sendStageList stage.list
    ⟨result.1.map some, result.2, connectedId, []⟩
  | .stageItemRequested stageId =>
    let result :=
      match stage.get stageId with
      | some clip => session.sendStageItem clip
      -- Evicted between LIST and GET; an empty list is a benign answer.
      | none => session.sendStageList []
    ⟨result.1.map some, result.2, connectedId, []⟩
  | .peerError .. | .clipAcked .. | .stageList _ | .stageItem .. =>
    ⟨.ok none, session, connectedId, []⟩

namespace SessionTask

/-- The loop before its first round. -/
def start (identity : IdentityKeypair) (peerKeys : List PeerKey) (nowMs : UInt64) (paused : Bool)
    (first : Frame) : SessionTask :=
  { session := (Session.newPc identity peerKeys nowMs).setPaused paused, connectedId := none,
    phase := .received first, events := [], trace := [] }

def note (task : SessionTask) (entry : DriverEntry) : SessionTask :=
  { task with trace := task.trace ++ [entry] }

/-- Leave the loop. -/
def leave (task : SessionTask) (ok : Bool) : SessionTask :=
  { task with phase := .returned ok }.note .returned

/-- Leave the loop in order: the peer is reported as disconnected. -/
def disconnect (task : SessionTask) : SessionTask :=
  leave { task with
    connectedId := none
    events := task.events ++ (task.connectedId.map AgentEvent.peerDisconnected).toList } true

/-- `wire.send`; a failing write leaves the loop with an error. -/
def write (task : SessionTask) (works : Bool) (frame : Frame) : SessionTask :=
  if works then task.note (.wrote frame) else task.leave false

/-- One round of the loop begins: the session gets the frame, under the pause flag as it has been read. -/
def onFrame (task : SessionTask) (frame : Frame) (paused : Bool) (nowMs : UInt64)
    (seed : Option Key32) : SessionTask :=
  let result := (task.session.setPaused paused).onFrame frame nowMs seed
  { task with session := result.1, phase := .acting result.2 }.note (.batch result.2)

/-- Handle an event of the core, and go on with the rest of the batch. -/
def onEvent (task : SessionTask) (event : SessionEvent) (stage : StageRing)
    (rest : List SessionAction) : SessionTask :=
  let handled := handleEvent event task.session stage task.connectedId
  { task with
    session := handled.session
    connectedId := handled.connectedId
    events := task.events ++ handled.events
    phase := .acting rest }.note (.handled event)

/-- Carry out one action. -/
def carryOut (task : SessionTask) (stage : StageRing) (works : Bool) (rest : List SessionAction) :
    SessionAction → SessionTask
  | .send frame => { task with phase := .acting rest }.write works frame
  | .emit event =>
    match (handleEvent event task.session stage task.connectedId).reply with
    | .error _ => (task.onEvent event stage rest).leave false
    | .ok none => task.onEvent event stage rest
    | .ok (some reply) => (task.onEvent event stage rest).write works reply
  | .close _ => (task.note .closing).disconnect

/-- Take the next frame. -/
def next (task : SessionTask) : Inbound → SessionTask
  | .frame frame => { task with phase := .received frame }.note .receiving
  | .failed => (task.note .receiving).leave false
  | .ended => (task.note .receiving).disconnect

/-- What lets the loop go on. -/
inductive Input where
  | onFrame (paused : Bool) (nowMs : UInt64) (seed : Option Key32)
  | act (stage : StageRing) (works : Bool)
  | next (inbound : Inbound)

/-- One step of the loop; an input it is not ready for changes nothing. -/
def step (task : SessionTask) : Input → SessionTask
  | .onFrame paused nowMs seed =>
    match task.phase with
    | .received frame => task.onFrame frame paused nowMs seed
    | _ => task
  | .act stage works =>
    match task.phase with
    | .acting (action :: rest) => task.carryOut stage works rest action
    | _ => task
  | .next inbound =>
    match task.phase with
    | .acting [] => task.next inbound
    | _ => task

def run (task : SessionTask) (inputs : List Input) : SessionTask := inputs.foldl step task

/-! ## What a step can do -/

/-- The step leaves the loop through an error: a frame or a reply cannot be written, a reply cannot be
built, or the next frame cannot be read. -/
def LeavesByError (task : SessionTask) : Input → Prop
  | .onFrame .. => False
  | .act stage works =>
    match task.phase with
    | .acting (.send _ :: _) => works = false
    | .acting (.emit event :: _) =>
      match (handleEvent event task.session stage task.connectedId).reply with
      | .error _ => True
      | .ok none => False
      | .ok (some _) => works = false
    | _ => False
  | .next inbound => task.phase = .acting [] ∧ inbound = .failed

/-- The steps of the loop. -/
inductive Stepped (task : SessionTask) : Input → SessionTask → Prop
  | still {input : Input} (hstays : ¬ task.LeavesByError input) : Stepped task input task
  | called {frame : Frame} {paused : Bool} {nowMs : UInt64} {seed : Option Key32}
      (hphase : task.phase = .received frame) :
      Stepped task (.onFrame paused nowMs seed) (task.onFrame frame paused nowMs seed)
  | sent {stage : StageRing} {frame : Frame} {rest : List SessionAction}
      (hphase : task.phase = .acting (.send frame :: rest)) :
      Stepped task (.act stage true) ({ task with phase := .acting rest }.note (.wrote frame))
  | handled {stage : StageRing} {works : Bool} {event : SessionEvent} {rest : List SessionAction}
      (hphase : task.phase = .acting (.emit event :: rest))
      (hreply : (handleEvent event task.session stage task.connectedId).reply = .ok none) :
      Stepped task (.act stage works) (task.onEvent event stage rest)
  | answered {stage : StageRing} {event : SessionEvent} {rest : List SessionAction} {reply : Frame}
      (hphase : task.phase = .acting (.emit event :: rest))
      (hreply : (handleEvent event task.session stage task.connectedId).reply = .ok (some reply)) :
      Stepped task (.act stage true) ((task.onEvent event stage rest).note (.wrote reply))
  | closed {stage : StageRing} {works : Bool} {why : String} {rest : List SessionAction}
      (hphase : task.phase = .acting (.close why :: rest)) :
      Stepped task (.act stage works) (task.note .closing).disconnect
  | received {frame : Frame} (hphase : task.phase = .acting []) :
      Stepped task (.next (.frame frame)) ({ task with phase := .received frame }.note .receiving)
  | ended (hphase : task.phase = .acting []) :
      Stepped task (.next .ended) (task.note .receiving).disconnect
  | failed (hphase : task.phase = .acting []) :
      Stepped task (.next .failed) ((task.note .receiving).leave false)
  | unsent {stage : StageRing} {frame : Frame} {rest : List SessionAction}
      (hphase : task.phase = .acting (.send frame :: rest)) :
      Stepped task (.act stage false) ({ task with phase := .acting rest }.leave false)
  | unbuilt {stage : StageRing} {works : Bool} {event : SessionEvent} {rest : List SessionAction}
      {failure : Error} (hphase : task.phase = .acting (.emit event :: rest))
      (hreply : (handleEvent event task.session stage task.connectedId).reply = .error failure) :
      Stepped task (.act stage works) ((task.onEvent event stage rest).leave false)
  | unanswered {stage : StageRing} {event : SessionEvent} {rest : List SessionAction} {reply : Frame}
      (hphase : task.phase = .acting (.emit event :: rest))
      (hreply : (handleEvent event task.session stage task.connectedId).reply = .ok (some reply)) :
      Stepped task (.act stage false) ((task.onEvent event stage rest).leave false)

theorem step_cases (task : SessionTask) (input : Input) : task.Stepped input (task.step input) := by
  cases input with
  | onFrame paused nowMs seed =>
    rw [step]
    split
    · next hphase => exact .called hphase
    · exact .still id
  | act stage works =>
    rw [step]
    split
    · next action rest hphase =>
      cases action with
      | send frame =>
        cases works
        · exact .unsent hphase
        · exact .sent hphase
      | emit event =>
        rw [carryOut]
        split
        · next hreply => exact .unbuilt hphase hreply
        · next hreply => exact .handled hphase hreply
        · next hreply =>
          cases works
          · exact .unanswered hphase hreply
          · exact .answered hphase hreply
      | close why => exact .closed hphase
    · next hphase =>
      refine .still fun hleaves ↦ ?_
      rw [LeavesByError] at hleaves
      split at hleaves
      · next hsend => exact hphase _ _ hsend
      · next hemit => exact hphase _ _ hemit
      · exact hleaves
  | next inbound =>
    rw [step]
    split
    · next hphase =>
      cases inbound with
      | frame frame => exact .received hphase
      | failed => exact .failed hphase
      | ended => exact .ended hphase
    · next hphase => exact .still fun h ↦ hphase h.1

/-- What every step on one of some inputs preserves holds in every run on them. -/
theorem run_invariant {P : SessionTask → Prop} {inputs : List Input}
    (hstep : ∀ task, ∀ input ∈ inputs, P task → P (task.step input)) {task : SessionTask}
    (hinit : P task) : P (task.run inputs) := foldl_invariant hstep hinit

end SessionTask

end SessionServer

end AirClip
