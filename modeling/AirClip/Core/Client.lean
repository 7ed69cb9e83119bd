import AirClip.Core.Driver
import AirClip.Foundation.TextEncoding

/-!
# Phone driver

The operations of a live connection.  Each writes one request and then hands inbound frames to the
session until a batch of actions settles its result.  What waiting for a frame comes to, the clock,
random draws and whether the write succeeds are part of the input.
-/

open Foundation

namespace AirClip

/-- Why an operation could not complete. -/
inductive ClientError where
  | unreachable
  | timedOut
  | rejected (reason : String)
  | tooLarge (maxBytes : UInt32)
  | protocol (reason : String)
deriving DecidableEq

/-- The text of an error. -/
def Error.display : Error → String
  | .badMagic => "bad frame magic"
  | .frameTooLarge len => s!"frame length {len} exceeds MAX_FRAME_LEN"
  | .unknownFrameType byte => "unknown frame type 0x" ++ latin1 (hexEncode [byte])
  | .unknownContentType byte => s!"unknown content type {byte}"
  | .cbor message => s!"cbor: {message}"
  | .crypto => "crypto failure"

def ClientError.ofError (failure : Error) : ClientError := .protocol failure.display

/-- What an operation does with a batch of actions: go on waiting, or end with a result. -/
abbrev Settles (α : Type) := List SessionAction → Option (Except ClientError α)

namespace Connection

/-- A beam waits for the acknowledgement of its clip. -/
def beamSettles (clipId : Octets 8) : Settles (Octets 8)
  | .emit (.clipAcked got status) :: rest =>
    -- An acknowledgement of a different clip; keep waiting.
    if got ≠ clipId then beamSettles clipId rest
    else if status = 0 then some (.ok clipId)
    else some (.error (.rejected s!"PC refused the clip (status {status})"))
  | .emit (.peerError code msg) :: _ => some (.error (.rejected s!"{msg} (code {code})"))
  | .close why :: _ => some (.error (.rejected why))
  | _ :: rest => beamSettles clipId rest
  | [] => none

def stageListSettles : Settles (List StageMeta)
  | .emit (.stageList items) :: _ => some (.ok items)
  | .emit (.peerError code msg) :: _ => some (.error (.rejected s!"{msg} (code {code})"))
  | .close why :: _ => some (.error (.rejected why))
  | _ :: rest => stageListSettles rest
  | [] => none

def stageItemSettles (stageId : Octets 8) : Settles (ContentType × Bytes)
  | .emit (.stageItem got contentType body) :: rest =>
    if got = stageId then some (.ok (contentType, body)) else stageItemSettles stageId rest
  -- The computer answers an evicted id with an empty list rather than an error.
  | .emit (.stageList _) :: _ => some (.error (.rejected "clip no longer staged"))
  | .close why :: _ => some (.error (.rejected why))
  | _ :: rest => stageItemSettles stageId rest
  | [] => none

end Connection

section Client

variable [Primitives]

/-- An operation under way, or settled, with the trace of the driver. -/
structure Exchange (α : Type) where
  session : Session
  result : Option (Except ClientError α)
  trace : List DriverEntry

namespace Exchange

variable {α : Type}

/-- An operation that ends before it waits for a frame. -/
def failed (session : Session) (failure : ClientError) (trace : List DriverEntry) : Exchange α :=
  ⟨session, some (.error failure), trace ++ [.returned]⟩

/-- `send_frame` for the request; `text` is the text of an I/O error. -/
def request (session : Session) (frame : Frame) (sent : Except String Unit) : Exchange α :=
  match sent with
  | .ok () => ⟨session, none, [.wrote frame, .receiving]⟩
  | .error text => failed session (.protocol text) []

variable [Ciborium]

/-- One round of the loop: `recv_frame`, then the whole batch of the session. -/
def receive (settles : Settles α) (exchange : Exchange α) (reply : Except ClientError Frame)
    (nowMs : UInt64) : Exchange α :=
  match exchange.result with
  | some _ => exchange
  | none =>
    match reply with
    | .error failure => failed exchange.session failure exchange.trace
    | .ok frame =>
      let (session, actions) := exchange.session.onFrame frame nowMs none
      match settles actions with
      | none => ⟨session, none, exchange.trace ++ [.batch actions, .receiving]⟩
      | some result => ⟨session, some result, exchange.trace ++ [.batch actions, .returned]⟩

def receiveAll (settles : Settles α) (exchange : Exchange α)
    (replies : List (Except ClientError Frame × UInt64)) : Exchange α :=
  replies.foldl (fun exchange reply ↦ exchange.receive settles reply.1 reply.2) exchange

/-- What a round can do. -/
inductive Round (settles : Settles α) (exchange : Exchange α) :
    Except ClientError Frame → UInt64 → Exchange α → Prop
  | settled {reply : Except ClientError Frame} {nowMs : UInt64} (hresult : exchange.result ≠ none) :
      Round settles exchange reply nowMs exchange
  | failed {failure : ClientError} {nowMs : UInt64} (hresult : exchange.result = none) :
      Round settles exchange (.error failure) nowMs (failed exchange.session failure exchange.trace)
  | handled {frame : Frame} {nowMs : UInt64} {stop : DriverEntry} (hresult : exchange.result = none)
      (hstop : stop = .receiving ∨ stop = .returned) :
      Round settles exchange (.ok frame) nowMs
        ⟨(exchange.session.onFrame frame nowMs none).1,
          settles (exchange.session.onFrame frame nowMs none).2,
          exchange.trace ++ [.batch (exchange.session.onFrame frame nowMs none).2, stop]⟩

theorem receive_cases (settles : Settles α) (exchange : Exchange α)
    (reply : Except ClientError Frame) (nowMs : UInt64) :
    exchange.Round settles reply nowMs (exchange.receive settles reply nowMs) := by
  rcases hresult : exchange.result with - | result
  · cases reply with
    | error failure =>
      simp only [receive, hresult]
      exact .failed hresult
    | ok frame =>
      have hround (stop : DriverEntry) (hstop : stop = .receiving ∨ stop = .returned) :
          exchange.Round settles (.ok frame) nowMs _ := .handled hresult hstop
      simp only [receive, hresult]
      split
      · next hsettles => exact hsettles ▸ hround .receiving (.inl rfl)
      · next result hsettles => exact hsettles ▸ hround .returned (.inr rfl)
  · simp only [receive, hresult]
    exact .settled (by simp [hresult])

/-- A frame that an operation waits for is handled by the session, whose actions may settle it. -/
theorem receive_ok (settles : Settles α) {exchange : Exchange α} (hresult : exchange.result = none)
    (frame : Frame) (nowMs : UInt64) :
    (exchange.receive settles (.ok frame) nowMs).session =
        (exchange.session.onFrame frame nowMs none).1 ∧
      (exchange.receive settles (.ok frame) nowMs).result =
        settles (exchange.session.onFrame frame nowMs none).2 := by
  have hround := exchange.receive_cases settles (.ok frame) nowMs
  generalize exchange.receive settles (.ok frame) nowMs = later at hround
  cases hround with
  | settled hsettled => exact absurd hresult hsettled
  | handled => exact ⟨rfl, rfl⟩

theorem receiveAll_snoc (settles : Settles α) (exchange : Exchange α)
    (replies : List (Except ClientError Frame × UInt64)) (reply : Except ClientError Frame × UInt64) :
    exchange.receiveAll settles (replies ++ [reply]) =
      (exchange.receiveAll settles replies).receive settles reply.1 reply.2 :=
  List.foldl_concat ..

end Exchange

namespace Connection

variable [Ciborium]

/-- Push a clip; the clip id is the random draw. -/
def beamRequest (session : Session) (contentType : ContentType) (body : Bytes) (sourceName : String)
    (nowMs : UInt64) (randomId : Option (Octets 8)) (sent : Except String Unit) :
    Exchange (Octets 8) × Option (Octets 8) :=
  if maxTextClip < body.length then
    (.failed session (.tooLarge (UInt32.ofNat maxTextClip)) [], none)
  else
    match session.pushClip contentType body sourceName nowMs randomId with
    | (.error failure, session) => (.failed session (.ofError failure) [], none)
    | (.ok (frame, clipId), session) => (.request session frame sent, some clipId)

/-- Push a clip and wait for its acknowledgement. -/
def beam (session : Session) (contentType : ContentType) (body : Bytes) (sourceName : String)
    (nowMs : UInt64) (randomId : Option (Octets 8)) (sent : Except String Unit)
    (replies : List (Except ClientError Frame × UInt64)) : Exchange (Octets 8) :=
  match beamRequest session contentType body sourceName nowMs randomId sent with
  | (exchange, none) => exchange
  | (exchange, some clipId) => exchange.receiveAll (beamSettles clipId) replies

/-- Fetch the metadata of the staged clips. -/
def stageList (session : Session) (sent : Except String Unit)
    (replies : List (Except ClientError Frame × UInt64)) : Exchange (List StageMeta) :=
  match session.requestStageList with
  | (.error failure, session) => .failed session (.ofError failure) []
  | (.ok frame, session) => (Exchange.request session frame sent).receiveAll stageListSettles replies

/-- Fetch one staged body by id. -/
def stageItem (session : Session) (stageId : Octets 8) (sent : Except String Unit)
    (replies : List (Except ClientError Frame × UInt64)) : Exchange (ContentType × Bytes) :=
  match session.requestStageItem stageId with
  | (.error failure, session) => .failed session (.ofError failure) []
  | (.ok frame, session) =>
    (Exchange.request session frame sent).receiveAll (stageItemSettles stageId) replies

end Connection

end Client

end AirClip
