import AirClip.Phone.PendingHosts

/-!
# The app on the phone

The screens run on the main actor, and the commands of the core in tasks of their own.  A command holds
the lock of the core only while it reads or writes the state, not while it uses the network, so its parts
interleave with those of other commands.  What a command reports is put to the main actor as a job, which
runs at some later time.  The identity and the pairings are kept in the Keychain, from which the next
launch takes them.
-/

open Foundation

namespace AirClip

/-! ## The Keychain -/

/-- What the Keychain does for a write: whether it changes an item there is, and adds one there is not. -/
structure KeychainAccess where
  updates : Bool
  adds : Bool

/-- The items of the app. -/
structure Keychain where
  identitySeed : Option Bytes
  pairings : Option Bytes

/-- Update, then add: adding fails for an item that exists. -/
def KeychainStore.write (item : Option Bytes) (value : Bytes) (access : KeychainAccess) : Option Bytes :=
  if item.isSome && access.updates then some value
  else if item.isNone && access.adds then some value
  else item

/-- A write leaves the item as it was, or with the value. -/
theorem KeychainStore.write_cases (item : Option Bytes) (value : Bytes) (access : KeychainAccess) :
    write item value access = item ∨ write item value access = some value := by
  unfold write
  split_ifs
  · exact .inr rfl
  · exact .inr rfl
  · exact .inl rfl

/-- The Keychain does what it is asked for. -/
def KeychainAccess.Works (access : KeychainAccess) : Prop := access.updates ∧ access.adds

theorem KeychainStore.write_works (item : Option Bytes) (value : Bytes) {access : KeychainAccess}
    (h : access.Works) : write item value access = some value := by
  unfold write
  rw [h.1, h.2]
  cases item <;> rfl

/-! ## The parts of a command -/

/-- The text that Swift makes of an error. -/
class ErrorText where
  describe : FfiError → String

namespace CoreState

section Parts

variable [Primitives] [NetAddresses]

/-- `start_pairing` under its first lock. -/
def scan (state : CoreState) (qr : QrPayload) : CoreState :=
  { state with pendingHosts := resolveHosts qr.hosts }

/-- `start_pairing` under its second lock. -/
def await (state : CoreState) (pending : PendingPairing) : CoreState :=
  { state with pending := some pending }

/-- `confirm_sas` under its first lock. -/
def take (state : CoreState) : CoreState := { state with pending := none }

/-- `confirm_sas` under its second lock. -/
def store (state : CoreState) (record : PairingRecord) : CoreState :=
  { state with
    peers := state.peers.filter (fun peer ↦ peer.deviceId ≠ record.deviceId) ++ [record]
    hints := addHints state.hints state.pendingHosts
    pendingHosts := [] }

variable [Ciborium] [TextCodecs] [DebugText]

/-- A pairing that nothing else comes between has the effect of the whole command. -/
theorem startPairing_state (state : CoreState) {qrUrl displayName : String} {qr : QrPayload}
    (hread : QrPayload.parse qrUrl = .ok qr) (network : PairingEnvironment) :
    (state.startPairing qrUrl displayName network).state =
      match beginPairing state.identity displayName qr network with
      | .error _ => state.scan qr
      | .ok pending => (state.scan qr).await pending := by
  rw [startPairing, hread]
  dsimp only
  cases beginPairing state.identity displayName qr network with
  | error failure => rfl
  | ok pending => rfl

omit [Ciborium] [TextCodecs] [DebugText] in
/-- So has a confirmation. -/
theorem confirmSas_stored [SerdeJson] (state : CoreState) {pending : PendingPairing}
    {record : PairingRecord} {sent : Except String Unit} (hpending : state.pending = some pending)
    (hconfirm : pending.confirm sent = .ok record) :
    (state.confirmSas sent).state = state.take.store record := by
  rw [confirmSas, hpending]
  dsimp only
  rw [hconfirm]
  rfl

end Parts

end CoreState

/-! ## Tasks and jobs -/

section Tasks

variable [Primitives]

/-- A command of the core in its task. -/
inductive CommandTask where
  | idle
  /-- Created with a scanned code; `start_pairing` has not been called yet. -/
  | scanned (qrUrl displayName : String)
  /-- `start_pairing` between its locks. -/
  | dialing (qr : QrPayload) (displayName : String) (identity : IdentityKeypair)
  /-- Created when the user has found these emoji to match. -/
  | matched (shown : List String)
  /-- `confirm_sas` between its locks, with the number of the exchange it has taken. -/
  | confirming (number : ℕ) (pending : PendingPairing)
  /-- The confirmation has been written. -/
  | storing (record : PairingRecord)

/-- What is put to the main actor. -/
inductive MainJob where
  | event (event : CoreEvent)
  /-- A pairing command has thrown. -/
  | threw (failure : FfiError)
deriving DecidableEq

/-- What the pairing screen shows. -/
inductive PairingPhase where
  | idle
  | connecting
  /-- The user must compare these emoji. -/
  | confirming (emoji : List String)
  | paired (name : String)
  | failed (reason : String)
deriving DecidableEq

/-- An exchange that has got as far as its emoji. -/
structure ShownExchange where
  qr : QrPayload
  nowMs : UInt64
  sas : List String

variable [NetAddresses]

/-- The app; its tasks go by names.  Behind them is what has happened in all launches: the exchanges that
have got to their emoji, in this order, the numbers of those whose confirmation has been written, and for
each that a confirmation has taken the emoji that the user had found to match. -/
structure PhoneApp (T : Type) where
  core : CoreState
  keychain : Keychain
  /-- Not after a launch that has failed. -/
  running : Bool
  tasks : T → CommandTask
  jobs : List MainJob
  /-- The pairings that the main actor has still to forget. -/
  forgetting : Option (List String)
  phase : PairingPhase
  isPaired : Bool
  peerName : Option String
  exchanges : List ShownExchange
  confirmed : List (ℕ × PairingRecord)
  compared : List (List String × ℕ)

namespace PhoneApp

variable {T : Type}

inductive Input (T : Type) where
  /-- The process ends, and the app is launched; the two reads of the Keychain may fail. -/
  | launch (readsSeed readsPairings : Bool) (access : KeychainAccess) (random : Option Key32)
  /-- A code is scanned. -/
  | beginPairing (t : T) (qrUrl displayName : String)
  | startPairing (t : T)
  | exchange (t : T) (network : PairingEnvironment)
  /-- The user taps "They match". -/
  | confirmPairing (t : T)
  | confirmSas (t : T)
  | sendConfirm (t : T) (sent : Except String Unit)
  | storePeer (t : T) (access : KeychainAccess)
  | cancelPairing
  | forgetPeer
  /-- The main actor forgets the next pairing, or is done with it. -/
  | forgetNext (access : KeychainAccess)
  | addPeerHint (host : String) (port : UInt16)
  | clearPeerHints
  /-- The main actor runs one of its jobs. -/
  | runJob (index : ℕ)

def refreshPeers (app : PhoneApp T) : PhoneApp T :=
  { app with
    isPaired := app.core.isPaired
    peerName := app.core.peers.head?.map PairingRecord.displayName }

def post (app : PhoneApp T) (jobs : List MainJob) : PhoneApp T := { app with jobs := app.jobs ++ jobs }

/-- What the screen shows after an event of the core. -/
def handle (app : PhoneApp T) : CoreEvent → PhoneApp T
  | .pairingSas emoji => { app with phase := .confirming emoji }
  | .paired _ displayName => { app.refreshPeers with phase := .paired displayName }
  | .pairingFailed reason => { app with phase := .failed reason }
  -- Only the line for errors changes.
  | .peerUnreachable => app

def runJob [ErrorText] (app : PhoneApp T) : MainJob → PhoneApp T
  | .event event => app.handle event
  | .threw failure => { app with phase := .failed (ErrorText.describe failure) }

/-- A job changes what the screen shows. -/
theorem runJob_frame [ErrorText] (app : PhoneApp T) (job : MainJob) :
    app.runJob job = { app with
      phase := (app.runJob job).phase
      isPaired := (app.runJob job).isPaired
      peerName := (app.runJob job).peerName } := by
  cases job with
  | event event => cases event <;> rfl
  | threw failure => rfl

variable [SerdeJson]

/-- The pairings that a launch finds in the Keychain. -/
def storedPeers (keychain : Keychain) : List PairingRecord :=
  (keychain.pairings.bind fun json ↦ (SerdeJson.fromSlice json).toOption).getD []

/-- The pairings of the core are handed to the Keychain. -/
def storePairings (app : PhoneApp T) (access : KeychainAccess) : PhoneApp T :=
  match SerdeJson.toVec app.core.peers with
  | .ok json =>
    { app with
      keychain.pairings := KeychainStore.write app.keychain.pairings json access }
  | .error _ => app

/-- What is handed to the Keychain concerns nothing else, and is either there afterwards or not. -/
theorem storePairings_cases (app : PhoneApp T) (access : KeychainAccess) :
    app.storePairings access = app ∨ ∃ json, SerdeJson.toVec app.core.peers = .ok json ∧
      app.storePairings access = { app with keychain.pairings := some json } := by
  unfold storePairings
  split
  · next json hjson =>
    obtain hsame | hwritten := KeychainStore.write_cases app.keychain.pairings json access
    · rw [hsame]
      exact .inl rfl
    · rw [hwritten]
      exact .inr ⟨json, hjson, rfl⟩
  · exact .inl rfl

theorem storePairings_frame (app : PhoneApp T) (access : KeychainAccess) :
    app.storePairings access = { app with keychain := (app.storePairings access).keychain } := by
  obtain hsame | ⟨json, -, hwritten⟩ := app.storePairings_cases access
  · rw [hsame]
  · rw [hwritten]

/-- The state of a process that has just begun. -/
def clear (app : PhoneApp T) : PhoneApp T :=
  { app with
    running := false, tasks := fun _ ↦ .idle, jobs := [], forgetting := none, phase := .idle,
    isPaired := false, peerName := none }

/-- `CoreController.init`. -/
def launch (app : PhoneApp T) (readsSeed readsPairings : Bool) (access : KeychainAccess)
    (random : Option Key32) : PhoneApp T :=
  let seed := if readsSeed then app.keychain.identitySeed else none
  let pairings := if readsPairings then app.keychain.pairings else none
  match CoreState.new seed pairings random with
  | .error _ => app.clear
  | .ok (core, effects) =>
    let identitySeed := effects.foldl (fun item effect ↦
      match effect with
      | .storeIdentitySeed seed => KeychainStore.write item seed access
      | _ => item) app.keychain.identitySeed
    refreshPeers { app.clear with running := true, core, keychain.identitySeed := identitySeed }

variable [DecidableEq T]

def setTask (app : PhoneApp T) (t : T) (task : CommandTask) : PhoneApp T :=
  { app with tasks := Function.update app.tasks t task }

/-- The command of the task has returned or thrown, and the task ends. -/
def finish (app : PhoneApp T) (t : T) (jobs : List MainJob) : PhoneApp T :=
  (app.setTask t .idle).post jobs

variable [Ciborium] [TextCodecs] [DebugText] [ErrorText]

/-- What a running app does.  While the main actor forgets pairings it does nothing else. -/
def act (app : PhoneApp T) : Input T → PhoneApp T
  | .launch readsSeed readsPairings access random =>
    app.launch readsSeed readsPairings access random
  | .beginPairing t qrUrl displayName =>
    match app.forgetting, app.phase, app.tasks t with
    | none, .idle, .idle => { app.setTask t (.scanned qrUrl displayName) with phase := .connecting }
    | _, _, _ => app
  | .startPairing t =>
    match app.tasks t with
    | .scanned qrUrl displayName =>
      match QrPayload.parse qrUrl with
      | .error failure => app.finish t [.threw (.rejected failure.display)]
      | .ok qr =>
        { app.setTask t (.dialing qr displayName app.core.identity) with core := app.core.scan qr }
    | _ => app
  | .exchange t network =>
    match app.tasks t with
    | .dialing qr displayName identity =>
      match beginPairing identity displayName qr network with
      | .error failure =>
        app.finish t ((if failure = .unreachable then [.event .peerUnreachable] else []) ++
          [.event (.pairingFailed failure.display), .threw (.ofClient failure)])
      | .ok pending =>
        { app.finish t [.event (.pairingSas pending.sas.toList)] with
          core := app.core.await pending
          exchanges := app.exchanges ++ [⟨qr, network.nowMs, pending.sas.toList⟩] }
    | _ => app
  | .confirmPairing t =>
    match app.forgetting, app.phase, app.tasks t with
    | none, .confirming emoji, .idle => app.setTask t (.matched emoji)
    | _, _, _ => app
  | .confirmSas t =>
    match app.tasks t with
    | .matched shown =>
      match app.core.pending with
      | none => app.finish t [.threw (.internal "no pairing in progress")]
      | some pending =>
        -- What is pending comes from the last exchange that has got to its emoji.
        let number := app.exchanges.length - 1
        { app.setTask t (.confirming number pending) with
          core := app.core.take
          compared := app.compared ++ [(shown, number)] }
    | _ => app
  | .sendConfirm t sent =>
    match app.tasks t with
    | .confirming number pending =>
      match pending.confirm sent with
      | .error failure => app.finish t [.threw (.ofClient failure)]
      | .ok record =>
        { app.setTask t (.storing record) with confirmed := app.confirmed ++ [(number, record)] }
    | _ => app
  | .storePeer t access =>
    match app.tasks t with
    | .storing record =>
      storePairings { app.finish t [.event (.paired record.deviceId record.displayName)] with
        core := app.core.store record } access
    | _ => app
  | .cancelPairing =>
    match app.forgetting with
    | none => { app with core := app.core.cancelPairing, phase := .idle }
    | some _ => app
  | .forgetPeer =>
    match app.forgetting with
    | none => { app with forgetting := some (app.core.peers.map PairingRecord.deviceId) }
    | some _ => app
  | .forgetNext access =>
    match app.forgetting with
    | none => app
    | some [] => { app.refreshPeers with forgetting := none, phase := .idle }
    | some (deviceId :: rest) =>
      storePairings { app with core := (app.core.forgetPeer deviceId).1, forgetting := some rest } access
  | .addPeerHint host port => { app with core := app.core.addPeerHint host port }
  | .clearPeerHints => { app with core := app.core.clearPeerHints }
  | .runJob index =>
    match app.forgetting, app.jobs[index]? with
    | none, some job => runJob { app with jobs := app.jobs.eraseIdx index } job
    | _, _ => app

/-- An app that is not running can only be launched. -/
def step (app : PhoneApp T) (input : Input T) : PhoneApp T :=
  match app.running, input with
  | false, .launch readsSeed readsPairings access random =>
    app.launch readsSeed readsPairings access random
  | false, _ => app
  | true, input => app.act input

def run (app : PhoneApp T) (inputs : List (Input T)) : PhoneApp T := inputs.foldl step app

/-- An app that has not been launched yet, on a phone with this Keychain. -/
def installed (keychain : Keychain) (identity : IdentityKeypair) : PhoneApp T where
  core := .opened identity (storedPeers keychain)
  keychain := keychain
  running := false
  tasks _ := .idle
  jobs := []
  forgetting := none
  phase := .idle
  isPaired := false
  peerName := none
  exchanges := []
  confirmed := []
  compared := []

/-! ## What a step does -/

/-- The jobs tell of no emoji and of no pairing. -/
def OnlyFailures (jobs : List MainJob) : Prop :=
  (∀ emoji, .event (.pairingSas emoji) ∉ jobs) ∧ ∀ deviceId name, .event (.paired deviceId name) ∉ jobs

omit [Primitives] [NetAddresses] [SerdeJson] [DecidableEq T] [Ciborium] [TextCodecs] [DebugText]
  [ErrorText] in
theorem onlyFailures_threw (failure : FfiError) : OnlyFailures [.threw failure] := by
  simp [OnlyFailures]

/-- The steps of the app. -/
inductive Stepped (app : PhoneApp T) : Input T → PhoneApp T → Prop
  | still {input : Input T} : Stepped app input app
  | stopped {readsSeed readsPairings : Bool} {access : KeychainAccess} {random : Option Key32} :
      Stepped app (.launch readsSeed readsPairings access random) app.clear
  | launched {readsSeed readsPairings : Bool} {access : KeychainAccess} {random : Option Key32}
      {identity : IdentityKeypair} (identitySeed : Option Bytes) :
      Stepped app (.launch readsSeed readsPairings access random) (refreshPeers { app.clear with
        running := true
        core := .opened identity (if readsPairings then storedPeers app.keychain else [])
        keychain.identitySeed := identitySeed })
  | scanned {t : T} {qrUrl displayName : String} (hphase : app.phase = .idle)
      (htask : app.tasks t = .idle) : Stepped app (.beginPairing t qrUrl displayName)
        { app.setTask t (.scanned qrUrl displayName) with phase := .connecting }
  | dialed {t : T} {qrUrl displayName : String} {qr : QrPayload}
      (htask : app.tasks t = .scanned qrUrl displayName) : Stepped app (.startPairing t)
        { app.setTask t (.dialing qr displayName app.core.identity) with core := app.core.scan qr }
  | threw {input : Input T} {t : T} {jobs : List MainJob} (hjobs : OnlyFailures jobs) :
      Stepped app input (app.finish t jobs)
  | shown {t : T} {network : PairingEnvironment} {qr : QrPayload} {displayName : String}
      {identity : IdentityKeypair} {pending : PendingPairing}
      (htask : app.tasks t = .dialing qr displayName identity)
      (hbegin : beginPairing identity displayName qr network = .ok pending) :
      Stepped app (.exchange t network)
        { app.finish t [.event (.pairingSas pending.sas.toList)] with
          core := app.core.await pending
          exchanges := app.exchanges ++ [⟨qr, network.nowMs, pending.sas.toList⟩] }
  | matched {t : T} {emoji : List String} (hphase : app.phase = .confirming emoji)
      (htask : app.tasks t = .idle) :
      Stepped app (.confirmPairing t) (app.setTask t (.matched emoji))
  | took {t : T} {shown : List String} {pending : PendingPairing} (htask : app.tasks t = .matched shown)
      (hpending : app.core.pending = some pending) : Stepped app (.confirmSas t)
        { app.setTask t (.confirming (app.exchanges.length - 1) pending) with
          core := app.core.take
          compared := app.compared ++ [(shown, app.exchanges.length - 1)] }
  | sent {t : T} {number : ℕ} {pending : PendingPairing} {record : PairingRecord}
      {sent : Except String Unit} (htask : app.tasks t = .confirming number pending)
      (hconfirm : pending.confirm sent = .ok record) : Stepped app (.sendConfirm t sent)
        { app.setTask t (.storing record) with confirmed := app.confirmed ++ [(number, record)] }
  | stored {t : T} {record : PairingRecord} {access : KeychainAccess}
      (htask : app.tasks t = .storing record) : Stepped app (.storePeer t access)
        (storePairings { app.finish t [.event (.paired record.deviceId record.displayName)] with
          core := app.core.store record } access)
  | cancelled : Stepped app .cancelPairing { app with core := app.core.cancelPairing, phase := .idle }
  | forgetting (deviceIds : List String) :
      Stepped app .forgetPeer { app with forgetting := some deviceIds }
  | forgot {access : KeychainAccess} {deviceId : String} {rest : List String}
      (hforgetting : app.forgetting = some (deviceId :: rest)) : Stepped app (.forgetNext access)
        (storePairings { app with core := (app.core.forgetPeer deviceId).1, forgetting := some rest }
          access)
  | forgotten {access : KeychainAccess} (hforgetting : app.forgetting = some []) :
      Stepped app (.forgetNext access) { app.refreshPeers with forgetting := none, phase := .idle }
  | hinted {input : Input T} {core : CoreState} (hpeers : core.peers = app.core.peers)
      (hpending : core.pending = app.core.pending) : Stepped app input { app with core }
  | ran {index : ℕ} {job : MainJob} (hjob : app.jobs[index]? = some job) :
      Stepped app (.runJob index) (runJob { app with jobs := app.jobs.eraseIdx index } job)

theorem launch_cases (app : PhoneApp T) (readsSeed readsPairings : Bool) (access : KeychainAccess)
    (random : Option Key32) : app.Stepped (.launch readsSeed readsPairings access random)
      (app.launch readsSeed readsPairings access random) := by
  have hpeers : ((if readsPairings then app.keychain.pairings else none).bind fun json ↦
      (SerdeJson.fromSlice json).toOption).getD [] =
        if readsPairings then storedPeers app.keychain else [] := by
    cases readsPairings <;> rfl
  rw [launch, CoreState.new]
  dsimp only
  rw [hpeers]
  cases (if readsSeed then app.keychain.identitySeed else none).bind (Octets.ofBytes? 32) with
  | some seed => exact .launched _
  | none =>
    cases Keypair.generate random with
    | error failure => exact .stopped
    | ok identity => exact .launched _

theorem act_cases (app : PhoneApp T) (input : Input T) : app.Stepped input (app.act input) := by
  cases input with
  | launch => exact app.launch_cases ..
  | beginPairing t qrUrl displayName =>
    rw [act]
    split
    · next hphase htask => exact .scanned hphase htask
    · exact .still
  | startPairing t =>
    rw [act]
    split
    · next htask =>
      split
      · exact .threw (onlyFailures_threw _)
      · exact .dialed htask
    · exact .still
  | exchange t network =>
    rw [act]
    split
    · next htask =>
      split
      · refine .threw ?_
        split_ifs <;> simp [OnlyFailures]
      · next hbegin => exact .shown htask hbegin
    · exact .still
  | confirmPairing t =>
    rw [act]
    split
    · next hphase htask => exact .matched hphase htask
    · exact .still
  | confirmSas t =>
    rw [act]
    split
    · next htask =>
      split
      · exact .threw (onlyFailures_threw _)
      · next hpending => exact .took htask hpending
    · exact .still
  | sendConfirm t sent =>
    rw [act]
    split
    · next htask =>
      split
      · exact .threw (onlyFailures_threw _)
      · next hconfirm => exact .sent htask hconfirm
    · exact .still
  | storePeer t access =>
    rw [act]
    split
    · next htask => exact .stored htask
    · exact .still
  | cancelPairing =>
    rw [act]
    split
    · exact .cancelled
    · exact .still
  | forgetPeer =>
    rw [act]
    split
    · exact .forgetting _
    · exact .still
  | forgetNext access =>
    rw [act]
    split
    · exact .still
    · next hforgetting => exact .forgotten hforgetting
    · next hforgetting => exact .forgot hforgetting
  | addPeerHint host port =>
    refine .hinted ?_ ?_ <;> rw [CoreState.addPeerHint] <;> split <;> rfl
  | clearPeerHints => exact .hinted rfl rfl
  | runJob index =>
    rw [act]
    split
    · next hjob => exact .ran hjob
    · exact .still

theorem step_cases (app : PhoneApp T) (input : Input T) : app.Stepped input (app.step input) := by
  unfold step
  split
  · exact app.launch_cases ..
  · exact .still
  · exact app.act_cases _

end PhoneApp

end Tasks

end AirClip
