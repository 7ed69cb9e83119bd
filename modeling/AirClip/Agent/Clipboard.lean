import AirClip.Core.StageHistory
import AirClip.Foundation.Runs

/-!
# Clipboard of the agent

Clips from the phone are written to the clipboard, and what is copied locally is read from it and
staged.  A guard holds the sequence number of the agent's last write, so that the reader can tell it
from a local copy.  The reader is given a guard of its own, and every write records its number in a new
one, so the reader takes every write for a local copy.
-/

open Foundation

namespace AirClip

/-! ## Texts -/

/-- `char::is_whitespace`. -/
def isWhitespace (c : Char) : Bool :=
  let scalar := c.toNat
  (9 ≤ scalar && scalar ≤ 13) || scalar == 0x20 || scalar == 0x85 || scalar == 0xA0 ||
    scalar == 0x1680 || (0x2000 ≤ scalar && scalar ≤ 0x200A) || scalar == 0x2028 ||
    scalar == 0x2029 || scalar == 0x202F || scalar == 0x205F || scalar == 0x3000

def trim (text : List Char) : List Char :=
  ((text.dropWhile isWhitespace).reverse.dropWhile isWhitespace).reverse

/-- Tag text as URL or plain text for the wire. -/
def classify (text : String) : ContentType :=
  let t := trim text.toList
  if !t.any isWhitespace && ("http://".toList.isPrefixOf t || "https://".toList.isPrefixOf t) then
    .url
  else .text

example : ["https://example.com", "http://a.b/c?d=e", "  https://example.com  ", "hello world",
    "see https://example.com now", "ftp://example.com", ""].map classify =
      [.url, .url, .url, .text, .text, .text, .text] := by decide +kernel

/-! ## The clipboard and its guards -/

/-- Who has written what the clipboard holds. -/
inductive Writer where
  | nobody
  | user
  | agent
deriving DecidableEq

/-- The clipboard: its text, if what it holds is text, the sequence number, and the last writer. -/
structure Clipboard where
  text : Option String
  seq : UInt32
  writer : Writer
deriving DecidableEq

/-- The text is stored with a terminating zero, and read up to the first one. -/
def Clipboard.getText (clipboard : Clipboard) : Option String :=
  clipboard.text.map fun text ↦ String.ofList (text.toList.takeWhile fun c ↦ c != '\x00')

/-- A shared cell, by the place at which it was made. -/
abbrev OwnWriteGuard := ℕ

/-- A locally-copied clip observed by the watcher. -/
structure ClipboardEvent where
  contentType : ContentType
  body : Bytes
deriving DecidableEq

def ClipboardEvent.ofText (text : String) : ClipboardEvent := ⟨classify text, utf8 text⟩

/-- What the ring is offered for an event. -/
def ClipboardEvent.copy (event : ClipboardEvent) (nowMs : UInt64) (randomId : Option (Octets 8)) :
    LocalCopy := ⟨event.contentType, event.body, nowMs, randomId⟩

/-- The event that a copy was offered for. -/
def LocalCopy.event (offered : LocalCopy) : ClipboardEvent := ⟨offered.contentType, offered.body⟩

theorem LocalCopy.event_of_accepted {offered : LocalCopy} {clip : StagedClip}
    (h : offered.accepted = some clip) : offered.event = ⟨clip.contentType, clip.body⟩ := by
  unfold accepted at h
  split_ifs at h
  obtain ⟨stageId, -, rfl⟩ := Option.map_eq_some_iff.mp h
  rfl

/-- What comes of a write: the clipboard stays busy, or it is emptied and then the write fails, or it
holds the text. -/
inductive WriteOutcome where
  | busy
  | emptied (seq : UInt32)
  | written (seq : UInt32)
deriving DecidableEq

/-- The clipboard, the guards, and the threads at work on them. -/
structure Desktop where
  clipboard : Clipboard
  /-- The sequence numbers in the guards. -/
  cells : List UInt32
  /-- The event pump has written, and has still to record the sequence number in this guard. -/
  recording : Option OwnWriteGuard
  /-- The reader has woken to a write that its guard does not hold, and has still to read it. -/
  woken : Bool
  /-- Events on their way to the ring. -/
  queue : List ClipboardEvent
  stage : StageRing
  /-- Every event emitted so far, with the writer of what was read. -/
  emitted : List (ClipboardEvent × Writer)
  /-- Every copy the ring has been offered so far. -/
  offered : List LocalCopy

/-- What happens to the clipboard and its threads. -/
inductive DesktopInput where
  /-- The user copies something, a text or not. -/
  | copy (text : Option String) (seq : UInt32)
  /-- The event pump handles a clip from the phone. -/
  | clipArrived (body : Bytes) (outcome : WriteOutcome)
  /-- The event pump records the sequence number of its write. -/
  | recorded
  /-- The reader wakes, and asks its guard. -/
  | wake
  /-- The reader reads the text, unless the clipboard stays busy. -/
  | read (works : Bool)
  /-- The next event is staged. -/
  | stageNext (nowMs : UInt64) (randomId : Option (Octets 8))
deriving DecidableEq

namespace Desktop

/-- `OwnWriteGuard::default`. -/
def newGuard (desktop : Desktop) : OwnWriteGuard × Desktop :=
  (desktop.cells.length, { desktop with cells := desktop.cells ++ [0] })

def record (desktop : Desktop) (guard : OwnWriteGuard) (seq : UInt32) : Desktop :=
  { desktop with cells := desktop.cells.set guard seq }

def isOwn (desktop : Desktop) (guard : OwnWriteGuard) (seq : UInt32) : Bool :=
  desktop.cells[guard]? == some seq

/-- The guard that the watcher is spawned with. -/
def watcherGuard : OwnWriteGuard := 0

/-- The services are started on a clipboard that neither the user nor the agent has written yet. -/
def start (text : Option String) (seq : UInt32) : Desktop :=
  (newGuard { clipboard := ⟨text, seq, .nobody⟩, cells := [], recording := none, woken := false,
              queue := [], stage := .default, emitted := [], offered := [] }).2

/-- A write raises the sequence number. -/
def write (desktop : Desktop) (text : Option String) (seq : UInt32) (writer : Writer) : Desktop :=
  if desktop.clipboard.seq < seq then { desktop with clipboard := ⟨text, seq, writer⟩ } else desktop

/-- `set_text` up to the recording of the sequence number. -/
def setText (desktop : Desktop) (text : String) (guard : OwnWriteGuard) : WriteOutcome → Desktop
  | .busy => desktop
  | .emptied seq => desktop.write none seq .agent
  | .written seq => { desktop.write (some text) seq .agent with recording := some guard }

/-- A clip arrives: its text is written with a guard of its own. -/
def handleAgentEvent (desktop : Desktop) (body : Bytes) (outcome : WriteOutcome) : Desktop :=
  let (guard, desktop) := desktop.newGuard
  desktop.setText (fromUtf8Lossy body) guard outcome

/-- The reader emits what it has read. -/
def emit (desktop : Desktop) : Option String → Desktop
  | some text =>
    if text = "" then desktop
    else { desktop with
      queue := desktop.queue ++ [.ofText text]
      emitted := desktop.emitted ++ [(.ofText text, desktop.clipboard.writer)] }
  | none => desktop

/-- One step of a thread; an input it is not ready for changes nothing. -/
def step (desktop : Desktop) : DesktopInput → Desktop
  | .copy text seq => desktop.write text seq .user
  | .clipArrived body outcome =>
    if desktop.recording = none then desktop.handleAgentEvent body outcome else desktop
  | .recorded =>
    match desktop.recording with
    | some guard => { desktop.record guard desktop.clipboard.seq with recording := none }
    | none => desktop
  | .wake => { desktop with
      woken := desktop.woken || !desktop.isOwn watcherGuard desktop.clipboard.seq }
  | .read works =>
    if desktop.woken then
      { desktop.emit (if works then desktop.clipboard.getText else none) with woken := false }
    else desktop
  | .stageNext nowMs randomId =>
    match desktop.queue with
    | event :: queue => { desktop with
        queue
        stage := (desktop.stage.push event.contentType event.body nowMs randomId).2
        offered := desktop.offered ++ [event.copy nowMs randomId] }
    | [] => desktop

def run (desktop : Desktop) (inputs : List DesktopInput) : Desktop := inputs.foldl step desktop

theorem run_invariant {P : Desktop → Prop} {inputs : List DesktopInput}
    (hstep : ∀ desktop, ∀ input ∈ inputs, P desktop → P (desktop.step input)) {desktop : Desktop}
    (hinit : P desktop) : P (desktop.run inputs) := foldl_invariant hstep hinit

/-! ## The invariant of the threads -/

/-- The reader's guard holds no sequence number of a write.  What has been emitted has been offered to
the ring, in order, or is still queued; and the ring holds the last of what it has accepted. -/
structure Inv (desktop : Desktop) : Prop where
  guard : desktop.cells[watcherGuard]? = some 0
  recording : desktop.recording ≠ some watcherGuard
  seq : desktop.clipboard.writer ≠ .nobody → desktop.clipboard.seq ≠ 0
  events : desktop.emitted.map Prod.fst = desktop.offered.map LocalCopy.event ++ desktop.queue
  stage : desktop.stage.Holds (desktop.offered.filterMap LocalCopy.accepted)

theorem inv_start (text : Option String) (seq : UInt32) : (start text seq).Inv where
  guard := rfl
  recording := by simp [start, newGuard]
  seq h := absurd rfl h
  events := rfl
  stage := StageRing.holds_default

variable {desktop : Desktop}

theorem Inv.write (h : desktop.Inv) (text : Option String) (seq : UInt32) (writer : Writer) :
    (desktop.write text seq writer).Inv := by
  unfold Desktop.write
  split_ifs with hlt
  · refine ⟨h.guard, h.recording, fun _ hzero ↦ ?_, h.events, h.stage⟩
    dsimp only at hzero
    rw [hzero] at hlt
    exact absurd hlt (by simp)
  · exact h

/-- A new guard is not the reader's. -/
theorem Inv.newGuard (h : desktop.Inv) :
    desktop.newGuard.1 ≠ watcherGuard ∧ desktop.newGuard.2.Inv := by
  have hlt : watcherGuard < desktop.cells.length := by
    obtain ⟨hlt, -⟩ := List.getElem?_eq_some_iff.mp h.guard
    exact hlt
  refine ⟨Nat.ne_of_gt hlt, ?_, h.recording, h.seq, h.events, h.stage⟩
  change (desktop.cells ++ [0])[watcherGuard]? = some 0
  rw [List.getElem?_append_left hlt]
  exact h.guard

theorem Inv.handleAgentEvent (h : desktop.Inv) (body : Bytes) (outcome : WriteOutcome) :
    (desktop.handleAgentEvent body outcome).Inv := by
  obtain ⟨hne, hnew⟩ := h.newGuard
  unfold Desktop.handleAgentEvent
  cases outcome with
  | busy => exact hnew
  | emptied seq => exact hnew.write none seq .agent
  | written seq =>
    have hwritten := hnew.write (some (fromUtf8Lossy body)) seq .agent
    exact ⟨hwritten.guard, fun heq ↦ hne (Option.some.inj heq), hwritten.seq, hwritten.events,
      hwritten.stage⟩

theorem Inv.emit (h : desktop.Inv) (text : Option String) : (desktop.emit text).Inv := by
  unfold Desktop.emit
  split
  · split_ifs
    · exact h
    · refine ⟨h.guard, h.recording, h.seq, ?_, h.stage⟩
      rw [List.map_append, h.events, List.append_assoc]
      rfl
  · exact h

theorem Inv.step (h : desktop.Inv) (input : DesktopInput) : (desktop.step input).Inv := by
  cases input with
  | copy text seq => exact h.write text seq .user
  | clipArrived body outcome =>
    rw [Desktop.step]
    split_ifs
    · exact h.handleAgentEvent body outcome
    · exact h
  | recorded =>
    rw [Desktop.step]
    split
    · next guard hrecording =>
      refine ⟨?_, by simp, h.seq, h.events, h.stage⟩
      have hne : guard ≠ watcherGuard := fun heq ↦ h.recording (heq ▸ hrecording)
      change (desktop.cells.set guard _)[watcherGuard]? = some 0
      rw [List.getElem?_set_ne hne]
      exact h.guard
    · exact h
  | wake => exact ⟨h.guard, h.recording, h.seq, h.events, h.stage⟩
  | read works =>
    rw [Desktop.step]
    split_ifs with hwoken
    all_goals first
      | exact h
      | skip
    · have hemit := h.emit desktop.clipboard.getText
      exact ⟨hemit.guard, hemit.recording, hemit.seq, hemit.events, hemit.stage⟩
    · exact ⟨h.guard, h.recording, h.seq, h.events, h.stage⟩
  | stageNext nowMs randomId =>
    rw [Desktop.step]
    split
    · next event queue hqueue =>
      have hevents := h.events
      have hpush := h.stage.push (event.copy nowMs randomId)
      rw [hqueue] at hevents
      refine ⟨h.guard, h.recording, h.seq, ?_, ?_⟩
      · rw [hevents, List.map_append, List.append_assoc]
        rfl
      · rw [List.filterMap_append, LocalCopy.filterMap_accepted]
        exact hpush
    · exact h

theorem run_inv (text : Option String) (seq : UInt32) (inputs : List DesktopInput) :
    ((start text seq).run inputs).Inv :=
  run_invariant (fun _ input _ h ↦ h.step input) (inv_start text seq)

/-! ## What is emitted -/

/-- The reader is about to read a text that the agent itself has written. -/
def ReadsOwn (desktop : Desktop) (input : DesktopInput) : Prop :=
  input = .read true ∧ desktop.woken = true ∧ desktop.clipboard.writer = .agent ∧
    ∃ text, desktop.clipboard.getText = some text ∧ text ≠ ""

/-- A step emits nothing, or the text that the clipboard holds. -/
theorem step_emitted (desktop : Desktop) (input : DesktopInput) :
    (desktop.step input).emitted = desktop.emitted ∧
        ¬ (input = .read true ∧ desktop.woken = true ∧
          ∃ text, desktop.clipboard.getText = some text ∧ text ≠ "") ∨
      ∃ text, input = .read true ∧ desktop.woken = true ∧ desktop.clipboard.getText = some text ∧
        text ≠ "" ∧ (desktop.step input).emitted =
          desktop.emitted ++ [(.ofText text, desktop.clipboard.writer)] := by
  have hwrite (desktop : Desktop) (text : Option String) (seq : UInt32) (writer : Writer) :
      (desktop.write text seq writer).emitted = desktop.emitted := by
    unfold Desktop.write
    split_ifs <;> rfl
  cases input with
  | copy text seq => exact .inl ⟨hwrite .., by simp⟩
  | clipArrived body outcome =>
    refine .inl ⟨?_, by simp⟩
    rw [Desktop.step]
    split_ifs
    · cases outcome with
      | busy => rfl
      | emptied | written => exact hwrite ..
    · rfl
  | recorded =>
    refine .inl ⟨?_, by simp⟩
    rw [Desktop.step]
    split <;> rfl
  | wake => exact .inl ⟨rfl, by simp⟩
  | stageNext =>
    refine .inl ⟨?_, by simp⟩
    rw [Desktop.step]
    split <;> rfl
  | read works =>
    rw [Desktop.step]
    split_ifs with hwoken hworks
    · subst hworks
      rcases htext : desktop.clipboard.getText with - | text
      · exact .inl ⟨rfl, by simp⟩
      · by_cases hempty : text = ""
        · subst hempty
          exact .inl ⟨by simp [emit], by simp⟩
        · exact .inr ⟨text, rfl, hwoken, rfl, hempty, by simp [emit, hempty]⟩
    · exact .inl ⟨rfl, by simp [hworks]⟩
    · exact .inl ⟨rfl, by simp [hwoken]⟩

/-- A text of the agent has been emitted. -/
def HasEmittedOwn (desktop : Desktop) : Prop := ∃ event, (event, .agent) ∈ desktop.emitted

theorem hasEmittedOwn_step (desktop : Desktop) (input : DesktopInput) :
    (desktop.step input).HasEmittedOwn ↔ desktop.HasEmittedOwn ∨ desktop.ReadsOwn input := by
  obtain ⟨hsame, hquiet⟩ | ⟨text, hinput, hwoken, htext, hempty, hemitted⟩ :=
    desktop.step_emitted input
  · rw [HasEmittedOwn, hsame]
    refine (or_iff_left ?_).symm
    rintro ⟨hinput, hwoken, -, htext⟩
    exact hquiet ⟨hinput, hwoken, htext⟩
  · have hreads : desktop.ReadsOwn input ↔ desktop.clipboard.writer = .agent :=
      ⟨fun h ↦ h.2.2.1, fun h ↦ ⟨hinput, hwoken, h, text, htext, hempty⟩⟩
    rw [hreads, HasEmittedOwn, hemitted]
    constructor
    · rintro ⟨event, hmem⟩
      obtain hmem | hmem := List.mem_append.mp hmem
      · exact .inl ⟨event, hmem⟩
      · exact .inr (Prod.mk.inj (List.mem_singleton.mp hmem)).2.symm
    · rintro (⟨event, hmem⟩ | hwriter)
      · exact ⟨event, List.mem_append_left _ hmem⟩
      · exact ⟨.ofText text, by rw [hwriter]; simp⟩

/-! ## Own writes and local copies -/

/-- No text of the agent has been emitted, and what the ring holds has been emitted. -/
def NeverOffersOwn (desktop : Desktop) : Prop :=
  (∀ entry ∈ desktop.emitted, entry.2 ≠ .agent) ∧
    ∀ clip ∈ desktop.stage.items, ∃ entry ∈ desktop.emitted, entry.2 ≠ .agent ∧
      entry.1 = ⟨clip.contentType, clip.body⟩

theorem neverOffersOwn_iff (h : desktop.Inv) : desktop.NeverOffersOwn ↔ ¬ desktop.HasEmittedOwn := by
  have hemitted : (∀ entry ∈ desktop.emitted, entry.2 ≠ .agent) ↔ ¬ desktop.HasEmittedOwn := by
    refine ⟨fun hall ⟨event, hmem⟩ ↦ hall _ hmem rfl, fun hnone entry hmem hwriter ↦ ?_⟩
    exact hnone ⟨entry.1, by rwa [← hwriter]⟩
  rw [NeverOffersOwn, hemitted]
  apply and_iff_left_of_imp
  intro hnone clip hclip
  rw [h.stage.items] at hclip
  obtain ⟨offered, hoffered, haccepted⟩ :=
    List.mem_filterMap.mp ((rtake_suffix _ _).subset hclip)
  have hevent : offered.event ∈ desktop.emitted.map Prod.fst := by
    rw [h.events]
    exact List.mem_append_left _ (List.mem_map_of_mem hoffered)
  obtain ⟨entry, hentry, heq⟩ := List.mem_map.mp hevent
  exact ⟨entry, hentry, hemitted.mpr hnone entry hentry,
    heq.trans (LocalCopy.event_of_accepted haccepted)⟩

/-- A woken reader stays woken until it reads. -/
theorem woken_until_read {inputs : List DesktopInput} (hread : ∀ works, .read works ∉ inputs)
    (hwoken : desktop.woken = true) : (desktop.run inputs).woken = true := by
  refine run_invariant (P := fun later ↦ later.woken = true) (fun desktop input hmem hwoken ↦ ?_)
    hwoken
  have hwrite (desktop : Desktop) (text : Option String) (seq : UInt32) (writer : Writer) :
      (desktop.write text seq writer).woken = desktop.woken := by
    unfold Desktop.write
    split_ifs <;> rfl
  cases input with
  | copy text seq => exact (hwrite ..).trans hwoken
  | clipArrived body outcome =>
    rw [Desktop.step]
    split_ifs
    · cases outcome with
      | busy => exact hwoken
      | emptied | written => exact (hwrite ..).trans hwoken
    · exact hwoken
  | recorded =>
    rw [Desktop.step]
    split <;> exact hwoken
  | wake => simp [Desktop.step, hwoken]
  | read works => exact absurd hmem (hread works)
  | stageNext =>
    rw [Desktop.step]
    split <;> exact hwoken

/-- The reading that follows a wake-up on a local copy emits the copy. -/
theorem Inv.emits_copy (h : desktop.Inv) {between : List DesktopInput}
    (hread : ∀ works, .read works ∉ between) {text : String}
    (hkept : (desktop.run (.wake :: between)).clipboard = desktop.clipboard)
    (hwriter : desktop.clipboard.writer = .user) (htext : desktop.clipboard.getText = some text)
    (hempty : text ≠ "") :
    ((desktop.run (.wake :: between)).step (.read true)).emitted =
      (desktop.run (.wake :: between)).emitted ++ [(.ofText text, .user)] := by
  have hother : desktop.isOwn watcherGuard desktop.clipboard.seq = false := by
    have hseq := h.seq (by simp [hwriter])
    simpa [isOwn, h.guard] using hseq.symm
  have hwake : (desktop.step .wake).woken = true := by simp [Desktop.step, hother]
  have hwoken : ((desktop.step .wake).run between).woken = true := woken_until_read hread hwake
  change (desktop.run (.wake :: between)).woken = true at hwoken
  obtain ⟨-, hquiet⟩ | ⟨text', -, -, htext', -, hemitted⟩ :=
    (desktop.run (.wake :: between)).step_emitted (.read true)
  · exact absurd ⟨rfl, hwoken, text, by rw [hkept, htext], hempty⟩ hquiet
  · rw [hkept, htext] at htext'
    cases htext'
    rw [hemitted, hkept, hwriter]

/-- The step takes the event from the queue as the one with this number. -/
def Takes (desktop : Desktop) (number : ℕ) (event : ClipboardEvent) (input : DesktopInput) : Prop :=
  desktop.offered.length = number ∧ desktop.queue.head? = some event ∧
    ∃ nowMs randomId, input = .stageNext nowMs randomId

/-- The copies offered grow only when an event is taken from the queue. -/
theorem step_offered (desktop : Desktop) (input : DesktopInput) :
    (desktop.step input).offered = desktop.offered ∧ (∀ number event, ¬ desktop.Takes number event input) ∨
      ∃ event nowMs randomId, desktop.queue.head? = some event ∧ input = .stageNext nowMs randomId ∧
        (desktop.step input).offered = desktop.offered ++ [event.copy nowMs randomId] := by
  have hwrite (desktop : Desktop) (text : Option String) (seq : UInt32) (writer : Writer) :
      (desktop.write text seq writer).offered = desktop.offered := by
    unfold Desktop.write
    split_ifs <;> rfl
  have hemit (text : Option String) : (desktop.emit text).offered = desktop.offered := by
    unfold emit
    split
    · split_ifs <;> rfl
    · rfl
  cases input with
  | copy text seq => exact .inl ⟨hwrite .., by simp [Takes]⟩
  | clipArrived body outcome =>
    refine .inl ⟨?_, by simp [Takes]⟩
    rw [Desktop.step]
    split_ifs
    · cases outcome with
      | busy => rfl
      | emptied | written => exact hwrite ..
    · rfl
  | recorded =>
    refine .inl ⟨?_, by simp [Takes]⟩
    rw [Desktop.step]
    split <;> rfl
  | wake => exact .inl ⟨rfl, by simp [Takes]⟩
  | read works =>
    refine .inl ⟨?_, by simp [Takes]⟩
    rw [Desktop.step]
    split_ifs <;> first | exact hemit _ | rfl
  | stageNext nowMs randomId =>
    rcases hqueue : desktop.queue with - | ⟨event, queue⟩
    · exact .inl ⟨by rw [Desktop.step, hqueue], by simp [Takes, hqueue]⟩
    · exact .inr ⟨event, nowMs, randomId, rfl, rfl, by rw [Desktop.step, hqueue]⟩

/-- The copy with some number has been offered for this event. -/
def HasOffered (number : ℕ) (event : ClipboardEvent) (desktop : Desktop) : Prop :=
  (desktop.offered.map LocalCopy.event)[number]? = some event

theorem hasOffered_step (number : ℕ) (event : ClipboardEvent) (desktop : Desktop)
    (input : DesktopInput) : HasOffered number event (desktop.step input) ↔
      HasOffered number event desktop ∨ desktop.Takes number event input := by
  obtain ⟨hsame, hnot⟩ | ⟨taken, nowMs, randomId, hqueue, rfl, hoffered⟩ := desktop.step_offered input
  · rw [HasOffered, hsame]
    exact (or_iff_left (hnot number event)).symm
  · rw [HasOffered, HasOffered, hoffered, Takes, hqueue, List.map_append]
    rcases lt_trichotomy number desktop.offered.length with hlt | rfl | hlt
    · rw [List.getElem?_append_left (by rwa [List.length_map])]
      exact (or_iff_left fun htakes ↦ hlt.ne' htakes.1).symm
    · rw [List.getElem?_append_right (by rw [List.length_map]), List.length_map, Nat.sub_self,
        or_iff_right (by rw [List.getElem?_eq_none (by rw [List.length_map])]; simp)]
      exact ⟨fun heq ↦ ⟨rfl, heq, _, _, rfl⟩, fun htakes ↦ htakes.2.1⟩
    · rw [List.getElem?_append_right (by rw [List.length_map]; exact hlt.le), List.length_map]
      refine iff_of_false ?_ ?_
      · rw [List.getElem?_eq_none (by rw [List.length_map, List.length_singleton]; omega)]
        simp
      · rintro (hold | htakes)
        · rw [List.getElem?_eq_none (by rw [List.length_map]; exact hlt.le)] at hold
          cases hold
        · exact hlt.ne htakes.1

/-- In the run the event with this number is taken from the queue and pushed, and if an id is drawn for
it, it is the newest clip of the ring. -/
def Stages (desktop : Desktop) (inputs : List DesktopInput) (number : ℕ) (event : ClipboardEvent) : Prop :=
  ∃ before nowMs randomId after, inputs = before ++ .stageNext nowMs randomId :: after ∧
    (desktop.run before).offered.length = number ∧ (desktop.run before).queue.head? = some event ∧
    ((desktop.run before).step (.stageNext nowMs randomId)).stage =
      ((desktop.run before).stage.push event.contentType event.body nowMs randomId).2 ∧
    ∀ stageId, randomId = some stageId →
      ((desktop.run before).step (.stageNext nowMs randomId)).stage.newest =
        some ⟨stageId, event.contentType, event.body, nowMs⟩

/-- A copy that has been offered for an event within the limit has been pushed. -/
theorem stages_of_hasOffered {desktop : Desktop} (hnone : desktop.offered = [])
    {inputs : List DesktopInput} {number : ℕ} {event : ClipboardEvent}
    (hsize : event.body.length ≤ maxTextClip) (h : HasOffered number event (desktop.run inputs)) :
    desktop.Stages inputs number event := by
  have hrun := (foldl_iff_triggered (hasOffered_step number event) desktop inputs).mp h
  obtain hbefore | ⟨before, input, after, hinputs, hlength, hqueue, nowMs, randomId, rfl⟩ := hrun
  · rw [HasOffered, hnone] at hbefore
    cases hbefore
  · change (desktop.run before).offered.length = number at hlength
    change (desktop.run before).queue.head? = some event at hqueue
    obtain ⟨queue, hcons⟩ := List.head?_eq_some_iff.mp hqueue
    have hstage : ((desktop.run before).step (.stageNext nowMs randomId)).stage =
        ((desktop.run before).stage.push event.contentType event.body nowMs randomId).2 := by
      rw [Desktop.step, hcons]
    refine ⟨before, nowMs, randomId, after, hinputs, hlength, hqueue, hstage, fun stageId hid ↦ ?_⟩
    have hitems := ((desktop.run before).stage.push_items (event.copy nowMs randomId)).2
    have haccepted : (event.copy nowMs randomId).accepted =
        some ⟨stageId, event.contentType, event.body, nowMs⟩ := by
      have hwithin : ¬ maxTextClip < (event.copy nowMs randomId).body.length := not_lt.mpr hsize
      rw [LocalCopy.accepted, if_neg hwithin]
      exact congrArg _ hid
    rw [haccepted] at hitems
    rw [hstage, StageRing.newest]
    exact (congrArg List.getLast? hitems).trans List.getLast?_concat

/-- What has been emitted stays emitted, in its place. -/
theorem emitted_extends (desktop : Desktop) (inputs : List DesktopInput) :
    desktop.emitted <+: (desktop.run inputs).emitted := by
  refine run_invariant (P := fun later ↦ desktop.emitted <+: later.emitted)
    (fun later input _ hprefix ↦ hprefix.trans ?_) List.prefix_rfl
  obtain ⟨hsame, -⟩ | ⟨text, -, -, -, -, hemitted⟩ := later.step_emitted input
  · rw [hsame]
  · rw [hemitted]
    exact List.prefix_append ..

/-- The agent's own writes are offered back exactly if the reader comes to read one.  And every local
copy that the clipboard holds from the wake-up of the reader to its reading is emitted by that reading;
its event keeps its number on the way to the ring, and is pushed there before the queue is empty. -/
theorem own_writes_offered_iff (text₀ : Option String) (seq₀ : UInt32) (inputs : List DesktopInput) :
    (((start text₀ seq₀).run inputs).NeverOffersOwn ↔
      ∀ before input after, inputs = before ++ input :: after →
        ¬ ((start text₀ seq₀).run before).ReadsOwn input) ∧
    ∀ before between after text,
      inputs = before ++ .wake :: (between ++ .read true :: after) →
      (∀ works, .read works ∉ between) →
      (((start text₀ seq₀).run before).run (.wake :: between)).clipboard =
        ((start text₀ seq₀).run before).clipboard →
      ((start text₀ seq₀).run before).clipboard.writer = .user →
      ((start text₀ seq₀).run before).clipboard.getText = some text → text ≠ "" →
      (utf8 text).length ≤ maxTextClip →
        let reading := ((start text₀ seq₀).run before).run (.wake :: between)
        let final := (start text₀ seq₀).run inputs
        (reading.step (.read true)).emitted = reading.emitted ++ [(.ofText text, .user)] ∧
        final.stage.Holds (final.offered.filterMap LocalCopy.accepted) ∧
        ((start text₀ seq₀).Stages inputs reading.emitted.length (.ofText text) ∨
          final.queue[reading.emitted.length - final.offered.length]? = some (.ofText text)) := by
  have hinv := run_inv text₀ seq₀ inputs
  constructor
  · have hrun := foldl_iff_triggered hasEmittedOwn_step (start text₀ seq₀) inputs
    rw [neverOffersOwn_iff hinv, show ((start text₀ seq₀).run inputs).HasEmittedOwn ↔ _ from hrun,
      or_iff_right (by rintro ⟨event, hmem⟩; cases hmem)]
    simp only [not_exists, not_and]
    rfl
  · intro before between after text hinputs hread hkept hwriter htext hempty hsize reading final
    have hemits : (reading.step (.read true)).emitted = reading.emitted ++ [(.ofText text, .user)] :=
      (run_inv text₀ seq₀ before).emits_copy hread hkept hwriter htext hempty
    refine ⟨hemits, hinv.stage, ?_⟩
    have hrun : final = (reading.step (.read true)).run after := by
      change (start text₀ seq₀).run inputs = _
      rw [hinputs, run, List.foldl_append, List.foldl_cons, List.foldl_append]
      rfl
    have hplace : (final.offered.map LocalCopy.event ++ final.queue)[reading.emitted.length]? =
        some (.ofText text) := by
      obtain ⟨later, hlater⟩ := (reading.step (.read true)).emitted_extends after
      rw [← hinv.events, show final.emitted = _ from (congrArg Desktop.emitted hrun).trans hlater.symm,
        hemits, List.append_assoc, List.map_append,
        List.getElem?_append_right (by rw [List.length_map]), List.length_map, Nat.sub_self]
      rfl
    rcases lt_or_ge reading.emitted.length final.offered.length with hlt | hge
    · rw [List.getElem?_append_left (by rwa [List.length_map])] at hplace
      exact .inl (stages_of_hasOffered rfl hsize hplace)
    · rw [List.getElem?_append_right (by rwa [List.length_map]), List.length_map] at hplace
      exact .inr hplace

/-- An id that is drawn. -/
def firstId : Octets 8 := ⟨List.replicate 8 1, rfl⟩

/-- A text that the user copies is staged. -/
theorem own_writes_offered_iff_copy :
    let inputs : List DesktopInput := [.copy (some "hi") 2, .wake, .read true,
      .stageNext 7 (some firstId)]
    ((start none 1).run inputs).NeverOffersOwn ∧ (start none 1).Stages inputs 0 (.ofText "hi") := by
  intro inputs
  obtain ⟨hown, hcopy⟩ := own_writes_offered_iff none 1 inputs
  constructor
  · apply hown.mpr
    intro before input after hsplit hreads
    have hwriter : ∀ n < 4, ((start none 1).run (inputs.take n)).clipboard.writer ≠ .agent := by
      decide +kernel
    have hlength : before.length < 4 := by
      have htotal := congrArg List.length hsplit
      rw [show inputs.length = 4 from rfl, List.length_append, List.length_cons] at htotal
      omega
    have hbefore : inputs.take before.length = before := by
      rw [hsplit]
      exact List.take_left' rfl
    exact hwriter before.length hlength (by rw [hbefore]; exact hreads.2.2.1)
  · have hstaged := (hcopy [.copy (some "hi") 2] [] [.stageNext 7 (some firstId)] "hi" rfl (by simp)
      (by decide +kernel) (by decide +kernel) (by decide +kernel) (by decide) (by decide +kernel)).2.2
    exact hstaged.resolve_right (by decide +kernel)

/-- A clip from the phone is written, read by the reader, and staged. -/
theorem own_write_offered_back :
    let inputs : List DesktopInput := [.clipArrived [104, 105] (.written 2), .recorded, .wake,
      .read true, .stageNext 7 (some firstId)]
    ((start none 1).run inputs).emitted = [(⟨.text, [104, 105]⟩, .agent)] ∧
      ((start none 1).run inputs).stage.items = [⟨firstId, .text, [104, 105], 7⟩] ∧
      ¬ ((start none 1).run inputs).NeverOffersOwn := by
  intro inputs
  have hemitted : ((start none 1).run inputs).emitted = [(⟨.text, [104, 105]⟩, .agent)] := by
    decide +kernel
  refine ⟨hemitted, by decide +kernel, fun hnever ↦ ?_⟩
  exact hnever.1 _ (by rw [hemitted]; exact List.mem_singleton_self _) rfl

end Desktop

end AirClip
