import AirClip.Agent.CrashSafety

/-!
# Two pairings at once

The tasks of two connections have both come to `Completed`, and persist their records step by step: look
for the file, read it, write the temporary file, rename it, and at last replace the shared list of peers.
No lock spans these steps.  Both records are kept in every interleaving in which no task loads the list
between the load and the rename of the other, and none replaces the list of peers by an older one after
the other has finished.
-/

open Foundation FileProgram

namespace AirClip.Keystore

variable [DataProtection] [SerdeJson]

/-- A call of `upsert_pairing`. -/
structure Upsert where
  unseals : Bool
  salt : Option (Octets 16)
  record : PairingRecord

/-- How far a task has come. -/
inductive Progress where
  | looking
  | reading
  | writing (all : List PairingRecord) (sealed : Bytes)
  | replacing (all : List PairingRecord) (sealed : Bytes)
  | returned (result : Except KeystoreError (List PairingRecord))
  /-- The list of peers has been replaced. -/
  | finished
deriving DecidableEq

namespace Upsert

def program (upsert : Upsert) : FileProgram (Except KeystoreError (List PairingRecord)) :=
  upsertPairing upsert.unseals upsert.salt upsert.record

/-- What is left to do once the list has been loaded. -/
def rest (upsert : Upsert) (loaded : Except KeystoreError (List PairingRecord)) :
    FileProgram (Except KeystoreError (List PairingRecord)) :=
  let all := AirClip.upsertPairing (loaded.toOption.getD []) upsert.record
  (savePairings upsert.salt all).bind fun saved ↦ .done (saved.map fun _ ↦ all)

/-- Encoding and sealing happen between two steps. -/
def saving (upsert : Upsert) (loaded : Except KeystoreError (List PairingRecord)) : Progress :=
  let all := AirClip.upsertPairing (loaded.toOption.getD []) upsert.record
  match sealPairings upsert.salt all with
  | .error failure => .returned (.error failure)
  | .ok sealed => .writing all sealed

/-- One step of the call. -/
def next (upsert : Upsert) (reply : Reply) (files : Directory) : Progress → Progress × Directory
  | .looking =>
    (if reply.finds && (files pairingsFile).isSome then .reading else upsert.saving (.ok []), files)
  | .reading =>
    let contents := if reply.reads then files pairingsFile else none
    (upsert.saving (openPairings upsert.unseals contents), files)
  | .writing all sealed =>
    let tmp := withExtension pairingsFile "tmp"
    if reply.writes then (.replacing all sealed, Function.update files tmp (some sealed))
    else (.returned (.error .io), Function.update files tmp reply.left)
  | .replacing all _ =>
    let tmp := withExtension pairingsFile "tmp"
    match files tmp with
    | none => (.returned (.error .io), files)
    | some bytes =>
      if reply.renames then (.returned (.ok all), files.move tmp pairingsFile bytes)
      else (.returned (.error .io), files)
  | progress => (progress, files)

/-! ## The steps are those of the program -/

/-- The program that is left to run. -/
def remaining (upsert : Upsert) :
    Progress → Option (FileProgram (Except KeystoreError (List PairingRecord)))
  | .looking => some upsert.program
  | .reading =>
    some (.read pairingsFile fun contents ↦ upsert.rest (openPairings upsert.unseals contents))
  | .writing all sealed =>
    some ((writeAtomic pairingsFile sealed).bind fun saved ↦ .done (saved.map fun _ ↦ all))
  | .replacing all _ => some (.rename (withExtension pairingsFile "tmp") pairingsFile fun renamed ↦
      .done ((if renamed then .ok () else .error .io : Except KeystoreError Unit).map fun _ ↦ all))
  | .returned result => some (.done result)
  | .finished => none

theorem remaining_saving (upsert : Upsert) (loaded : Except KeystoreError (List PairingRecord)) :
    upsert.remaining (upsert.saving loaded) = some (upsert.rest loaded) := by
  unfold saving rest savePairings
  dsimp only
  cases sealPairings upsert.salt (AirClip.upsertPairing (loaded.toOption.getD []) upsert.record) with
  | error failure => rfl
  | ok sealed => rfl

theorem program_eq (upsert : Upsert) :
    upsert.program = .stat pairingsFile fun found ↦ FileProgram.bind upsert.rest
      (if found then .read pairingsFile fun contents ↦ .done (openPairings upsert.unseals contents)
        else .done (.ok [])) := rfl

/-- A task steps as the program of its call does. -/
theorem remaining_next {upsert : Upsert} {progress : Progress}
    {program : FileProgram (Except KeystoreError (List PairingRecord))}
    (h : upsert.remaining progress = some program) (reply : Reply) (files : Directory) :
    upsert.remaining (upsert.next reply files progress).1 = some (step reply program files).1 ∧
      (upsert.next reply files progress).2 = (step reply program files).2 := by
  cases progress with
  | looking =>
    cases h
    refine ⟨?_, rfl⟩
    rw [next]
    cases hfound : reply.finds && (files pairingsFile).isSome with
    | false =>
      rw [if_neg Bool.false_ne_true, remaining_saving, program_eq, step, hfound]
      rfl
    | true =>
      rw [if_pos rfl, program_eq, step, hfound]
      rfl
  | reading =>
    cases h
    exact ⟨upsert.remaining_saving _, rfl⟩
  | writing all sealed =>
    cases h
    rw [next, writeAtomic, FileProgram.bind, step]
    split
    · exact ⟨rfl, rfl⟩
    · exact ⟨rfl, rfl⟩
  | replacing all sealed =>
    cases h
    rw [next, step]
    cases files (withExtension pairingsFile "tmp") with
    | none => exact ⟨rfl, rfl⟩
    | some bytes =>
      dsimp only
      split
      · exact ⟨rfl, rfl⟩
      · exact ⟨rfl, rfl⟩
  | returned result =>
    cases h
    exact ⟨rfl, rfl⟩
  | finished => cases h

end Upsert

/-! ## Two tasks -/

/-- The list has been loaded, and the file has not been replaced yet. -/
def Progress.Midway : Progress → Prop
  | .writing .. | .replacing .. => True
  | _ => False

instance : (progress : Progress) → Decidable progress.Midway
  | .writing .. | .replacing .. => isTrue trivial
  | .looking | .reading | .returned _ | .finished => isFalse id

/-- The files, the shared list of peers and the two tasks. -/
structure Race where
  files : Directory
  peers : List PairingRecord
  tasks : Bool → Progress

namespace Race

def start (files : Directory) (peers : List PairingRecord) : Race := ⟨files, peers, fun _ ↦ .looking⟩

variable (upserts : Bool → Upsert)

/-- One task makes a step. -/
def step (race : Race) (input : Bool × Reply) : Race :=
  match race.tasks input.1 with
  | .returned (.ok all) =>
    { race with peers := all, tasks := Function.update race.tasks input.1 .finished }
  | .finished => race
  | progress =>
    let next := (upserts input.1).next input.2 race.files progress
    { race with files := next.2, tasks := Function.update race.tasks input.1 next.1 }

def run (race : Race) (inputs : List (Bool × Reply)) : Race := inputs.foldl (step upserts) race

variable {upserts} in
/-- A task that has not returned yet steps as its program does, on the files of both. -/
theorem step_eq_program {race : Race} {c : Bool}
    {program : FileProgram (Except KeystoreError (List PairingRecord))}
    (h : (upserts c).remaining (race.tasks c) = some program) (hrunning : program.result? = none)
    (reply : Reply) :
    (upserts c).remaining ((race.step upserts (c, reply)).tasks c) =
        some (FileProgram.step reply program race.files).1 ∧
      (race.step upserts (c, reply)).files = (FileProgram.step reply program race.files).2 := by
  obtain ⟨hnext, hfiles⟩ := Upsert.remaining_next h reply race.files
  unfold step
  dsimp only
  split
  · next htask =>
    rw [htask] at h
    cases h
    cases hrunning
  · next htask =>
    rw [htask] at h
    cases h
  · refine ⟨?_, hfiles⟩
    dsimp only
    rwa [Function.update_self]

/-- A list is loaded as it is stored, and while the other task is not between its load and its rename; and
the task that finishes last has the list that is stored. -/
def Admissible (race : Race) (input : Bool × Reply) : Progress → Prop
  | .looking =>
    if race.files pairingsFile = none then ¬ (race.tasks !input.1).Midway else input.2.finds = true
  | .reading => ¬ (race.tasks !input.1).Midway ∧ input.2.reads = true ∧
      (upserts input.1).unseals = true ∧ (stored race.files).isSome = true
  | .returned (.ok all) => race.tasks (!input.1) ≠ .finished ∨ stored race.files = some all
  | _ => True

/-- Every step of the run is admissible. -/
def Undisturbed : Race → List (Bool × Reply) → Prop :=
  EveryStep (step upserts) fun race input ↦ Admissible upserts race input (race.tasks input.1)

instance (race : Race) (input : Bool × Reply) :
    (progress : Progress) → Decidable (Admissible upserts race input progress)
  | .looking => inferInstanceAs (Decidable
      (if race.files pairingsFile = none then ¬ (race.tasks !input.1).Midway else input.2.finds = true))
  | .reading => instDecidableAnd
  | .returned (.ok _) => instDecidableOr
  | .writing .. | .replacing .. | .returned (.error _) | .finished => isTrue trivial

instance (race : Race) (inputs : List (Bool × Reply)) :
    Decidable (Undisturbed upserts race inputs) :=
  EveryStep.decidable race inputs

end Race

/-! ## What a step keeps -/

/-- What holds of one task: it is about to save its record into the list that is stored, or has done so. -/
def Upsert.Sound (upsert : Upsert) (files : Directory) : Progress → Prop
  | .writing all sealed => sealPairings upsert.salt all = .ok sealed ∧
      ∃ before, stored files = some before ∧ all = AirClip.upsertPairing before upsert.record
  | .replacing all sealed => (sealPairings upsert.salt all = .ok sealed ∧
      ∃ before, stored files = some before ∧ all = AirClip.upsertPairing before upsert.record) ∧
      files (withExtension pairingsFile "tmp") = some sealed
  | .returned (.ok _) | .finished => ∃ all, stored files = some all ∧ upsert.record ∈ all
  | _ => True

theorem Upsert.Sound.congr {upsert : Upsert} {files files' : Directory} {progress : Progress}
    (h : upsert.Sound files progress) (hstored : stored files' = stored files)
    (hidle : ¬ progress.Midway) : upsert.Sound files' progress := by
  unfold Sound at h ⊢
  split at h
  · exact absurd trivial hidle
  · exact absurd trivial hidle
  · rw [hstored]
    exact h
  · rw [hstored]
    exact h
  · trivial

/-- Loading the list that is stored brings a task to the write, or to an end. -/
theorem Upsert.sound_saving (upsert : Upsert) {files : Directory} {before : List PairingRecord}
    (hstored : stored files = some before)
    {loaded : Except KeystoreError (List PairingRecord)} (hloaded : loaded.toOption.getD [] = before) :
    upsert.Sound files (upsert.saving loaded) := by
  unfold saving
  dsimp only
  split
  · trivial
  · next hsealed => exact ⟨hsealed, before, hstored, by rw [hloaded]⟩

namespace Race

variable {upserts : Bool → Upsert}

/-- At most one task is between its load and its rename, both are sound, and what the last task leaves in
the list of peers are both records. -/
structure Kept (upserts : Bool → Upsert) (race : Race) : Prop where
  alone : ∀ c, (race.tasks c).Midway → ¬ (race.tasks !c).Midway
  sound : ∀ c, (upserts c).Sound race.files (race.tasks c)
  shared : (∀ c, race.tasks c = .finished) → ∀ c, (upserts c).record ∈ race.peers

/-- One task moves on without finishing. -/
theorem kept_moved {race : Race} {c : Bool} {progress : Progress} {files : Directory}
    (hsound : (upserts c).Sound files progress)
    (hother : (upserts !c).Sound files (race.tasks !c))
    (halone : progress.Midway → ¬ (race.tasks !c).Midway) (hfinished : progress ≠ .finished) :
    Kept upserts { race with files := files, tasks := Function.update race.tasks c progress } := by
  have hself : Function.update race.tasks c progress c = progress := Function.update_self ..
  have hrest : Function.update race.tasks c progress (!c) = race.tasks !c :=
    Function.update_of_ne (Bool.not_ne_self c) ..
  constructor
  · refine (Bool.forall_bool' c).mpr ⟨?_, ?_⟩
    · dsimp only
      rw [hself, hrest]
      exact halone
    · dsimp only
      rw [Bool.not_not, hself, hrest]
      exact fun hmidway hprogress ↦ halone hprogress hmidway
  · refine (Bool.forall_bool' c).mpr ⟨?_, ?_⟩
    · dsimp only
      rw [hself]
      exact hsound
    · dsimp only
      rw [hrest]
      exact hother
  · intro hall
    exact absurd (hself.symm.trans (hall c)) hfinished

/-- The task that finishes last has both records in its list. -/
theorem Kept.finish {race : Race} (h : Kept upserts race) {c : Bool} {all : List PairingRecord}
    (htask : race.tasks c = .returned (.ok all))
    (hlast : race.tasks (!c) ≠ .finished ∨ stored race.files = some all) :
    Kept upserts { race with peers := all, tasks := Function.update race.tasks c .finished } := by
  have hself : Function.update race.tasks c .finished c = .finished := Function.update_self ..
  have hrest : Function.update race.tasks c .finished (!c) = race.tasks !c :=
    Function.update_of_ne (Bool.not_ne_self c) ..
  have hsound := h.sound c
  rw [htask] at hsound
  constructor
  · refine (Bool.forall_bool' c).mpr ⟨?_, ?_⟩
    · dsimp only
      rw [hself]
      exact False.elim
    · dsimp only
      rw [Bool.not_not, hself]
      exact fun _ ↦ id
  · refine (Bool.forall_bool' c).mpr ⟨?_, ?_⟩
    · dsimp only
      rw [hself]
      exact hsound
    · dsimp only
      rw [hrest]
      exact h.sound _
  · intro hall
    have hfinished : race.tasks (!c) = .finished := hrest.symm.trans (hall !c)
    have hstored := hlast.resolve_left (not_not_intro hfinished)
    have hother := h.sound !c
    rw [hfinished] at hother
    have hmem (d : Bool) (hd : ∃ all, stored race.files = some all ∧ (upserts d).record ∈ all) :
        (upserts d).record ∈ all := by
      obtain ⟨other, hstored', hrecord⟩ := hd
      cases hstored.symm.trans hstored'
      exact hrecord
    exact (Bool.forall_bool' c).mpr ⟨hmem _ hsound, hmem _ hother⟩

/-- A task that has loaded the list. -/
theorem Kept.loaded {race : Race} (h : Kept upserts race) {c : Bool} {before : List PairingRecord}
    (hstored : stored race.files = some before)
    {result : Except KeystoreError (List PairingRecord)} (hresult : result.toOption.getD [] = before)
    (halone : ¬ (race.tasks !c).Midway) :
    Kept upserts { race with tasks := Function.update race.tasks c ((upserts c).saving result) } := by
  apply kept_moved ((upserts c).sound_saving hstored hresult) (h.sound _) fun _ ↦ halone
  unfold Upsert.saving
  dsimp only
  split
  · exact nofun
  · exact nofun

theorem getD_openPairings {files : Directory} {before : List PairingRecord}
    (h : stored files = some before) :
    (openPairings true (files pairingsFile)).toOption.getD [] = before := by
  cases hfile : files pairingsFile with
  | none =>
    cases (stored_of_missing hfile).symm.trans h
    rfl
  | some sealed =>
    rw [(stored_eq_some hfile).mp h]
    rfl

theorem stored_of_tmp (files : Directory) (left : Option Bytes) :
    stored (Function.update files (withExtension pairingsFile "tmp") left) = stored files :=
  stored_congr (Function.update_of_ne (by decide) ..)

theorem Kept.start (files : Directory) (peers : List PairingRecord) :
    Kept upserts (start files peers) :=
  ⟨fun _ ↦ False.elim, fun _ ↦ trivial, fun hall ↦ nomatch hall false⟩

variable [DataProtection.Lawful] [SerdeJson.Lawful]

/-- The rename puts the record into the list that was stored, with those the other task has saved. -/
theorem Kept.renamed {race : Race} (h : Kept upserts race)
    (hids : (upserts false).record.deviceId ≠ (upserts true).record.deviceId) {c : Bool}
    {all : List PairingRecord} {sealed : Bytes} (htask : race.tasks c = .replacing all sealed) :
    Kept upserts
      { race with
        files := race.files.move (withExtension pairingsFile "tmp") pairingsFile sealed
        tasks := Function.update race.tasks c (.returned (.ok all)) } := by
  have hsound := h.sound c
  rw [htask] at hsound
  obtain ⟨⟨hsealed, before, hbefore, rfl⟩, -⟩ := hsound
  have hstored : stored (race.files.move (withExtension pairingsFile "tmp") pairingsFile sealed) =
      some (AirClip.upsertPairing before (upserts c).record) :=
    (stored_eq_some (Directory.move_target ..)).mpr (openPairings_sealPairings hsealed)
  have hmidway : ¬ (race.tasks !c).Midway := h.alone c (by rw [htask]; trivial)
  have hne : (upserts !c).record.deviceId ≠ (upserts c).record.deviceId := by
    cases c
    · exact hids.symm
    · exact hids
  have hkeeps (hother : ∃ all, stored race.files = some all ∧ (upserts !c).record ∈ all) :
      (upserts !c).record ∈ AirClip.upsertPairing before (upserts c).record := by
    obtain ⟨all, hall, hmem⟩ := hother
    cases hbefore.symm.trans hall
    exact List.mem_append_left _ (List.mem_filter.mpr ⟨hmem, decide_eq_true hne⟩)
  refine kept_moved ⟨_, hstored, List.mem_append_right _ List.mem_cons_self⟩ ?_ False.elim nofun
  have hother := h.sound !c
  generalize race.tasks (!c) = progress at hmidway hother ⊢
  unfold Upsert.Sound at hother ⊢
  split at hother
  · exact absurd trivial hmidway
  · exact absurd trivial hmidway
  · exact ⟨_, hstored, hkeeps hother⟩
  · exact ⟨_, hstored, hkeeps hother⟩
  · trivial

theorem Kept.step {race : Race} (h : Kept upserts race)
    (hids : (upserts false).record.deviceId ≠ (upserts true).record.deviceId) {input : Bool × Reply}
    (hadmissible : Admissible upserts race input (race.tasks input.1)) :
    Kept upserts (race.step upserts input) := by
  obtain ⟨c, reply⟩ := input
  have hsound := h.sound c
  unfold Race.step
  dsimp only at hadmissible ⊢
  cases htask : race.tasks c with
  | looking =>
    rw [htask, Admissible] at hadmissible
    dsimp only at hadmissible ⊢
    rw [Upsert.next]
    split at hadmissible
    · next hmissing =>
      rw [hmissing, Option.isSome_none, Bool.and_false, if_neg Bool.false_ne_true]
      exact h.loaded (stored_of_missing hmissing) rfl hadmissible
    · next hpresent =>
      rw [hadmissible, Option.isSome_iff_ne_none.mpr hpresent, Bool.and_self, if_pos rfl]
      exact kept_moved trivial (h.sound _) False.elim nofun
  | reading =>
    rw [htask] at hadmissible
    obtain ⟨halone, hreads, hunseals, hsome⟩ := hadmissible
    obtain ⟨before, hstored⟩ := Option.isSome_iff_exists.mp hsome
    dsimp only
    rw [Upsert.next, if_pos hreads, hunseals]
    exact h.loaded hstored (getD_openPairings hstored) halone
  | writing all sealed =>
    rw [htask] at hsound
    dsimp only
    rw [Upsert.next]
    have hidle : ¬ (race.tasks !c).Midway := h.alone c (by rw [htask]; trivial)
    split
    · refine kept_moved ⟨?_, ?_⟩ ?_ (fun _ ↦ hidle) nofun
      · rw [stored_of_tmp]
        exact hsound
      · exact Function.update_self (withExtension pairingsFile "tmp") (some sealed) race.files
      · exact (h.sound _).congr (stored_of_tmp ..) hidle
    · exact kept_moved trivial ((h.sound _).congr (stored_of_tmp ..) hidle) False.elim nofun
  | replacing all sealed =>
    rw [htask] at hsound
    dsimp only
    rw [Upsert.next, hsound.2]
    dsimp only
    split
    · exact h.renamed hids htask
    · exact kept_moved trivial (h.sound _) False.elim nofun
  | returned result =>
    cases result with
    | error failure => exact kept_moved trivial (h.sound _) False.elim nofun
    | ok all =>
      rw [htask] at hadmissible
      exact h.finish htask hadmissible
  | finished => exact h

theorem Kept.run {race : Race} (h : Kept upserts race)
    (hids : (upserts false).record.deviceId ≠ (upserts true).record.deviceId)
    {inputs : List (Bool × Reply)} (hundisturbed : Undisturbed upserts race inputs) :
    Kept upserts (race.run upserts inputs) :=
  hundisturbed.invariant (fun _ _ hadmissible hkept ↦ hkept.step hids hadmissible) h

/-- In every undisturbed interleaving of two tasks that finish, the records of both are in the list on
disk and in the list of peers. -/
theorem both_pairings_kept (files : Directory) (peers : List PairingRecord)
    (hids : (upserts false).record.deviceId ≠ (upserts true).record.deviceId)
    (inputs : List (Bool × Reply)) (hundisturbed : Undisturbed upserts (start files peers) inputs)
    (hfinished : ∀ c, ((start files peers).run upserts inputs).tasks c = .finished) (c : Bool) :
    (∃ all, stored ((start files peers).run upserts inputs).files = some all ∧
      (upserts c).record ∈ all) ∧
    (upserts c).record ∈ ((start files peers).run upserts inputs).peers := by
  have hkept := (Kept.start files peers).run hids hundisturbed
  have hsound := hkept.sound c
  rw [hfinished c] at hsound
  exact ⟨hsound, hkept.shared hfinished c⟩

end Race

end AirClip.Keystore

namespace AirClip.Agent

open Keystore

variable [Primitives] [DataProtection] [SerdeJson] [DataProtection.Lawful] [SerdeJson.Lawful]
  [Ciborium] [TextCodecs] {C : Type} [DecidableEq C]

/-- Where no other task gets between its steps, a call of `upsert_pairing` is the step of the agent that
persists a record. -/
theorem act_refines_upsertPairing {agent : Agent C} {c : C} {window : ℕ} {pairing : PcPairing}
    {record : PairingRecord} {rest : List PairingAction}
    (htask : agent.tasks c = .acting window pairing (.completed record :: rest)) {files : Directory}
    (hstored : stored files = some agent.keystore) (unseals : Bool) (salt : Option (Octets 16))
    (reply : Reply) : ∃ loads works,
      stored (exec reply (Keystore.upsertPairing unseals salt record) files).2 =
        some (agent.step (.act c loads works)).keystore ∧
      (∀ all, (exec reply (Keystore.upsertPairing unseals salt record) files).1 = .ok all →
        (agent.step (.act c loads works)).tasks c = .storing record all) ∧
      ∀ failure, (exec reply (Keystore.upsertPairing unseals salt record) files).1 = .error failure →
        (agent.step (.act c loads works)).tasks c = .ended := by
  have hloads : ∃ loads : Bool,
      (loaded unseals reply files).toOption.getD [] = if loads then agent.keystore else [] := by
    by_cases hreadable : Readable unseals reply files
    · obtain ⟨before, hbefore, hloaded⟩ := loaded_of_readable hreadable
      cases hstored.symm.trans hbefore
      exact ⟨true, by rw [hloaded]; rfl⟩
    · exact ⟨false, (loaded_of_not_readable hreadable).1⟩
  obtain ⟨loads, hloads⟩ := hloads
  obtain ⟨-, sealed, hsealed, hresult, hfile⟩ | ⟨-, failure, hresult, hfile⟩ :=
    exec_updatePairings unseals salt reply (fun all ↦ AirClip.upsertPairing all record) files
      (congrArg (AirClip.upsertPairing · record) hloads)
  · refine ⟨loads, true, ?_, fun all hall ↦ ?_, fun failure hfailure ↦ ?_⟩
    · rw [step, htask]
      exact (stored_eq_some hfile).mpr (openPairings_sealPairings hsealed)
    · cases hresult.symm.trans hall
      rw [step, htask]
      exact Function.update_self ..
    · cases hresult.symm.trans hfailure
  · refine ⟨loads, false, ?_, fun all hall ↦ ?_, fun other _ ↦ ?_⟩
    · rw [step, htask]
      exact (stored_congr hfile).trans hstored
    · cases hresult.symm.trans hall
    · rw [step, htask]
      exact Function.update_self ..

end AirClip.Agent

namespace AirClip.Reference

open Keystore

def upserts : Bool → Upsert
  | false => ⟨true, some salt, iphone⟩
  | true => ⟨true, some salt, ipad⟩

/-- The tablet's task loads the list when the phone is saved, and before it is in the list of peers. -/
def overlapping : List (Bool × Reply) :=
  [false, false, false, true, true, false, true, true, true].map fun c ↦ (c, .good)

/-- Both tasks load the list before one of them has replaced it. -/
def simultaneous : List (Bool × Reply) :=
  [false, true, false, false, true, true, false, true].map fun c ↦ (c, .good)

end AirClip.Reference

namespace AirClip.Keystore.Race

open Reference in
theorem both_pairings_kept_overlapping :
    (∃ all, stored ((start (fun _ ↦ none) []).run upserts overlapping).files = some all ∧
      iphone ∈ all) ∧
    iphone ∈ ((start (fun _ ↦ none) []).run upserts overlapping).peers :=
  both_pairings_kept (fun _ ↦ none) [] (by decide) overlapping (by decide +kernel) (by decide +kernel)
    false

open Reference in
/-- Both tasks finish, and the phone is neither on disk nor among the peers. -/
theorem simultaneous_pairings_lose_one :
    (∀ c, ((start (fun _ ↦ none) []).run upserts simultaneous).tasks c = .finished) ∧
    stored ((start (fun _ ↦ none) []).run upserts simultaneous).files = some [ipad] ∧
    ((start (fun _ ↦ none) []).run upserts simultaneous).peers = [ipad] ∧ iphone ∉ [ipad] := by
  decide +kernel

end AirClip.Keystore.Race
