import AirClip.Agent.Keystore
import AirClip.Foundation.KeyedList

/-!
# Crash safety of the keystore

The keystore is used from an empty directory on, and the process may stop at every call, before or after
any of its steps.  What the calls return is explained by a map from device ids to records: a finished
update has been applied to it, an interrupted one applied or not, and every list that is loaded
represents it.  Reading works throughout, as a list that cannot be read would be taken for an empty one.
-/

open Foundation FileProgram KeyedList

namespace AirClip.Keystore

/-! ## Calls -/

/-- A call of the keystore, with what the random sources give for it. -/
inductive Request where
  | loadOrCreateIdentity (random : Option Key32) (salt : Option (Octets 16))
  | upsertPairing (salt : Option (Octets 16)) (record : PairingRecord)
  | removePairing (salt : Option (Octets 16)) (deviceIdHex : String)
  | loadPairings

variable [Primitives]

inductive Answer where
  | identity (result : Except KeystoreError IdentityKeypair)
  | pairings (result : Except KeystoreError (List PairingRecord))
deriving DecidableEq

variable [DataProtection] [SerdeJson]

def Request.program : Request → FileProgram Answer
  | .loadOrCreateIdentity random salt =>
    (Keystore.loadOrCreateIdentity true random salt).bind fun result ↦ .done (.identity result)
  | .upsertPairing salt record =>
    (Keystore.upsertPairing true salt record).bind fun result ↦ .done (.pairings result)
  | .removePairing salt deviceIdHex =>
    (Keystore.removePairing true salt deviceIdHex).bind fun result ↦ .done (.pairings result)
  | .loadPairings => (Keystore.loadPairings true).bind fun result ↦ .done (.pairings result)

/-- A call that is given time for as many steps as there are replies.  `returns` tells whether the
process is still there when it could return. -/
structure Call where
  request : Request
  replies : List Reply
  returns : Bool

/-- The files, and every request so far with its answer, if one has been returned. -/
structure Usage where
  files : Directory
  log : List (Request × Option Answer)

namespace Usage

def start : Usage := ⟨fun _ ↦ none, []⟩

def call (usage : Usage) (call : Call) : Usage :=
  let stopped := run (call.request.program, usage.files) call.replies
  { files := stopped.2
    log := usage.log ++ [(call.request, if call.returns then stopped.1.result? else none)] }

def run (usage : Usage) (calls : List Call) : Usage := calls.foldl Usage.call usage

end Usage

/-! ## What the calls mean -/

abbrev Pairings := String → Option PairingRecord

/-- What a request does to the map of pairings. -/
def Request.effect : Request → Pairings → Pairings
  | .upsertPairing _ record, pairings => Function.update pairings record.deviceId (some record)
  | .removePairing _ deviceIdHex, pairings => Function.update pairings deviceIdHex none
  | _, pairings => pairings

/-- A request that returns a list has been applied, and the list represents the map; one that fails has
not been applied, and one that is interrupted may have been.  A load does not fail. -/
inductive Explains : Request → Option Answer → Pairings → Pairings → Prop
  | identity {random : Option Key32} {salt : Option (Octets 16)} {pairings : Pairings}
      (result : Except KeystoreError IdentityKeypair) :
      Explains (.loadOrCreateIdentity random salt) (some (.identity result)) pairings pairings
  | returned {request : Request} {pairings : Pairings} {all : List PairingRecord}
      (hall : Represents PairingRecord.deviceId all (request.effect pairings)) :
      Explains request (some (.pairings (.ok all))) pairings (request.effect pairings)
  | failed {request : Request} (hrequest : request ≠ .loadPairings) {pairings : Pairings}
      (failure : KeystoreError) :
      Explains request (some (.pairings (.error failure))) pairings pairings
  | notApplied {request : Request} {pairings : Pairings} : Explains request none pairings pairings
  | applied {request : Request} {pairings : Pairings} :
      Explains request none pairings (request.effect pairings)

/-- The map after all requests so far. -/
inductive Replays : List (Request × Option Answer) → Pairings → Prop
  | nil : Replays [] fun _ ↦ none
  | snoc {log : List (Request × Option Answer)} {request : Request} {answer : Option Answer}
      {before after : Pairings} (hbefore : Replays log before)
      (hanswer : Explains request answer before after) : Replays (log ++ [(request, answer)]) after

/-- Once an identity has been returned, every later call returns the same one. -/
def OneIdentity (log : List (Request × Option Answer)) : Prop :=
  log.Pairwise fun earlier later ↦ ∀ {identity result},
    earlier.2 = some (.identity (.ok identity)) → later.2 = some (.identity result) →
      result = .ok identity

/-! ## What each call keeps -/

omit [Primitives] [DataProtection] [SerdeJson] in
/-- A file is replaced at once, and no other file but the temporary one changes. -/
theorem safe_writeAtomic (name : String) (bytes : Bytes) (files : Directory) :
    Safe (fun files' ↦ ∀ other ≠ withExtension name "tmp", files' other = files other)
      (fun result files' ↦
        (result = .error .io ∧ ∀ other ≠ withExtension name "tmp", files' other = files other) ∨
        (result = .ok () ∧ files' name = some bytes ∧
          ∀ other, other ≠ withExtension name "tmp" → other ≠ name → files' other = files other))
      (writeAtomic name bytes) files := by
  have htmp (left : Option Bytes) (other : String) (hother : other ≠ withExtension name "tmp") :
      Function.update files (withExtension name "tmp") left other = files other :=
    Function.update_of_ne hother ..
  refine ⟨fun _ _ ↦ rfl, ⟨htmp _, ?_, ?_⟩, fun left ↦ ?_⟩
  · exact .inl ⟨rfl, htmp _⟩
  · intro sealed hsealed
    rw [Function.update_self] at hsealed
    cases hsealed
    refine .inr ⟨rfl, Directory.move_target .., fun other hother hne ↦ ?_⟩
    rw [Directory.move_of_ne _ hother hne]
    exact htmp _ other hother
  · exact .inl ⟨rfl, htmp _⟩

omit [Primitives] in
theorem stored_congr {files files' : Directory} (h : files' pairingsFile = files pairingsFile) :
    stored files' = stored files := by
  rw [stored, stored, h]

section Lawful

variable [DataProtection.Lawful]

omit [Primitives] [SerdeJson] in
theorem unsealBytes_sealBytes {salt : Option (Octets 16)} {plain sealed : Bytes}
    (h : sealBytes salt plain = .ok sealed) (context : String) :
    unsealBytes true context sealed = .ok plain := by
  cases salt with
  | none => cases h
  | some salt =>
    cases h
    unfold unsealBytes
    rw [DataProtection.Lawful.unprotect_protect]

omit [SerdeJson] in
theorem openIdentity_seal {salt : Option (Octets 16)} {seed : Key32} {sealed : Bytes}
    (h : sealBytes salt seed.toList = .ok sealed) :
    openIdentity true (some sealed) = .ok (.fromSeed seed) := by
  rw [openIdentity, unsealBytes_sealBytes h]
  dsimp only
  rw [Octets.ofBytes?_toList]

variable [SerdeJson.Lawful]

omit [Primitives] in
theorem openPairings_sealPairings {salt : Option (Octets 16)} {all : List PairingRecord}
    {sealed : Bytes} (h : sealPairings salt all = .ok sealed) :
    openPairings true (some sealed) = .ok all := by
  unfold sealPairings at h
  split at h
  · cases h
  · next json hjson =>
    rw [openPairings, unsealBytes_sealBytes h]
    dsimp only
    rw [SerdeJson.Lawful.fromSlice_toVec hjson]

end Lawful

omit [Primitives] in
theorem safe_loadPairings {files : Directory} {all : List PairingRecord}
    (hstored : stored files = some all) :
    Safe (fun files' ↦ files' = files) (fun result files' ↦ result = .ok all ∧ files' = files)
      (loadPairings true) files := by
  refine ⟨rfl, ?_⟩
  cases hfile : files pairingsFile with
  | none =>
    cases (stored_of_missing hfile).symm.trans hstored
    exact ⟨rfl, rfl⟩
  | some sealed => exact ⟨rfl, by rw [hfile]; exact (stored_eq_some hfile).mp hstored, rfl⟩

omit [Primitives] in
/-- An update of the list that is stored is carried out or not at all. -/
theorem safe_updatePairings [DataProtection.Lawful] [SerdeJson.Lawful] {files : Directory}
    {all : List PairingRecord} (hstored : stored files = some all) (salt : Option (Octets 16))
    (change : List PairingRecord → List PairingRecord) :
    Safe (fun files' ↦ stored files' = some all ∧ files' identityFile = files identityFile)
      (fun result files' ↦ files' identityFile = files identityFile ∧
        ((∃ failure, result = .error failure) ∧ stored files' = some all ∨
          result = .ok (change all) ∧ stored files' = some (change all)))
      (updatePairings true salt change) files := by
  apply Safe.bind
  apply (safe_loadPairings hstored).mono
  · rintro files rfl
    exact ⟨hstored, rfl⟩
  rintro result files' ⟨rfl, rfl⟩
  apply Safe.bind
  unfold savePairings
  split
  · next failure _ => exact ⟨rfl, .inl ⟨⟨failure, rfl⟩, hstored⟩⟩
  next sealed hsealed =>
  apply (safe_writeAtomic pairingsFile sealed files').mono
  · intro files hsame
    exact ⟨(stored_congr (hsame _ (by decide))).trans hstored, hsame _ (by decide)⟩
  rintro result files (⟨rfl, hsame⟩ | ⟨rfl, hfile, hsame⟩)
  · exact ⟨hsame _ (by decide),
      .inl ⟨⟨_, rfl⟩, (stored_congr (hsame _ (by decide))).trans hstored⟩⟩
  · exact ⟨hsame _ (by decide) (by decide),
      .inr ⟨rfl, (stored_eq_some hfile).mpr (openPairings_sealPairings hsealed)⟩⟩

/-- The identity that is stored, if there is one. -/
def Identified (files : Directory) : Option IdentityKeypair → Prop
  | none => files identityFile = none
  | some identity => openIdentity true (files identityFile) = .ok identity

omit [SerdeJson] in
theorem Identified.congr {files files' : Directory} {current : Option IdentityKeypair}
    (h : Identified files current) (hsame : files' identityFile = files identityFile) :
    Identified files' current := by
  cases current with
  | none => exact hsame.trans h
  | some identity => exact (congrArg (openIdentity true) hsame).trans h

omit [SerdeJson] in
theorem safe_loadOrCreateIdentity [DataProtection.Lawful] {files : Directory}
    {current : Option IdentityKeypair} (hcurrent : Identified files current)
    (random : Option Key32) (salt : Option (Octets 16)) :
    Safe (fun files' ↦ files' pairingsFile = files pairingsFile ∧ Identified files' current)
      (fun result files' ↦ files' pairingsFile = files pairingsFile ∧
        ((∃ failure, result = .error failure) ∧ current = none ∧ Identified files' none ∨
          ∃ identity, result = .ok identity ∧ (current = none ∨ current = some identity) ∧
            Identified files' (some identity)))
      (loadOrCreateIdentity true random salt) files := by
  refine ⟨⟨rfl, hcurrent⟩, ?_⟩
  cases current with
  | some identity =>
    cases hfile : files identityFile with
    | none =>
      rw [Identified, hfile] at hcurrent
      cases hcurrent
    | some sealed =>
      exact ⟨⟨rfl, hcurrent⟩, rfl, .inr ⟨identity, hcurrent, .inr rfl, hcurrent⟩⟩
  | none =>
    have hmissing : files identityFile = none := hcurrent
    rw [hmissing, Option.isSome_none]
    dsimp only
    rw [if_neg Bool.false_ne_true]
    cases random with
    | none => exact ⟨rfl, .inl ⟨⟨_, rfl⟩, rfl, hcurrent⟩⟩
    | some seed =>
      dsimp only [Keypair.generate, Keypair.fromSeed]
      split
      · exact ⟨rfl, .inl ⟨⟨_, rfl⟩, rfl, hcurrent⟩⟩
      next sealed hsealed =>
      apply Safe.bind
      apply (safe_writeAtomic identityFile sealed files).mono
      · intro files' hsame
        exact ⟨hsame _ (by decide), hcurrent.congr (hsame _ (by decide))⟩
      rintro result files' (⟨rfl, hsame⟩ | ⟨rfl, hfile, hsame⟩)
      · exact ⟨hsame _ (by decide), .inl ⟨⟨_, rfl⟩, rfl, hcurrent.congr (hsame _ (by decide))⟩⟩
      · refine ⟨hsame _ (by decide) (by decide), .inr ⟨.fromSeed seed, rfl, .inl rfl, ?_⟩⟩
        exact (congrArg (openIdentity true) hfile).trans (openIdentity_seal hsealed)

/-! ## One call -/

/-- What a request does to the list of pairings. -/
def Request.change : Request → List PairingRecord → List PairingRecord
  | .upsertPairing _ record, all => AirClip.upsertPairing all record
  | .removePairing _ deviceIdHex, all => without deviceIdHex all
  | _, all => all

omit [Primitives] [DataProtection] [SerdeJson] in
theorem Request.represents_change (request : Request) {all : List PairingRecord} {pairings : Pairings}
    (h : Represents PairingRecord.deviceId all pairings) :
    Represents PairingRecord.deviceId (request.change all) (request.effect pairings) := by
  cases request with
  | upsertPairing salt record => exact h.upsert record
  | removePairing salt deviceIdHex => exact h.erase deviceIdHex
  | loadOrCreateIdentity | loadPairings => exact h

/-- What is on disk. -/
structure Holds (files : Directory) (all : List PairingRecord) (current : Option IdentityKeypair) :
    Prop where
  stored : stored files = some all
  identified : Identified files current

/-- A request with its answer, and what is on disk afterwards. -/
inductive Served (request : Request) (all : List PairingRecord) (current : Option IdentityKeypair) :
    Answer → Directory → Prop
  | identity {random : Option Key32} {salt : Option (Octets 16)} {identity : IdentityKeypair}
      {files : Directory} (hrequest : request = .loadOrCreateIdentity random salt)
      (hcurrent : current = none ∨ current = some identity)
      (hfiles : Holds files all (some identity)) :
      Served request all current (.identity (.ok identity)) files
  | noIdentity {random : Option Key32} {salt : Option (Octets 16)} {failure : KeystoreError}
      {files : Directory} (hrequest : request = .loadOrCreateIdentity random salt)
      (hcurrent : current = none) (hfiles : Holds files all none) :
      Served request all current (.identity (.error failure)) files
  | returned {files : Directory} (hfiles : Holds files (request.change all) current) :
      Served request all current (.pairings (.ok (request.change all))) files
  | failed {failure : KeystoreError} {files : Directory} (hrequest : request ≠ .loadPairings)
      (hfiles : Holds files all current) :
      Served request all current (.pairings (.error failure)) files

section Lawful

variable [DataProtection.Lawful] [SerdeJson.Lawful]

/-- An update of either kind. -/
theorem Holds.update {files : Directory} {all : List PairingRecord}
    {current : Option IdentityKeypair} (h : Holds files all current) (request : Request)
    (hrequest : request ≠ .loadPairings) (salt : Option (Octets 16)) :
    Safe (fun files ↦ Holds files all current) (Served request all current)
      ((updatePairings true salt request.change).bind fun result ↦ .done (.pairings result)) files := by
  apply Safe.bind
  apply (safe_updatePairings h.stored salt request.change).mono
  · rintro files' ⟨hstored, hsame⟩
    exact ⟨hstored, h.identified.congr hsame⟩
  rintro result files' ⟨hsame, ⟨⟨failure, rfl⟩, hstored⟩ | ⟨rfl, hstored⟩⟩
  · exact .failed hrequest ⟨hstored, h.identified.congr hsame⟩
  · exact .returned ⟨hstored, h.identified.congr hsame⟩

/-- Wherever a call stops, what was on disk is there, and where it returns, it has been served. -/
theorem Holds.safe {files : Directory} {all : List PairingRecord} {current : Option IdentityKeypair}
    (h : Holds files all current) (request : Request) :
    Safe (fun files ↦ Holds files all current) (Served request all current) request.program files := by
  cases request with
  | loadOrCreateIdentity random salt =>
    apply Safe.bind
    apply (safe_loadOrCreateIdentity h.identified random salt).mono
    · rintro files' ⟨hsame, hidentified⟩
      exact ⟨(stored_congr hsame).trans h.stored, hidentified⟩
    rintro result files' ⟨hsame, ⟨⟨failure, rfl⟩, hcurrent, hidentified⟩ |
      ⟨identity, rfl, hcurrent, hidentified⟩⟩
    · exact .noIdentity rfl hcurrent ⟨(stored_congr hsame).trans h.stored, hidentified⟩
    · exact .identity rfl hcurrent ⟨(stored_congr hsame).trans h.stored, hidentified⟩
  | upsertPairing salt record => exact h.update (.upsertPairing salt record) nofun salt
  | removePairing salt deviceIdHex => exact h.update (.removePairing salt deviceIdHex) nofun salt
  | loadPairings =>
    apply Safe.bind
    apply (safe_loadPairings h.stored).mono
    · rintro files' rfl
      exact h
    rintro result files' ⟨rfl, rfl⟩
    exact .returned h

end Lawful

/-! ## All calls -/

/-- What holds after every call: the map that explains the log is on disk, and so is the identity that
has been returned. -/
structure Consistent (usage : Usage) (pairings : Pairings) (all : List PairingRecord)
    (current : Option IdentityKeypair) : Prop where
  replays : Replays usage.log pairings
  represents : Represents PairingRecord.deviceId all pairings
  holds : Holds usage.files all current
  one : OneIdentity usage.log
  known : ∀ {entry identity}, entry ∈ usage.log → entry.2 = some (.identity (.ok identity)) →
    current = some identity

/-- The answer to one more request fits the map and the identity. -/
theorem Consistent.snoc {usage : Usage} {pairings pairings' : Pairings}
    {all all' : List PairingRecord} {current current' : Option IdentityKeypair}
    (h : Consistent usage pairings all current) {request : Request} {answer : Option Answer}
    (hexplains : Explains request answer pairings pairings')
    (hrepresents : Represents PairingRecord.deviceId all' pairings') {files : Directory}
    (hfiles : Holds files all' current')
    (hcurrent : ∀ {identity}, current = some identity → current' = some identity)
    (hanswer : ∀ {result}, answer = some (.identity result) →
      (∀ {identity}, current = some identity → result = .ok identity) ∧
        ∀ {identity}, result = .ok identity → current' = some identity) :
    Consistent ⟨files, usage.log ++ [(request, answer)]⟩ pairings' all' current' := by
  refine ⟨h.replays.snoc hexplains, hrepresents, hfiles, ?_, ?_⟩
  · apply List.pairwise_append.mpr
    refine ⟨h.one, List.pairwise_singleton _ _, ?_⟩
    intro earlier hearlier later hlater identity result hidentity hresult
    cases List.mem_singleton.mp hlater
    exact (hanswer hresult).1 (h.known hearlier hidentity)
  · intro entry identity hentry hidentity
    obtain hearlier | hnow := List.mem_append.mp hentry
    · exact hcurrent (h.known hearlier hidentity)
    · cases List.mem_singleton.mp hnow
      exact (hanswer hidentity).2 rfl

/-- What a call that comes to its end leaves on disk, whether or not it still returns its answer. -/
theorem Consistent.served {usage : Usage} {pairings : Pairings} {all : List PairingRecord}
    {current : Option IdentityKeypair} (h : Consistent usage pairings all current)
    {request : Request} {answer : Answer} {files : Directory}
    (hserved : Served request all current answer files) (returns : Bool) :
    ∃ pairings' all' current', Consistent
      ⟨files, usage.log ++ [(request, if returns then some answer else none)]⟩
      pairings' all' current' := by
  cases hserved with
  | @identity random salt identity files hrequest hcurrent hfiles =>
    cases hrequest
    have hsame {other : IdentityKeypair} (hother : current = some other) :
        some identity = some other := by
      obtain hnone | hsome := hcurrent
      · cases hnone.symm.trans hother
      · exact hsome.symm.trans hother
    refine ⟨pairings, all, _, h.snoc ?_ h.represents hfiles hsame fun {result} hresult ↦ ?_⟩
    · cases returns
      · exact .notApplied
      · exact .identity _
    · cases returns
      · cases hresult
      · cases hresult
        refine ⟨fun hother ↦ ?_, fun hother ↦ ?_⟩
        · rw [Option.some.inj (hsame hother)]
        · cases hother
          rfl
  | noIdentity hrequest hcurrent hfiles =>
    cases hrequest
    cases hcurrent
    refine ⟨pairings, all, none, h.snoc ?_ h.represents hfiles id fun {result} hresult ↦ ?_⟩
    · cases returns
      · exact .notApplied
      · exact .identity _
    · cases returns
      · cases hresult
      · cases hresult
        exact ⟨nofun, nofun⟩
  | returned hfiles =>
    refine ⟨_, _, current, h.snoc ?_ (request.represents_change h.represents) hfiles id
      fun {result} hresult ↦ ?_⟩
    · cases returns
      · exact .applied
      · exact .returned (request.represents_change h.represents)
    · cases returns <;> cases hresult
  | failed hrequest hfiles =>
    refine ⟨pairings, all, current, h.snoc ?_ h.represents hfiles id fun {result} hresult ↦ ?_⟩
    · cases returns
      · exact .notApplied
      · exact .failed hrequest _
    · cases returns <;> cases hresult

theorem Consistent.start : Consistent .start (fun _ ↦ none) [] none :=
  ⟨.nil, represents_nil _, ⟨rfl, rfl⟩, List.Pairwise.nil, fun hentry ↦ nomatch hentry⟩

section Lawful

variable [DataProtection.Lawful] [SerdeJson.Lawful]

theorem Consistent.call {usage : Usage} {pairings : Pairings} {all : List PairingRecord}
    {current : Option IdentityKeypair} (h : Consistent usage pairings all current) {call : Call}
    (hreplies : ∀ reply ∈ call.replies, reply.Observes) :
    ∃ pairings' all' current', Consistent (usage.call call) pairings' all' current' := by
  have hsafe := (h.holds.safe call.request).run hreplies
  unfold Usage.call
  generalize FileProgram.run (call.request.program, usage.files) call.replies = stopped at hsafe
  cases hresult : stopped.1.result? with
  | none =>
    have hnone : (if call.returns then none else none) = (none : Option Answer) := ite_self _
    refine ⟨pairings, all, current, ?_⟩
    dsimp only
    rw [hresult, hnone]
    exact h.snoc .notApplied h.represents (hsafe.kept_of_stopped hresult) id nofun
  | some answer =>
    dsimp only
    rw [hresult]
    exact h.served (hsafe.post_of_result hresult) call.returns

theorem Consistent.run {usage : Usage} (calls : List Call)
    (hreplies : ∀ call ∈ calls, ∀ reply ∈ call.replies, reply.Observes)
    (h : ∃ pairings all current, Consistent usage pairings all current) :
    ∃ pairings all current, Consistent (usage.run calls) pairings all current := by
  apply foldl_invariant
    (P := fun usage ↦ ∃ pairings all current, Consistent usage pairings all current) _ h
  intro usage call hmem hkept
  obtain ⟨pairings, all, current, hconsistent⟩ := hkept
  exact hconsistent.call (hreplies call hmem)

/-- Over every sequence of calls from an empty directory on, each of which may be stopped at any point,
a map explains all answers, the next load returns a list of its entries, and there is one identity. -/
theorem keystore_crash_safe (calls : List Call)
    (hreplies : ∀ call ∈ calls, ∀ reply ∈ call.replies, reply.Observes) :
    (∃ pairings all, Replays (Usage.start.run calls).log pairings ∧
      Represents PairingRecord.deviceId all pairings ∧
      ∀ reply : Reply, reply.Observes → exec reply (loadPairings true) (Usage.start.run calls).files =
        (.ok all, (Usage.start.run calls).files)) ∧
    OneIdentity (Usage.start.run calls).log := by
  obtain ⟨pairings, all, current, hconsistent⟩ :=
    Consistent.run calls hreplies ⟨_, _, _, Consistent.start⟩
  refine ⟨⟨pairings, all, hconsistent.replays, hconsistent.represents, ?_⟩, hconsistent.one⟩
  intro reply hreply
  obtain ⟨hresult, hfiles⟩ := (safe_loadPairings hconsistent.holds.stored).exec hreply
  exact Prod.ext hresult hfiles

end Lawful

end AirClip.Keystore

namespace AirClip.Reference

open Keystore

/-- An identity is made, the phone is paired with, and the process stops twice while the tablet is saved:
in the middle of the write, and when the file is in place. -/
def interruptedCalls : List Call :=
  let good := List.replicate 5 Reply.good
  [⟨.loadOrCreateIdentity (some (pad 32 [5])) (some salt), good, true⟩,
    ⟨.upsertPairing (some salt) iphone, good, true⟩,
    ⟨.upsertPairing (some salt) ipad, [.good, .good, ⟨true, true, false, some [1, 2], true⟩], false⟩,
    ⟨.loadPairings, good, true⟩,
    ⟨.upsertPairing (some salt) ipad, good, false⟩,
    ⟨.loadPairings, good, true⟩,
    ⟨.loadOrCreateIdentity (some (pad 32 [6])) (some salt), good, true⟩]

end AirClip.Reference

namespace AirClip.Keystore

open Reference in
/-- The first interruption leaves the list as it was, the second one with the tablet. -/
theorem keystore_crash_safe_two_interruptions :
    (Usage.start.run interruptedCalls).log.map Prod.snd =
      [some (.identity (.ok pcIdentity)), some (.pairings (.ok [iphone])), none,
        some (.pairings (.ok [iphone])), none, some (.pairings (.ok [iphone, ipad])),
        some (.identity (.ok pcIdentity))] ∧
    (∃ pairings all, Replays (Usage.start.run interruptedCalls).log pairings ∧
      Represents PairingRecord.deviceId all pairings ∧
      ∀ reply : Reply, reply.Observes →
        exec reply (loadPairings true) (Usage.start.run interruptedCalls).files =
          (.ok all, (Usage.start.run interruptedCalls).files)) ∧
    OneIdentity (Usage.start.run interruptedCalls).log :=
  ⟨by decide +kernel, keystore_crash_safe interruptedCalls (by decide)⟩

end AirClip.Keystore
