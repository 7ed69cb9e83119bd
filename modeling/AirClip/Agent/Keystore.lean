import AirClip.Agent.PairingServer
import AirClip.Foundation.FileProgram

/-!
# The keystore

The identity seed and the list of pairings are sealed, each in a file of its own, and written through
a temporary file.  An update reads the list, changes it and saves it.  Where the list cannot be read, an
update starts from no pairings at all; what is on disk survives such a read exactly if the save does not
go through either.
-/

open Foundation FileProgram Cbor

namespace AirClip

/-- How the platform seals files at rest: by DPAPI on Windows, and not at all elsewhere.  A sealing
differs from the next one by its salt. -/
class DataProtection where
  protect : Octets 16 → Bytes → Bytes
  unprotect : Bytes → Option Bytes

/-- What has been sealed can be unsealed. -/
class DataProtection.Lawful [DataProtection] : Prop where
  unprotect_protect : ∀ salt plain,
    DataProtection.unprotect (DataProtection.protect salt plain) = some plain

/-- The two entry points of the `serde_json` crate, at the list of pairings. -/
class SerdeJson where
  toVec : List PairingRecord → Except String Bytes
  fromSlice : Bytes → Except String (List PairingRecord)

/-- A list that has been written is read back. -/
class SerdeJson.Lawful [SerdeJson] : Prop where
  fromSlice_toVec : ∀ {records json},
    SerdeJson.toVec records = .ok json → SerdeJson.fromSlice json = .ok records

namespace Keystore

inductive KeystoreError where
  /-- A file cannot be read, written or renamed. -/
  | io
  | sealing
  | unsealing (context : String)
  | json (message : String)
  /-- No identity can be generated. -/
  | identity (failure : Error)
  | seedLength (message : String)
deriving DecidableEq

def identityFile : String := "identity.bin"

def pairingsFile : String := "pairings.bin"

/-- `Path::with_extension` on the name of a file that has one: what stands before the last dot stays. -/
def withExtension (name extension : String) : String :=
  String.ofList ((name.toList.reverse.dropWhile (· ≠ '.')).drop 1).reverse ++ "." ++ extension

example : withExtension pairingsFile "tmp" = "pairings.tmp" := by decide

/-- Write via temp and rename so that a crash in the middle of a write cannot truncate a key file. -/
def writeAtomic (name : String) (bytes : Bytes) : FileProgram (Except KeystoreError Unit) :=
  let tmp := withExtension name "tmp"
  .write tmp bytes fun written ↦
    if written then
      .rename tmp name fun renamed ↦ .done (if renamed then .ok () else .error .io)
    else .done (.error .io)

section Sealing

variable [DataProtection]

/-- The sealing of a plaintext, if the platform can draw a salt for it. -/
def sealBytes (salt : Option (Octets 16)) (plain : Bytes) : Except KeystoreError Bytes :=
  match salt with
  | none => .error .sealing
  | some salt => .ok (DataProtection.protect salt plain)

/-- `works` tells whether the platform unseals anything at this time. -/
def unsealBytes (works : Bool) (context : String) (sealed : Bytes) : Except KeystoreError Bytes :=
  match works, DataProtection.unprotect sealed with
  | true, some plain => .ok plain
  | _, _ => .error (.unsealing context)

/-- The identity in its file. -/
def openIdentity [Primitives] (unseals : Bool) (contents : Option Bytes) :
    Except KeystoreError IdentityKeypair :=
  match contents with
  | none => .error .io
  | some sealed =>
    match unsealBytes unseals "unsealing identity (wrong Windows user?)" sealed with
    | .error failure => .error failure
    | .ok seed =>
      match Octets.ofBytes? 32 seed with
      | none => .error (.seedLength "identity seed must be 32 bytes")
      | some seed => .ok (.fromSeed seed)

/-- Load the device identity, generating and sealing one on first run. -/
def loadOrCreateIdentity [Primitives] (unseals : Bool) (random : Option Key32) (salt : Option (Octets 16)) :
    FileProgram (Except KeystoreError IdentityKeypair) :=
  .stat identityFile fun found ↦
    if found then .read identityFile fun contents ↦ .done (openIdentity unseals contents)
    else
      match Keypair.generate random with
      | .error failure => .done (.error (.identity failure))
      | .ok identity =>
        match sealBytes salt identity.secret.toList with
        | .error failure => .done (.error failure)
        | .ok sealed =>
          (writeAtomic identityFile sealed).bind fun written ↦ .done (written.map fun _ ↦ identity)

variable [SerdeJson]

/-- The list of pairings in its file. -/
def openPairings (unseals : Bool) (contents : Option Bytes) :
    Except KeystoreError (List PairingRecord) :=
  match contents with
  | none => .error .io
  | some sealed =>
    match unsealBytes unseals "unsealing pairings" sealed with
    | .error failure => .error failure
    | .ok json =>
      match SerdeJson.fromSlice json with
      | .error message => .error (.json message)
      | .ok records => .ok records

def loadPairings (unseals : Bool) : FileProgram (Except KeystoreError (List PairingRecord)) :=
  .stat pairingsFile fun found ↦
    if found then .read pairingsFile fun contents ↦ .done (openPairings unseals contents)
    else .done (.ok [])

/-- The list as it is written to its file. -/
def sealPairings (salt : Option (Octets 16)) (records : List PairingRecord) : Except KeystoreError Bytes :=
  match SerdeJson.toVec records with
  | .error message => .error (.json message)
  | .ok json => sealBytes salt json

def savePairings (salt : Option (Octets 16)) (records : List PairingRecord) :
    FileProgram (Except KeystoreError Unit) :=
  match sealPairings salt records with
  | .error failure => .done (.error failure)
  | .ok sealed => writeAtomic pairingsFile sealed

/-- Load the list, change it and persist it.  A list that cannot be loaded counts as empty. -/
def updatePairings (unseals : Bool) (salt : Option (Octets 16))
    (change : List PairingRecord → List PairingRecord) :
    FileProgram (Except KeystoreError (List PairingRecord)) :=
  (loadPairings unseals).bind fun loaded ↦
    let all := change (loaded.toOption.getD [])
    (savePairings salt all).bind fun saved ↦ .done (saved.map fun _ ↦ all)

/-- Add or replace a pairing (keyed by device id) and persist. -/
def upsertPairing (unseals : Bool) (salt : Option (Octets 16)) (record : PairingRecord) :
    FileProgram (Except KeystoreError (List PairingRecord)) :=
  updatePairings unseals salt fun all ↦ AirClip.upsertPairing all record

/-- The list without a device. -/
def without (deviceIdHex : String) (all : List PairingRecord) : List PairingRecord :=
  all.filter fun r ↦ decide (r.deviceId ≠ deviceIdHex)

def removePairing (unseals : Bool) (salt : Option (Octets 16)) (deviceIdHex : String) :
    FileProgram (Except KeystoreError (List PairingRecord)) :=
  updatePairings unseals salt (without deviceIdHex)

end Sealing

/-! ## The result of each call -/

/-- A file is written if both of its steps work, and unchanged otherwise. -/
theorem exec_writeAtomic (reply : Reply) {name : String} (hname : withExtension name "tmp" ≠ name)
    (bytes : Bytes) (files : Directory) :
    (reply.writes ∧ reply.renames ∧
      (exec reply (writeAtomic name bytes) files).1 = .ok () ∧
      (exec reply (writeAtomic name bytes) files).2 name = some bytes) ∨
    (¬ (reply.writes ∧ reply.renames) ∧
      (exec reply (writeAtomic name bytes) files).1 = .error .io ∧
      (exec reply (writeAtomic name bytes) files).2 name = files name) := by
  rw [writeAtomic, exec]
  split
  · next hwrites =>
    rw [if_pos rfl, exec, Function.update_self]
    dsimp only
    split
    · next hrenames => exact .inl ⟨hwrites, hrenames, rfl, Directory.move_target ..⟩
    · next hrenames => exact .inr ⟨fun h ↦ hrenames h.2, rfl, Function.update_of_ne hname.symm ..⟩
  · next hwrites => exact .inr ⟨fun h ↦ hwrites h.1, rfl, Function.update_of_ne hname.symm ..⟩

variable [DataProtection] [SerdeJson]

/-- What a call of `load_pairings` returns. -/
def loaded (unseals : Bool) (reply : Reply) (files : Directory) :
    Except KeystoreError (List PairingRecord) :=
  if reply.finds && (files pairingsFile).isSome then
    openPairings unseals (if reply.reads then files pairingsFile else none)
  else .ok []

theorem exec_loadPairings (unseals : Bool) (reply : Reply) (files : Directory) :
    exec reply (loadPairings unseals) files = (loaded unseals reply files, files) := by
  rw [loadPairings, exec, loaded]
  split
  · rfl
  · rfl

/-- The list can be encoded and sealed, and both steps of writing it work. -/
structure Saves (salt : Option (Octets 16)) (reply : Reply) (all : List PairingRecord) : Prop where
  seals : ∃ sealed, sealPairings salt all = .ok sealed
  writes : reply.writes
  renames : reply.renames

theorem exec_savePairings (salt : Option (Octets 16)) (reply : Reply) (all : List PairingRecord)
    (files : Directory) :
    (Saves salt reply all ∧ ∃ sealed, sealPairings salt all = .ok sealed ∧
      (exec reply (savePairings salt all) files).1 = .ok () ∧
      (exec reply (savePairings salt all) files).2 pairingsFile = some sealed) ∨
    (¬ Saves salt reply all ∧ ∃ failure,
      (exec reply (savePairings salt all) files).1 = .error failure ∧
      (exec reply (savePairings salt all) files).2 pairingsFile = files pairingsFile) := by
  rw [savePairings]
  cases hsealed : sealPairings salt all with
  | error failure =>
    right
    refine ⟨?_, failure, rfl, rfl⟩
    rintro ⟨⟨sealed, hseals⟩, -, -⟩
    cases hsealed.symm.trans hseals
  | ok sealed =>
    obtain ⟨hwrites, hrenames, hresult, hfile⟩ | ⟨hfails, hresult, hfile⟩ :=
      exec_writeAtomic reply (by decide : withExtension pairingsFile "tmp" ≠ pairingsFile) sealed files
    · exact .inl ⟨⟨⟨sealed, hsealed⟩, hwrites, hrenames⟩, sealed, rfl, hresult, hfile⟩
    · exact .inr ⟨fun h ↦ hfails ⟨h.writes, h.renames⟩, .io, hresult, hfile⟩

/-- An update saves what it has made of the list, or fails and leaves the file as it was. -/
theorem exec_updatePairings (unseals : Bool) (salt : Option (Octets 16)) (reply : Reply)
    (change : List PairingRecord → List PairingRecord) (files : Directory) {all : List PairingRecord}
    (hall : change ((loaded unseals reply files).toOption.getD []) = all) :
    (Saves salt reply all ∧ ∃ sealed, sealPairings salt all = .ok sealed ∧
      (exec reply (updatePairings unseals salt change) files).1 = .ok all ∧
      (exec reply (updatePairings unseals salt change) files).2 pairingsFile = some sealed) ∨
    (¬ Saves salt reply all ∧ ∃ failure,
      (exec reply (updatePairings unseals salt change) files).1 = .error failure ∧
      (exec reply (updatePairings unseals salt change) files).2 pairingsFile = files pairingsFile) := by
  rw [updatePairings, exec_bind, exec_loadPairings, exec_bind]
  dsimp only
  rw [hall]
  obtain ⟨hsaves, sealed, hsealed, hresult, hfile⟩ | ⟨hsaves, failure, hresult, hfile⟩ :=
    exec_savePairings salt reply all files
  · exact .inl ⟨hsaves, sealed, hsealed, by rw [hresult]; rfl, hfile⟩
  · exact .inr ⟨hsaves, failure, by rw [hresult]; rfl, hfile⟩

/-! ## Failed reads -/

/-- The list in the file of pairings.  A missing file holds no pairings. -/
def stored (files : Directory) : Option (List PairingRecord) :=
  match files pairingsFile with
  | none => some []
  | some sealed => (openPairings true (some sealed)).toOption

/-- The file is missing, or it is found, read, unsealed and parsed. -/
def Readable (unseals : Bool) (reply : Reply) (files : Directory) : Prop :=
  files pairingsFile = none ∨
    (reply.finds ∧ reply.reads ∧ unseals ∧ ∃ before, stored files = some before)

/-- A failed load of the list makes the update fail and leaves the file as it is, and an update that
succeeds has changed the list that was stored. -/
structure KeepsPairings (unseals : Bool) (reply : Reply) (files : Directory)
    (change : List PairingRecord → List PairingRecord)
    (update : FileProgram (Except KeystoreError (List PairingRecord))) : Prop where
  unread : ∀ failure, (exec reply (loadPairings unseals) files).1 = .error failure →
    (∃ failure', (exec reply update files).1 = .error failure') ∧
      (exec reply update files).2 pairingsFile = files pairingsFile
  updated : ∀ all, (exec reply update files).1 = .ok all →
    ∃ before, stored files = some before ∧ all = change before

/-- Only a file that is there is opened, and only while the platform unseals. -/
theorem openPairings_eq_ok {unseals : Bool} {contents : Option Bytes} {all : List PairingRecord} :
    openPairings unseals contents = .ok all ↔
      unseals ∧ ∃ sealed, contents = some sealed ∧ openPairings true (some sealed) = .ok all := by
  cases contents with
  | none => simp [openPairings]
  | some sealed => cases unseals <;> simp [openPairings, unsealBytes]

theorem stored_of_missing {files : Directory} (h : files pairingsFile = none) :
    stored files = some [] := by
  rw [stored, h]

theorem stored_eq_some {files : Directory} {sealed : Bytes} (h : files pairingsFile = some sealed)
    {all : List PairingRecord} :
    stored files = some all ↔ openPairings true (some sealed) = .ok all := by
  rw [stored, h]
  dsimp only
  cases openPairings true (some sealed) with
  | error => exact iff_of_false nofun nofun
  | ok => simp [Except.toOption]

theorem loaded_of_missing {unseals : Bool} {reply : Reply} {files : Directory}
    (h : files pairingsFile = none) : loaded unseals reply files = .ok [] := by
  rw [loaded, h, Option.isSome_none, Bool.and_false, if_neg Bool.false_ne_true]

theorem loaded_of_some {unseals : Bool} {reply : Reply} {files : Directory} {sealed : Bytes}
    (h : files pairingsFile = some sealed) : loaded unseals reply files =
      if reply.finds then openPairings unseals (if reply.reads then some sealed else none)
      else .ok [] := by
  rw [loaded, h, Option.isSome_some, Bool.and_true]

theorem loaded_of_readable {unseals : Bool} {reply : Reply} {files : Directory}
    (h : Readable unseals reply files) :
    ∃ before, stored files = some before ∧ loaded unseals reply files = .ok before := by
  obtain hmissing | ⟨hfinds, hreads, hunseals, before, hstored⟩ := h
  · exact ⟨[], stored_of_missing hmissing, loaded_of_missing hmissing⟩
  · refine ⟨before, hstored, ?_⟩
    cases hsealed : files pairingsFile with
    | none =>
      cases (stored_of_missing hsealed).symm.trans hstored
      exact loaded_of_missing hsealed
    | some sealed =>
      rw [loaded_of_some hsealed, if_pos hfinds, if_pos hreads]
      exact openPairings_eq_ok.mpr ⟨hunseals, sealed, rfl, (stored_eq_some hsealed).mp hstored⟩

/-- A list that cannot be read counts as empty, and the failure shows unless the file is not even
found. -/
theorem loaded_of_not_readable {unseals : Bool} {reply : Reply} {files : Directory}
    (h : ¬ Readable unseals reply files) :
    (loaded unseals reply files).toOption.getD [] = [] ∧
      ((∃ failure, loaded unseals reply files = .error failure) ↔ reply.finds) := by
  cases hsealed : files pairingsFile with
  | none => exact absurd (.inl hsealed) h
  | some sealed =>
    rw [loaded_of_some hsealed]
    split
    · next hfinds =>
      cases hopened : openPairings unseals (if reply.reads then some sealed else none) with
      | error failure => exact ⟨rfl, iff_of_true ⟨failure, rfl⟩ hfinds⟩
      | ok all =>
        obtain ⟨hunseals, contents, hcontents, hparsed⟩ := openPairings_eq_ok.mp hopened
        obtain ⟨hreads, hsame⟩ := Option.ite_none_right_eq_some.mp hcontents
        cases hsame
        exact absurd (.inr ⟨hfinds, hreads, hunseals, all, (stored_eq_some hsealed).mpr hparsed⟩) h
    · next hfinds => exact ⟨rfl, iff_of_false nofun hfinds⟩

/-- An update whose save fails keeps what is on disk. -/
theorem keepsPairings_of_not_saves {unseals : Bool} {salt : Option (Octets 16)} {reply : Reply}
    {files : Directory} {change : List PairingRecord → List PairingRecord}
    (h : ¬ Saves salt reply (change ((loaded unseals reply files).toOption.getD []))) :
    KeepsPairings unseals reply files change (updatePairings unseals salt change) := by
  obtain ⟨hsaves, -⟩ | ⟨-, failure, hresult, hfile⟩ :=
    exec_updatePairings unseals salt reply change files rfl
  · exact absurd hsaves h
  · exact ⟨fun _ _ ↦ ⟨⟨failure, hresult⟩, hfile⟩, fun all hall ↦ nomatch hresult.symm.trans hall⟩

theorem keepsPairings_of_readable {unseals : Bool} {salt : Option (Octets 16)} {reply : Reply}
    {files : Directory} {change : List PairingRecord → List PairingRecord}
    (h : Readable unseals reply files) :
    KeepsPairings unseals reply files change (updatePairings unseals salt change) := by
  obtain ⟨before, hstored, hloaded⟩ := loaded_of_readable h
  obtain ⟨-, sealed, -, hresult, -⟩ | ⟨hsaves, -⟩ :=
    exec_updatePairings unseals salt reply change files rfl
  · rw [hloaded] at hresult
    constructor
    · intro failure hfailure
      rw [exec_loadPairings, hloaded] at hfailure
      cases hfailure
    · intro all hall
      cases hresult.symm.trans hall
      exact ⟨before, hstored, rfl⟩
  · exact keepsPairings_of_not_saves hsaves

/-- An update of a list that cannot be read and is saved all the same is made from nothing. -/
theorem keepsPairings_iff_of_saves {unseals : Bool} {salt : Option (Octets 16)} {reply : Reply}
    {files : Directory} {change : List PairingRecord → List PairingRecord}
    (hreadable : ¬ Readable unseals reply files) (hsaves : Saves salt reply (change [])) :
    KeepsPairings unseals reply files change (updatePairings unseals salt change) ↔
      ¬ reply.finds ∧ ∃ before, stored files = some before ∧ change [] = change before := by
  obtain ⟨hempty, hfailure⟩ := loaded_of_not_readable hreadable
  obtain ⟨-, sealed, -, hresult, -⟩ | ⟨hfails, -⟩ :=
    exec_updatePairings unseals salt reply change files (congrArg change hempty)
  · constructor
    · intro h
      refine ⟨fun hfinds ↦ ?_, h.updated _ hresult⟩
      obtain ⟨failure, hloaded⟩ := hfailure.mpr hfinds
      obtain ⟨failure', herror⟩ := (h.unread failure (by rw [exec_loadPairings, hloaded])).1
      cases hresult.symm.trans herror
    · rintro ⟨hfinds, before, hstored, hbefore⟩
      constructor
      · intro failure hloaded
        rw [exec_loadPairings] at hloaded
        exact absurd (hfailure.mp ⟨failure, hloaded⟩) hfinds
      · intro all hall
        cases hresult.symm.trans hall
        exact ⟨before, hstored, hbefore⟩
  · exact absurd hsaves hfails

/-- When an update keeps the pairings on disk: the list has been read, or nothing can be saved, or the
file is not found and holds nothing that the update would keep. -/
def Harmless (unseals : Bool) (salt : Option (Octets 16)) (reply : Reply) (files : Directory)
    (change : List PairingRecord → List PairingRecord) : Prop :=
  Readable unseals reply files ∨ ¬ Saves salt reply (change []) ∨
    (¬ reply.finds ∧ ∃ before, stored files = some before ∧ change [] = change before)

theorem keepsPairings_iff_harmless (unseals : Bool) (salt : Option (Octets 16)) (reply : Reply)
    (files : Directory) (change : List PairingRecord → List PairingRecord) :
    KeepsPairings unseals reply files change (updatePairings unseals salt change) ↔
      Harmless unseals salt reply files change := by
  by_cases hreadable : Readable unseals reply files
  · exact iff_of_true (keepsPairings_of_readable hreadable) (.inl hreadable)
  · by_cases hsaves : Saves salt reply (change [])
    · rw [keepsPairings_iff_of_saves hreadable hsaves, Harmless, or_iff_right hreadable,
        or_iff_right (not_not_intro hsaves)]
    · refine iff_of_true (keepsPairings_of_not_saves ?_) (.inr (.inl hsaves))
      rwa [(loaded_of_not_readable hreadable).1]

/-- For every state of the files, every device and every way the steps go, `upsert_pairing` and
`remove_pairing` keep the pairings on disk exactly if the list has been read, or nothing can be saved,
or there is nothing to lose. -/
theorem updates_keep_pairings_iff (unseals : Bool) (salt : Option (Octets 16)) (reply : Reply)
    (files : Directory) (record : PairingRecord) (deviceIdHex : String) :
    (KeepsPairings unseals reply files (fun all ↦ AirClip.upsertPairing all record)
        (upsertPairing unseals salt record) ↔
      Harmless unseals salt reply files fun all ↦ AirClip.upsertPairing all record) ∧
    (KeepsPairings unseals reply files (without deviceIdHex)
        (removePairing unseals salt deviceIdHex) ↔
      Harmless unseals salt reply files (without deviceIdHex)) :=
  ⟨keepsPairings_iff_harmless .., keepsPairings_iff_harmless ..⟩

end Keystore

namespace Reference

/-- The salt stands in front of the plaintext. -/
scoped instance dataProtection : DataProtection where
  protect salt plain := salt.toList ++ plain
  unprotect sealed := if 16 ≤ sealed.length then some (sealed.drop 16) else none

scoped instance dataProtectionLawful : DataProtection.Lawful where
  unprotect_protect salt plain := by
    change (if 16 ≤ (salt.toList ++ plain).length then some ((salt.toList ++ plain).drop 16) else none)
      = some plain
    rw [if_pos (by simp), List.drop_left' salt.toList_length]

/-- The fields of a record in their order. -/
def recordValue (record : PairingRecord) : Value :=
  .array [.text record.deviceId, .text record.publicKey, .text record.displayName,
    .integer record.createdAtMs.toNat, .integer record.lastSeenMs.toNat]

def readRecord : Value → Option PairingRecord
  | .array [.text deviceId, .text publicKey, .text displayName, .integer created, .integer seen] =>
    some ⟨deviceId, publicKey, displayName, UInt64.ofNat created.toNat, UInt64.ofNat seen.toNat⟩
  | _ => none

def readRecords (json : Bytes) : Option (List PairingRecord) :=
  match decode 8 json with
  | some (.array items) => items.mapM readRecord
  | _ => none

/-- CBOR stands in for JSON, and what would not be read back is not written. -/
scoped instance serdeJson : SerdeJson where
  toVec records :=
    let json := encode (.array (records.map recordValue))
    if readRecords json = some records then .ok json else .error "unreadable"
  fromSlice json :=
    match readRecords json with
    | some records => .ok records
    | none => .error "expected a list of records"

scoped instance serdeJsonLawful : SerdeJson.Lawful where
  fromSlice_toVec {records json} h := by
    change (if _ then _ else _) = _ at h
    split at h
    · next hread =>
      cases h
      change (match readRecords _ with | some _ => _ | none => _) = _
      rw [hread]
    · cases h

def iphone : PairingRecord := ⟨"aaaaaaaaaaaaaaaaaaaaaaaaaaaaaaaa", "cGs", "iPhone", 1, 1⟩

def ipad : PairingRecord := ⟨"bbbbbbbbbbbbbbbbbbbbbbbbbbbbbbbb", "cGs", "iPad", 2, 2⟩

def salt : Octets 16 := pad 16 [7]

/-- The phone has been paired with. -/
def phoneOnDisk : Directory :=
  (exec .good (Keystore.upsertPairing true (some salt) iphone) fun _ ↦ none).2

end Reference

open Reference in
/-- The list is there and cannot be unsealed for the moment; the pairing of the tablet goes through and
erases the phone. -/
theorem unsealing_failure_erases_pairings :
    Keystore.stored phoneOnDisk = some [iphone] ∧ ¬ Keystore.KeepsPairings false .good phoneOnDisk
      (fun all ↦ upsertPairing all ipad) (Keystore.upsertPairing false (some salt) ipad) := by
  have hstored : Keystore.stored phoneOnDisk = some [iphone] := by decide +kernel
  have hfailure : (exec .good (Keystore.loadPairings false) phoneOnDisk).1 =
      .error (.unsealing "unsealing pairings") := by decide +kernel
  have hresult : (exec .good (Keystore.upsertPairing false (some salt) ipad) phoneOnDisk).1 =
      .ok [ipad] := by decide +kernel
  refine ⟨hstored, fun h ↦ ?_⟩
  obtain ⟨failure, herror⟩ := (h.unread _ hfailure).1
  cases hresult.symm.trans herror

end AirClip
