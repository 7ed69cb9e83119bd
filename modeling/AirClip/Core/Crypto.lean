import AirClip.Core.Frame

/-!
# Cryptography

The primitives are those of the `x25519-dalek`, `blake3`, `hkdf` and `chacha20poly1305` crates and
stay parameters; what the proofs rely on is stated as a law where it is needed.  On top of them
stand key pairs, device ids, the keyed MAC, the session key derivation, the AEAD channel with its
two counters, and the short authentication string.
-/

open Foundation

namespace AirClip

abbrev Key32 := Octets 32

/-- The functions the cryptographic crates provide. -/
class Primitives where
  /-- `PublicKey::from(&StaticSecret)`. -/
  x25519Base : Key32 → Key32
  /-- `StaticSecret::diffie_hellman`. -/
  x25519 : Key32 → Key32 → Key32
  blake3 : Bytes → Key32
  blake3Keyed : Key32 → Bytes → Key32
  /-- HKDF-SHA256 output for salt, input key material and info. -/
  hkdfSha256 : Bytes → Bytes → Bytes → (len : ℕ) → Octets len
  /-- ChaCha20-Poly1305 encryption under key, nonce, message and associated data. -/
  aeadEncrypt : Key32 → Octets 12 → Bytes → Bytes → Option Bytes
  aeadDecrypt : Key32 → Octets 12 → Bytes → Bytes → Option Bytes

/-- Both ends of a Diffie-Hellman exchange compute the same secret. -/
class X25519Commutes [Primitives] : Prop where
  comm : ∀ left right : Key32, Primitives.x25519 left (Primitives.x25519Base right) =
    Primitives.x25519 right (Primitives.x25519Base left)

/-- A ciphertext opens to the message that was encrypted. -/
class AeadCorrect [Primitives] : Prop where
  decrypt_encrypt : ∀ {key nonce message aad ciphertext},
    Primitives.aeadEncrypt key nonce message aad = some ciphertext →
      Primitives.aeadDecrypt key nonce ciphertext aad = some message

variable [Primitives]

/-! ## Key pairs -/

/-- A secret scalar with the public key that belongs to it. -/
structure Keypair where
  secret : Key32
  publicBytes : Key32
  publicBytes_eq : publicBytes = Primitives.x25519Base secret
deriving DecidableEq

/-- Long-term device identity. -/
abbrev IdentityKeypair := Keypair

/-- Session-scoped ephemeral. -/
abbrev EphemeralKeypair := Keypair

namespace Keypair

def fromSeed (seed : Key32) : Keypair := ⟨seed, Primitives.x25519Base seed, rfl⟩

/-- The seed comes from the system's random source, which may fail. -/
def generate (seed : Option Key32) : Except Error Keypair :=
  match seed with
  | none => .error .crypto
  | some seed => .ok (fromSeed seed)

def dh (pair : Keypair) (peerPk : Key32) : Key32 := Primitives.x25519 pair.secret peerPk

theorem dh_comm [X25519Commutes] (left right : Keypair) :
    left.dh right.publicBytes = right.dh left.publicBytes := by
  rw [dh, dh, left.publicBytes_eq, right.publicBytes_eq, X25519Commutes.comm]

end Keypair

/-- The first 16 bytes of the hash of the identity public key. -/
def deviceIdFromPk (pk : Key32) : DeviceId :=
  ⟨Octets.truncate 16 (by decide) (Primitives.blake3 pk.toList)⟩

def Keypair.deviceId (identity : IdentityKeypair) : DeviceId := deviceIdFromPk identity.publicBytes

/-! ## Keyed MAC -/

def keyedMac (key : Key32) (msg : Bytes) : Key32 := Primitives.blake3Keyed key msg

def verifyMac (key : Key32) (msg tag : Bytes) : Bool :=
  match Octets.ofBytes? 32 tag with
  | none => false
  | some tag => decide (Primitives.blake3Keyed key msg = tag)

@[simp]
theorem verifyMac_toList (key tag : Key32) (msg : Bytes) :
    verifyMac key msg tag.toList = decide (keyedMac key msg = tag) := by
  rw [verifyMac, Octets.ofBytes?_toList]
  rfl

/-! ## Session keys -/

/-- Directional session keys: phone to computer and computer to phone. -/
structure SessionKeys where
  p2c : Key32
  c2p : Key32
deriving DecidableEq

/-- `b"airclip-v1"`. -/
def kdfSaltPrefix : Bytes := [0x61, 0x69, 0x72, 0x63, 0x6C, 0x69, 0x70, 0x2D, 0x76, 0x31]

/-- `Hkdf::expand` refuses more than 255 hash lengths of output. -/
def hkdfExpand (salt ikm info : Bytes) (len : ℕ) : Except Error (Octets len) :=
  if 255 * 32 < len then .error .crypto else .ok (Primitives.hkdfSha256 salt ikm info len)

def deriveSessionKeys (ssEe ssSi ssStatic : Key32) (deviceIdPhone deviceIdPc : DeviceId) :
    Except Error SessionKeys :=
  let ikm := ssEe.toList ++ ssSi.toList ++ ssStatic.toList
  let salt := kdfSaltPrefix ++ deviceIdPhone.bytes.toList ++ deviceIdPc.bytes.toList
  match hkdfExpand salt ikm [0x70, 0x32, 0x63] 32 with
  | .error failure => .error failure
  | .ok p2c =>
    match hkdfExpand salt ikm [0x63, 0x32, 0x70] 32 with
    | .error failure => .error failure
    | .ok c2p => .ok ⟨p2c, c2p⟩

/-- The keys `deriveSessionKeys` returns; it never fails at this output length. -/
def sessionKeys (ssEe ssSi ssStatic : Key32) (deviceIdPhone deviceIdPc : DeviceId) : SessionKeys :=
  let ikm := ssEe.toList ++ ssSi.toList ++ ssStatic.toList
  let salt := kdfSaltPrefix ++ deviceIdPhone.bytes.toList ++ deviceIdPc.bytes.toList
  ⟨Primitives.hkdfSha256 salt ikm [0x70, 0x32, 0x63] 32,
    Primitives.hkdfSha256 salt ikm [0x63, 0x32, 0x70] 32⟩

theorem deriveSessionKeys_eq (ssEe ssSi ssStatic : Key32) (deviceIdPhone deviceIdPc : DeviceId) :
    deriveSessionKeys ssEe ssSi ssStatic deviceIdPhone deviceIdPc =
      .ok (sessionKeys ssEe ssSi ssStatic deviceIdPhone deviceIdPc) := rfl

/-! ## AEAD channel -/

/-- One direction of the channel: a key and its counter, which is the next counter to use for the
sender and the highest counter accepted so far for the receiver. -/
structure Direction where
  key : Key32
  ctr : UInt64
  seenAny : Bool
deriving DecidableEq

/-- Encrypted channel over a frame stream. -/
structure AeadChannel where
  tx : Direction
  rx : Direction
deriving DecidableEq

namespace AeadChannel

def new (txKey rxKey : Key32) : AeadChannel := ⟨⟨txKey, 0, false⟩, ⟨rxKey, 0, false⟩⟩

/-- Four zero bytes, then the counter. -/
def nonceFor (ctr : UInt64) : Octets 12 := ⟨[0, 0, 0, 0] ++ le64 ctr, by simp⟩

def aadFor (ty : FrameType) : Bytes := [ty.toUInt8, protocolVersion]

/-- `u64::checked_add(1)`. -/
def checkedSucc (ctr : UInt64) : Option UInt64 :=
  if ctr.toNat + 1 < 2 ^ 64 then some (ctr + 1) else none

omit [Primitives] in
theorem toNat_succ {ctr : UInt64} (h : ctr.toNat + 1 < 2 ^ 64) :
    (ctr + 1).toNat = ctr.toNat + 1 := by
  rw [UInt64.toNat_add]
  exact Nat.mod_eq_of_lt h

/-- Encrypt `plaintext` for frame type `ty`.  When the counter is exhausted the ciphertext is
dropped and the counter stays where it is. -/
def sealPayload (channel : AeadChannel) (ty : FrameType) (plaintext : Bytes) :
    Except Error Bytes × AeadChannel :=
  let ctr := channel.tx.ctr
  match Primitives.aeadEncrypt channel.tx.key (nonceFor ctr) plaintext (aadFor ty) with
  | none => (.error .crypto, channel)
  | some ct =>
    match checkedSucc ctr with
    | none => (.error .crypto, channel)
    | some next => (.ok (le64 ctr ++ ct), { channel with tx := { channel.tx with ctr := next } })

/-- Decrypt a payload, enforcing strictly increasing counters.  The counter advances only after
authentication has succeeded. -/
def openPayload (channel : AeadChannel) (ty : FrameType) (payload : Bytes) :
    Except Error Bytes × AeadChannel :=
  if payload.length < 8 then (.error .crypto, channel)
  else
    let ctr := ofLe64 (payload.take 8)
    if channel.rx.seenAny && decide (ctr ≤ channel.rx.ctr) then (.error .crypto, channel)
    else
      match Primitives.aeadDecrypt channel.rx.key (nonceFor ctr) (payload.drop 8) (aadFor ty) with
      | none => (.error .crypto, channel)
      | some pt =>
        (.ok pt, { channel with rx := { channel.rx with ctr := ctr, seenAny := true } })

/-- Sealing either fails and leaves the channel alone, or uses the current counter and moves to the
next one. -/
theorem sealPayload_cases (channel : AeadChannel) (ty : FrameType) (plaintext : Bytes) :
    (∃ failure, channel.sealPayload ty plaintext = (.error failure, channel)) ∨
    ∃ ct, Primitives.aeadEncrypt channel.tx.key (nonceFor channel.tx.ctr) plaintext (aadFor ty) =
        some ct ∧ channel.tx.ctr.toNat + 1 < 2 ^ 64 ∧
      channel.sealPayload ty plaintext = (.ok (le64 channel.tx.ctr ++ ct),
        { channel with tx := { channel.tx with ctr := channel.tx.ctr + 1 } }) := by
  unfold sealPayload checkedSucc
  match hseal : Primitives.aeadEncrypt channel.tx.key (nonceFor channel.tx.ctr) plaintext
    (aadFor ty) with
  | none => exact .inl ⟨.crypto, by simp only [hseal]⟩
  | some ct =>
    by_cases hctr : channel.tx.ctr.toNat + 1 < 2 ^ 64
    · exact .inr ⟨ct, rfl, hctr, by simp only [hseal, if_pos hctr]⟩
    · exact .inl ⟨.crypto, by simp only [hseal, if_neg hctr]⟩

/-- A sealed payload is the current counter before the ciphertext, and the counter moves on. -/
theorem sealPayload_eq_ok {channel channel' : AeadChannel} {ty : FrameType}
    {plaintext payload : Bytes}
    (h : channel.sealPayload ty plaintext = (.ok payload, channel')) :
    ∃ ct, Primitives.aeadEncrypt channel.tx.key (nonceFor channel.tx.ctr) plaintext (aadFor ty) =
        some ct ∧ channel.tx.ctr.toNat + 1 < 2 ^ 64 ∧ payload = le64 channel.tx.ctr ++ ct ∧
      channel' = { channel with tx := { channel.tx with ctr := channel.tx.ctr + 1 } } := by
  obtain ⟨failure, hfail⟩ | ⟨ct, hencrypt, hctr, hok⟩ := channel.sealPayload_cases ty plaintext
  · rw [hfail] at h
    cases h
  · rw [hok] at h
    cases h
    exact ⟨ct, hencrypt, hctr, rfl, rfl⟩

/-- Opening either fails and leaves the channel alone, or the ciphertext decrypts under a counter
above every accepted one, which then becomes the highest. -/
theorem openPayload_cases (channel : AeadChannel) (ty : FrameType) (payload : Bytes) :
    (∃ failure, channel.openPayload ty payload = (.error failure, channel)) ∨
    ∃ plain, 8 ≤ payload.length ∧
      (channel.rx.seenAny = true → channel.rx.ctr < ofLe64 (payload.take 8)) ∧
      Primitives.aeadDecrypt channel.rx.key (nonceFor (ofLe64 (payload.take 8))) (payload.drop 8)
        (aadFor ty) = some plain ∧
      channel.openPayload ty payload = (.ok plain,
        { channel with rx :=
          { channel.rx with ctr := ofLe64 (payload.take 8), seenAny := true } }) := by
  unfold openPayload
  by_cases hlen : payload.length < 8
  · exact .inl ⟨_, if_pos hlen⟩
  rw [if_neg hlen]
  dsimp only
  by_cases hseen : channel.rx.seenAny && decide (ofLe64 (payload.take 8) ≤ channel.rx.ctr)
  · exact .inl ⟨_, if_pos hseen⟩
  rw [if_neg hseen]
  match hopen : Primitives.aeadDecrypt channel.rx.key (nonceFor (ofLe64 (payload.take 8)))
    (payload.drop 8) (aadFor ty) with
  | none => exact .inl ⟨_, rfl⟩
  | some plain =>
    refine .inr ⟨plain, not_lt.mp hlen, fun hany ↦ ?_, rfl, rfl⟩
    rw [hany, Bool.true_and, decide_eq_true_eq] at hseen
    exact UInt64.not_le.mp hseen

/-- An opened payload decrypts under a counter above every accepted one, and only the receiving side
moves on. -/
theorem openPayload_eq_ok {channel channel' : AeadChannel} {ty : FrameType} {payload plain : Bytes}
    (h : channel.openPayload ty payload = (.ok plain, channel')) :
    8 ≤ payload.length ∧
      (channel.rx.seenAny = true → channel.rx.ctr < ofLe64 (payload.take 8)) ∧
      Primitives.aeadDecrypt channel.rx.key (nonceFor (ofLe64 (payload.take 8))) (payload.drop 8)
        (aadFor ty) = some plain ∧
      channel' = { channel with rx :=
        { channel.rx with ctr := ofLe64 (payload.take 8), seenAny := true } } := by
  obtain ⟨failure, hfail⟩ | ⟨plain', hlength, hfresh, hdecrypt, hok⟩ :=
    channel.openPayload_cases ty payload
  · rw [hfail] at h
    cases h
  · rw [hok] at h
    cases h
    exact ⟨hlength, hfresh, hdecrypt, rfl⟩

end AeadChannel

/-! ## Short authentication string -/

/-- Shared ephemeral secret, both identity keys and the pair token, in this order. -/
def sasInput (ssEph pkIdPhone pkIdPc : Key32) (pairToken : Octets 16) : Bytes :=
  ssEph.toList ++ pkIdPhone.toList ++ pkIdPc.toList ++ pairToken.toList

/-- The first four bytes of the hash, read big-endian. -/
def sasDigest (input : Bytes) : UInt32 :=
  UInt32.ofNat (beNat ((Primitives.blake3 input).toList.take 4))

/-- The emoji table; its order is part of the protocol. -/
def sasEmojiTable : List.Vector String 64 :=
  ⟨["🐶", "🐱", "🐭", "🐹", "🐰", "🦊", "🐻", "🐼", "🐨", "🐯", "🦁", "🐮", "🐷", "🐸", "🐵", "🐔",
    "🍎", "🍊", "🍋", "🍌", "🍉", "🍇", "🍓", "🍒", "🍑", "🥝", "🍍", "🥥", "🥑", "🍅", "🌽", "🥕",
    "⚽", "🏀", "🏈", "⚾", "🎾", "🏐", "🎱", "🏓", "🥁", "🎸", "🎺", "🎻", "🎨", "🎯", "🎲", "🎳",
    "🚗", "🚕", "🚙", "🚌", "🚑", "🚓", "🚚", "🚲", "🛵", "🚀", "🚁", "⛵", "🚂", "🚜", "🛴", "🚤"],
    rfl⟩

/-- Six bits for each of the four emoji, high bits first. -/
def sasEmoji (digest : UInt32) : List.Vector String 4 :=
  let emoji (shift : ℕ) : String := sasEmojiTable.get (Fin.ofNat 64 (digest.toNat >>> shift))
  ⟨[emoji 26, emoji 20, emoji 14, emoji 8], rfl⟩

example : (sasEmoji 0xDEADBEEF).toList = ["🚲", "🎺", "🚚", "🛴"] := by decide

omit [Primitives] in
theorem sasInput_length (ssEph pkIdPhone pkIdPc : Key32) (pairToken : Octets 16) :
    (sasInput ssEph pkIdPhone pkIdPc pairToken).length = 112 := by
  simp [sasInput]

omit [Primitives] in
/-- The SAS input determines the secret, both identity keys and the token. -/
theorem sasInput_inj {ssEph ssEph' pkIdPhone pkIdPhone' pkIdPc pkIdPc' : Key32}
    {pairToken pairToken' : Octets 16}
    (h : sasInput ssEph pkIdPhone pkIdPc pairToken = sasInput ssEph' pkIdPhone' pkIdPc' pairToken') :
    ssEph = ssEph' ∧ pkIdPhone = pkIdPhone' ∧ pkIdPc = pkIdPc' ∧ pairToken = pairToken' := by
  unfold sasInput at h
  obtain ⟨h, htoken⟩ := List.append_inj h (by simp)
  obtain ⟨h, hpc⟩ := List.append_inj h (by simp)
  obtain ⟨hss, hphone⟩ := List.append_inj h (by simp)
  exact ⟨Octets.toList_inj.mp hss, Octets.toList_inj.mp hphone, Octets.toList_inj.mp hpc,
    Octets.toList_inj.mp htoken⟩

end AirClip
