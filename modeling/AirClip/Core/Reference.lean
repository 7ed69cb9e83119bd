import AirClip.Core.Session
import AirClip.Core.Pairing

/-!
# Reference instances

Small executable instances of the parameters, on which statements about all of them can be run.
Diffie-Hellman is multiplication of residues modulo `2 ^ 255 - 19` with base point 9, the AEAD spells
out its key, nonce and associated data in front of the message, the MAC adds its key to the message,
and the hashes keep the first bytes of their input.  CBOR is the shortest-form codec of
`Foundation.Cbor`, and the text codecs are those of `Foundation.TextEncoding`; of URLs only scheme,
host and query are told apart.
-/

open Foundation Cbor

namespace AirClip.Reference

/-- The first `n` bytes, filled up with zeros. -/
def pad (n : ℕ) (bytes : Bytes) : Octets n := ⟨(bytes ++ List.replicate n 0).take n, by simp⟩

def fieldPrime : ℕ := 2 ^ 255 - 19

def scale (scalar point : Key32) : Key32 :=
  ⟨leBytes 32 (leNat scalar.toList * leNat point.toList % fieldPrime), length_leBytes _ _⟩

def basePoint : Key32 := pad 32 [9]

def aeadHeader (key : Key32) (nonce : Octets 12) (aad : Bytes) : Bytes :=
  key.toList ++ nonce.toList ++ aad

scoped instance primitives : Primitives where
  x25519Base secret := scale secret basePoint
  x25519 := scale
  blake3 message := pad 32 message
  blake3Keyed key message := ⟨leBytes 32 (leNat key.toList + leNat message), length_leBytes _ _⟩
  hkdfSha256 salt ikm info len := pad len (info ++ ikm ++ salt)
  aeadEncrypt key nonce message aad := some (aeadHeader key nonce aad ++ message)
  aeadDecrypt key nonce ciphertext aad :=
    if ciphertext.take (aeadHeader key nonce aad).length = aeadHeader key nonce aad then
      some (ciphertext.drop (aeadHeader key nonce aad).length)
    else none

theorem toList_scale (scalar point : Key32) : (scale scalar point).toList =
    leBytes 32 (leNat scalar.toList * leNat point.toList % fieldPrime) := rfl

theorem leNat_scale (scalar point : Key32) :
    leNat (scale scalar point).toList = leNat scalar.toList * leNat point.toList % fieldPrime := by
  rw [toList_scale]
  exact leNat_leBytes ((Nat.mod_lt _ (by decide)).trans (by decide))

/-- Scaling by one secret and then by another does not depend on their order. -/
scoped instance x25519Commutes : X25519Commutes where
  comm left right := by
    change scale left (scale right basePoint) = scale right (scale left basePoint)
    apply Octets.toList_inj.mp
    rw [toList_scale left (scale right basePoint), toList_scale right (scale left basePoint),
      leNat_scale, leNat_scale, Nat.mul_mod_mod, Nat.mul_mod_mod, Nat.mul_left_comm]

scoped instance aeadCorrect : AeadCorrect where
  decrypt_encrypt h := by
    cases h
    change (if _ then _ else _) = _
    rw [if_pos (List.take_left' rfl), List.drop_left' rfl]

scoped instance ciborium : Ciborium where
  intoWriter value := .ok (encode value)
  fromReader bytes :=
    match decode 8 bytes with
    | some value => .ok value
    | none => .error "malformed CBOR"

scoped instance ciboriumLawful : Ciborium.Lawful where
  intoWriter_plain _ := rfl
  fromReader_encode {value} hplain := by
    change (match decode 8 (encode value) with | some _ => _ | none => _) = _
    rw [decode_encode hplain]

def urlParse (text : String) : Except String Url :=
  match text.toList.dropWhile (· ≠ ':') with
  | ':' :: '/' :: '/' :: rest =>
    let host := rest.takeWhile (· ≠ '?')
    .ok { scheme := String.ofList (text.toList.takeWhile (· ≠ ':'))
          hostStr := if host = [] then none else some (String.ofList host)
          query := (rest.dropWhile (· ≠ '?')).tail?.map String.ofList }
  | _ => .error "relative URL without a base"

scoped instance textCodecs : TextCodecs where
  hexDecode text :=
    match hexDecode (utf8 text) with
    | some bytes => .ok bytes
    | none => .error "invalid hex"
  base64Encode bytes := latin1 (base64Encode bytes)
  base64Decode text :=
    match base64Decode (utf8 text) with
    | some bytes => .ok bytes
    | none => .error "invalid base64"
  urlParse := urlParse

theorem utf8_latin1_unreserved {bytes : Bytes} (h : ∀ byte ∈ bytes, isUnreserved byte) :
    utf8 (latin1 bytes) = bytes :=
  utf8_latin1 fun byte hmem ↦ (isUnreserved_ascii (h byte hmem)).1

scoped instance textCodecsLawful : TextCodecs.Lawful where
  hexDecode_hexEncode bytes := by
    change (match hexDecode (utf8 (latin1 (hexEncode bytes))) with | some _ => _ | none => _) = _
    rw [utf8_latin1_unreserved (hexEncode_unreserved bytes), hexDecode_hexEncode]
  base64Decode_base64Encode bytes := by
    change (match base64Decode (utf8 (latin1 (base64Encode bytes))) with
      | some _ => _ | none => _) = _
    rw [utf8_latin1_unreserved (base64Encode_unreserved bytes), base64Decode_base64Encode]
  base64Encode_unreserved bytes := by
    change ∀ byte ∈ utf8 (latin1 (base64Encode bytes)), _
    rw [utf8_latin1_unreserved (base64Encode_unreserved bytes)]
    exact base64Encode_unreserved bytes
  urlParse_query query _ := by
    have hchars : ("airclip://pair?" ++ query).toList = ['a', 'i', 'r', 'c', 'l', 'i', 'p', ':', '/',
        '/', 'p', 'a', 'i', 'r', '?'] ++ query.toList := by
      rw [String.toList_append]
      rfl
    change urlParse _ = _
    rw [urlParse, hchars]
    simp

/-! ## Two devices -/

def phoneIdentity : IdentityKeypair := .fromSeed (pad 32 [3])

def pcIdentity : IdentityKeypair := .fromSeed (pad 32 [5])

def phonePeer : PeerKey := ⟨phoneIdentity.deviceId, phoneIdentity.publicBytes⟩

def pcPeer : PeerKey := ⟨pcIdentity.deviceId, pcIdentity.publicBytes⟩

end AirClip.Reference
