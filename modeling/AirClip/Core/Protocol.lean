import AirClip.Foundation.Bytes

/-!
# Protocol constants and small types

The constants of the wire protocol, the error type shared by every layer, the two roles, device
ids and the clipboard content types.
-/

open Foundation

namespace AirClip

def protocolVersion : UInt8 := 1

def maxFrameLen : UInt32 := 1048576

def maxTextClip : ℕ := 262144

def stageDepth : ℕ := 5

/-- Failures of the core.  `Crypto` is deliberately unspecific: it never tells which check failed. -/
inductive Error where
  | badMagic
  | frameTooLarge (len : UInt32)
  | unknownFrameType (byte : UInt8)
  | unknownContentType (byte : UInt8)
  | cbor (message : String)
  | crypto
deriving DecidableEq, Repr

/-- Wire error codes. -/
inductive WireErrorCode where
  | unsupportedVersion
  | notPaired
  | badToken
  | frameTooLarge
  | rateLimited
  | internal
deriving DecidableEq, Repr

def WireErrorCode.toUInt16 : WireErrorCode → UInt16
  | .unsupportedVersion => 1
  | .notPaired => 2
  | .badToken => 3
  | .frameTooLarge => 4
  | .rateLimited => 5
  | .internal => 6

/-- Which end of the protocol an instance plays: the phone dials, the PC listens and stages. -/
inductive Role where
  | phone
  | pc
deriving DecidableEq, Repr

/-- Truncated hash of an identity public key. -/
@[ext]
structure DeviceId where
  bytes : Octets 16
deriving DecidableEq

/-- Clipboard content type on the wire; 3 to 9 are reserved. -/
inductive ContentType where
  | text
  | url
deriving DecidableEq, Repr

namespace ContentType

def toUInt8 : ContentType → UInt8
  | .text => 1
  | .url => 2

def tryFrom (byte : UInt8) : Except Error ContentType :=
  if byte = 1 then .ok .text
  else if byte = 2 then .ok .url
  else .error (.unknownContentType byte)

@[simp]
theorem tryFrom_toUInt8 (ty : ContentType) : tryFrom ty.toUInt8 = .ok ty := by
  cases ty <;> rfl

end ContentType

end AirClip
