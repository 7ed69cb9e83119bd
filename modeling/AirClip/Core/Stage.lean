import AirClip.Core.Protocol
import AirClip.Foundation.Utf8

/-!
# Staged clips

The computer keeps the last few local copies in memory so that the phone can pull them: a ring of
fixed depth, newest last inside and newest first on the wire.
-/

open Foundation

namespace AirClip

/-- Preview length in characters. -/
def previewChars : ℕ := 120

/-- A staged clip body plus its identity. -/
structure StagedClip where
  stageId : Octets 8
  contentType : ContentType
  body : Bytes
  copiedAtMs : UInt64
deriving DecidableEq

/-- What a staged list returns: enough to render a row without fetching bodies. -/
structure StageMeta where
  stageId : Octets 8
  contentType : ContentType
  preview : String
  size : UInt32
  copiedAtMs : UInt64
deriving DecidableEq

/-- The first characters of a body, newlines replaced so that they fit on one line. -/
def previewOf (body : Bytes) : String :=
  String.ofList (((fromUtf8Lossy body).toList.take previewChars).map
    fun c ↦ if c = '\n' ∨ c = '\r' then ' ' else c)

/-- Fixed-depth ring of staged clips, newest last; it never holds more than its depth. -/
structure StageRing where
  items : List StagedClip
  depth : ℕ
  depth_pos : 1 ≤ depth
  bounded : items.length ≤ depth

namespace StageRing

/-- The depth is clamped; that the capacity asked for, which is not, can be too large is left out. -/
def new (depth : ℕ) : StageRing := ⟨[], max depth 1, le_max_right _ _, Nat.zero_le _⟩

def default : StageRing := new stageDepth

/-- Oversize clips are rejected rather than truncated. -/
def pushWithId (ring : StageRing) (stageId : Octets 8) (contentType : ContentType) (body : Bytes)
    (nowMs : UInt64) : Except Error Unit × StageRing :=
  if maxTextClip < body.length then (.error (.frameTooLarge (UInt32.ofNat body.length)), ring)
  else
    let kept := if ring.items.length = ring.depth then ring.items.tail else ring.items
    (.ok (), { ring with
      items := kept ++ [⟨stageId, contentType, body, nowMs⟩]
      bounded := by
        have hpos := ring.depth_pos
        have hbound := ring.bounded
        simp only [kept, List.length_append, List.length_singleton]
        split_ifs
        · rw [List.length_tail]
          omega
        · omega })

/-- Stage a locally copied clip under a fresh random id. -/
def push (ring : StageRing) (contentType : ContentType) (body : Bytes) (nowMs : UInt64)
    (randomId : Option (Octets 8)) : Except Error (Octets 8) × StageRing :=
  if maxTextClip < body.length then (.error (.frameTooLarge (UInt32.ofNat body.length)), ring)
  else
    match randomId with
    | none => (.error .crypto, ring)
    | some stageId =>
      match ring.pushWithId stageId contentType body nowMs with
      | (.error failure, ring) => (.error failure, ring)
      | (.ok (), ring) => (.ok stageId, ring)

/-- Metadata for every staged clip, newest first. -/
def list (ring : StageRing) : List StageMeta :=
  ring.items.reverse.map fun clip ↦
    ⟨clip.stageId, clip.contentType, previewOf clip.body, UInt32.ofNat clip.body.length,
      clip.copiedAtMs⟩

def get (ring : StageRing) (stageId : Octets 8) : Option StagedClip :=
  ring.items.find? fun clip ↦ decide (clip.stageId = stageId)

/-- Most recently staged clip, if any. -/
def newest (ring : StageRing) : Option StagedClip := ring.items.getLast?

def clear (ring : StageRing) : StageRing := { ring with items := [], bounded := Nat.zero_le _ }

end StageRing

end AirClip
