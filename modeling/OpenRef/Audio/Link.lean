import OpenRef.Base
/-!
# The audio link frame (openref_audio_link.h)

One frame carries 20 ms of coded audio as two 40-byte codec frames, each with its
own validity flag.
-/

namespace OpenRef.Audio

/-- `OPENREF_AUDIO_LINK_PAYLOAD_BYTES`. -/
def linkPayloadBytes : Nat := 80

/-- `OPENREF_AUDIO_LINK_LOCAL_AUDIO`. -/
def linkLocalAudio : U8 := 1
/-- `OPENREF_AUDIO_LINK_REMOTE_AUDIO`. -/
def linkRemoteAudio : U8 := 2
/-- `OPENREF_AUDIO_LINK_STATUS`. -/
def linkStatus : U8 := 3

/-- `OPENREF_AUDIO_LINK_FLAG_FRAME_0_VALID`. -/
def linkFlagFrame0Valid : U8 := 0x01
/-- `OPENREF_AUDIO_LINK_FLAG_FRAME_1_VALID`. -/
def linkFlagFrame1Valid : U8 := 0x02
/-- `OPENREF_AUDIO_LINK_FLAG_DISCONTINUITY`. -/
def linkFlagDiscontinuity : U8 := 0x04

/-- `openref_audio_link_frame_t`. -/
structure AudioLinkFrame where
  kind : U8
  sourceId : U8
  flags : U8
  sequence : U16
  timestampUs : U32
  producerQueueDepth : U8
  payload : Bytes linkPayloadBytes
deriving DecidableEq, Repr

end OpenRef.Audio
