import TtlockBle.Cipher
import TtlockBle.Requests
import TtlockBle.RoundTrip

/-!
# What is written is what was meant

A request goes through the cipher, the frame layout and the cut into chunks. The lock's way back leads to
the same request, unless its ciphertext is longer than the length byte can say: the byte wraps.
-/

open TtlockBle.Lib

namespace TtlockBle.Wire

open Cipher Program Requests

/-- A `lockVersion` of the long header, with fields that fit their bytes. -/
structure FitsHeader (v : LockVersion) : Prop where
  protocolType : 5 ≤ v.protocolType ∧ v.protocolType ≤ 255
  protocolVersion : 0 ≤ v.protocolVersion ∧ v.protocolVersion ≤ 255
  scene : 0 ≤ v.scene ∧ v.scene ≤ 255
  groupId : 0 ≤ v.groupId ∧ v.groupId ≤ 65535
  orgId : 0 ≤ v.orgId ∧ v.orgId ≤ 65535

/-- The chunks that are written for a request give one frame, which has the opcode and decrypts to the
payload. -/
def Meant (client : TTLockClient) (opcode : Int) (payload : Bytes) : Prop :=
  ∃ frame received, client.frame opcode payload = .ok frame ∧
    (FrameReassembler.new.feedAll (wireChunks frame.build)).1 = [received] ∧ received.command = opcode ∧
    aesDecrypt client.aes received.data client.aesKey = .ok payload

theorem wireChunks_flatten (wire : Bytes) : (wireChunks wire).flatten = wire := by
  unfold wireChunks
  rw [flatten_slices]
  apply List.take_of_length_le
  unfold bleWriteChunk
  omega

section Request

variable {client : TTLockClient} (hcipher : PaddedCipher client.aes client.aesKey) {opcode : Int}
  {payload : Bytes}

include hcipher

theorem cipher_length_le :
    (client.aes.encrypt client.aesKey payload).length ≤ 255 ↔ payload.length ≤ maxPayload := by
  rw [hcipher.length, maxPayload]
  omega

theorem meant_of_short (hversion : FitsHeader client.key.lockVersion) (hopcode : 0 ≤ opcode ∧ opcode ≤ 255)
    (hlength : payload.length ≤ maxPayload) : Meant client opcode payload := by
  generalize hframe :
    Frame.forLock client.key.lockVersion opcode (client.aes.encrypt client.aesKey payload) = frame
  have hencrypt : 0 ≤ encryptPlain ∧ encryptPlain ≤ 255 := by decide
  have hfits : RoundTrip.Fits frame := by
    rw [← hframe]
    exact ⟨hversion.protocolType, hversion.protocolVersion, hversion.scene, hversion.groupId, hversion.orgId,
      hopcode, hencrypt, (cipher_length_le hcipher).mpr hlength⟩
  have hflatten : (wireChunks frame.build).flatten = [] ++ ([frame].map Frame.build).flatten := by
    rw [wireChunks_flatten]
    simp
  have hfeed := RoundTrip.feed_build [] (by simp [header]) [frame] (by simp) (by simpa using hfits) _ hflatten
  refine ⟨frame, frame, hframe ▸ frame_eq _ _ _, by rw [hfeed], by rw [← hframe]; rfl, ?_⟩
  rw [aesDecrypt_eq_ok_iff hcipher, ← hframe]
  rfl

theorem not_meant_of_long (hlength : maxPayload < payload.length) : ¬ Meant client opcode payload := by
  rintro ⟨frame, received, -, hfeed, -, hdecrypt⟩
  have hreceived : received.data.length ≤ 255 := by
    apply Reassembler.feedAll_data_length FrameReassembler.new (wireChunks frame.build)
    rw [hfeed]
    exact List.mem_singleton_self _
  rw [← (aesDecrypt_eq_ok_iff hcipher _ _).mp hdecrypt, cipher_length_le hcipher] at hreceived
  omega

end Request

/-- **What is written is what was meant**, for every request that a command comes to, except for the
`add_passcode` with dates too long for one frame. -/
theorem written_as_meant_iff (client : TTLockClient) (hversion : FitsHeader client.key.lockVersion)
    (hcipher : PaddedCipher client.aes client.aesKey) (fuel : Nat) (command : Command)
    (es : List (Event ClientOp ClientOp.Answer PyExc)) (opcode : Int) (payload : Bytes)
    (next : Py Frame → ClientProgram Unit)
    (hrun : Runs (client.program fuel command) es (.call (.exchange opcode payload) next)) :
    Meant client opcode payload ↔ ¬ Oversized opcode command := by
  have hadmits : (monitor command).AdmitsAll none es := Monitor.admitsAll_of_forall (fun _ _ _ => trivial) none
  obtain ⟨⟨⟨hopcode, hlong⟩, -⟩, -⟩ := sat_run _ (watched_program fuel command) hrun hadmits
  rw [← hlong, Nat.not_lt]
  constructor
  · intro h
    by_contra hlength
    exact not_meant_of_long hcipher (Nat.lt_of_not_le hlength) h
  · exact meant_of_short hcipher hversion hopcode

/-! ## A passcode with a long start date -/

/-- 466 zeros. -/
def longDate : String := String.ofList (List.replicate 466 '0')

def longPayload : Bytes := [0x02, 0x01, 0x04, 0x31, 0x32, 0x33, 0x34] ++ List.replicate 233 0

/-- The replies to the handshake, a short request and a long one. -/
def wireTable : List (Bytes × Bytes) :=
  [([0x41, 0x01, 0x11, 0x22, 0x33, 0x44],
    [0xB2, 0xCB, 0x05, 0x3A, 0xDC, 0xFE, 0xA4, 0x7C, 0xFB, 0xA3, 0x17, 0xCC, 0x71, 0x89, 0xE9, 0xB7]),
    ([0x30, 0x01],
      [0xC5, 0xCF, 0xA9, 0x6F, 0xCB, 0x41, 0x77, 0xBA, 0x2D, 0xB1, 0xBD, 0xD3, 0x08, 0x19, 0x04, 0x3A]),
    (payloadQueryState,
      [0x70, 0xA3, 0x34, 0x71, 0x84, 0x7B, 0xCD, 0x96, 0xBC, 0x28, 0xA0, 0x1D, 0xF1, 0xCC, 0xF3, 0x18]),
    (longPayload,
      [0x3E, 0x22, 0xB7, 0xE3, 0xC6, 0x5E, 0x89, 0x28, 0x60, 0xA2, 0x9D, 0x86, 0x23, 0x4C, 0xE5, 0x29,
      0x53, 0x78, 0x9C, 0x3D, 0xBA, 0x4D, 0xE9, 0xFB, 0x44, 0x81, 0xF1, 0x63, 0x61, 0x4C, 0x64, 0x4B,
      0xA1, 0xE0, 0x44, 0xF2, 0x40, 0xA3, 0x2C, 0x14, 0x0F, 0x39, 0xD0, 0x8D, 0x26, 0x42, 0x7E, 0x3B,
      0x5B, 0x8F, 0xB2, 0xB9, 0x27, 0xF2, 0x7A, 0xEE, 0x4B, 0xA4, 0xD0, 0xC4, 0xBB, 0x3C, 0x4B, 0xF9,
      0x45, 0xD2, 0x6A, 0xE6, 0x35, 0x06, 0x5C, 0x23, 0xB2, 0xB4, 0xF9, 0xC9, 0xEE, 0x8E, 0x4E, 0x1D,
      0xE4, 0xCF, 0x7F, 0x58, 0xA5, 0x65, 0x23, 0x96, 0x97, 0xE0, 0xE7, 0x54, 0xBD, 0x14, 0xA3, 0x89,
      0x60, 0x8A, 0xDC, 0xBB, 0x1B, 0xBA, 0xA2, 0x5C, 0x54, 0xC2, 0x01, 0xD6, 0xC4, 0xE7, 0x44, 0x6E,
      0x7D, 0xF1, 0x03, 0x32, 0xF7, 0xB2, 0x5C, 0xF9, 0xE5, 0x7B, 0xF4, 0xCE, 0xBD, 0x18, 0x5C, 0x7B,
      0x6B, 0xAC, 0x0A, 0x02, 0xBB, 0xC1, 0x8E, 0x7D, 0x33, 0x7C, 0x74, 0x43, 0xD9, 0xE5, 0xBC, 0x5F,
      0x55, 0x8C, 0x53, 0xF8, 0x1D, 0x6B, 0x1A, 0x78, 0x13, 0x9F, 0x55, 0x64, 0xA4, 0x68, 0x53, 0x03,
      0x0D, 0xD4, 0xEE, 0x68, 0xDD, 0x22, 0x08, 0x44, 0xD4, 0x53, 0x53, 0x15, 0xF3, 0x21, 0x8B, 0xFE,
      0xBA, 0x3A, 0x1B, 0x28, 0x20, 0x72, 0xAB, 0xD1, 0xEE, 0x16, 0xB9, 0xD7, 0x45, 0x22, 0x02, 0x20,
      0xA3, 0x85, 0x9E, 0x61, 0x0B, 0xA5, 0x64, 0xC3, 0x84, 0xD6, 0xC8, 0xE7, 0x90, 0x86, 0xC6, 0xD7,
      0xEC, 0xF2, 0x7D, 0xF7, 0x35, 0x7A, 0x45, 0x77, 0x1A, 0x27, 0x86, 0x8A, 0x75, 0xE7, 0x4B, 0x6A,
      0xA9, 0x86, 0x30, 0x72, 0x5B, 0xB2, 0xF8, 0x46, 0xB9, 0x60, 0xC1, 0xAB, 0xC6, 0xA5, 0xB5, 0xE0,
      0x83, 0x50, 0xF3, 0xF0, 0x9A, 0xFA, 0x6C, 0x1E, 0x50, 0x83, 0x08, 0x52, 0xAC, 0xE1, 0x65, 0xDF])]

def wireClient : TTLockClient := { makeClient [] with aes := swapAes wireTable }

def wireReply (i : Nat) : Frame := lockFrame (wireTable.getD i ([], [])).2

theorem paddedCipher_wireClient : PaddedCipher wireClient.aes wireClient.aesKey := by
  apply paddedCipher_swapAes
  decide +kernel

theorem fitsHeader_makeVirtualKey : FitsHeader makeVirtualKey.lockVersion := by
  constructor <;> decide

theorem decimalTimeBytes_zeros (n : Nat) :
    decimalTimeBytes (String.ofList (List.replicate (n * 2) '0')) = .ok (List.replicate n 0) := by
  have hpair : (twoDigits 0).toList = List.replicate 2 '0' := rfl
  have h := Payloads.decimalTimeBytes_twoDigits (List.replicate n 0)
  rw [List.flatMap_def, List.map_replicate, hpair, List.flatten_replicate_replicate, List.map_replicate] at h
  exact h

theorem payloadPasscodeAdd_long :
    payloadPasscodeAdd KeyboardPwdType.permanent.toInt "1234" longDate defaultEndDate = .ok longPayload := by
  have hdate : decimalTimeBytes longDate = .ok (List.replicate 233 0) := decimalTimeBytes_zeros 233
  unfold payloadPasscodeAdd
  rw [hdate]
  rfl

def longRun : List (Event ClientOp ClientOp.Answer PyExc) :=
  [⟨.acquire, .ok ()⟩,
    ⟨.exchange cmdCheckAdmin [0x08, 0x18, 0x07, 0x54, 0, 0, 0, 0, 0, 0, 0], .ok (wireReply 0)⟩,
    ⟨.exchange cmdCheckRandom [0x1F, 0xD8, 0x46, 0xCF], .ok (wireReply 1)⟩]

theorem runs_long :
    ∃ next, Runs (wireClient.program 0 (.addPasscode "1234" .permanent longDate defaultEndDate)) longRun
      (.call (.exchange cmdManageKeyboardPassword longPayload) next) := by
  unfold TTLockClient.program TTLockClient.addPasscode
  simp only [payloadPasscodeAdd_long]
  exact ⟨_, .call (.call (.call (.done _)))⟩

/-- The length byte of the frame is 0, and the passcode is lost. -/
theorem long_not_meant :
    (∃ next, Runs (wireClient.program 0 (.addPasscode "1234" .permanent longDate defaultEndDate)) longRun
      (.call (.exchange cmdManageKeyboardPassword longPayload) next)) ∧
    FitsHeader wireClient.key.lockVersion ∧ PaddedCipher wireClient.aes wireClient.aesKey ∧
    ¬ Meant wireClient cmdManageKeyboardPassword longPayload :=
  ⟨runs_long, fitsHeader_makeVirtualKey, paddedCipher_wireClient,
    not_meant_of_long paddedCipher_wireClient (by decide +kernel)⟩

theorem written_as_meant_iff_queryState :
    Meant wireClient cmdQueryState payloadQueryState ↔ ¬ Oversized cmdQueryState .queryState :=
  written_as_meant_iff wireClient fitsHeader_makeVirtualKey paddedCipher_wireClient 0 .queryState
    [⟨.acquire, .ok ()⟩] cmdQueryState payloadQueryState _ (.call (.done _))

end TtlockBle.Wire
