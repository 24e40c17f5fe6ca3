import Mathlib.Tactic.SplitIfs
import TtlockBle.Code.Frame

/-! # `protocol/reassembler.py` -/

open TtlockBle.Lib

namespace TtlockBle

/-- The oldest protocol with the long header. -/
def minProtocolType : UInt8 := 5

/-- `_declared_frame_len`: the wire length of the frame at the head of `buf`, once it is known. -/
def declaredFrameLen (buf : Bytes) : Option Nat :=
  buf[v3LengthIndex]?.map fun length => v3HeaderLen + length.toNat + crcLen + trailer.length

/-- How one turn of the loop in `feed` ends: `break`, or `continue` with the frames it appended. -/
inductive Turn where
  | stop (buf : Bytes)
  | next (out : List Frame) (buf : Bytes)

def headerTurn (buf : Bytes) : Turn :=
  if ∃ proto ∈ buf[2]?, proto < minProtocolType then
    -- A mis-sync, not a frame.
    .next [] (buf.drop header.length)
  else
    match declaredFrameLen buf with
    | none => .stop buf
    | some size =>
      if buf.length < size then .stop buf
      else if slice buf (size - trailer.length) size ≠ trailer then
        -- The header was ciphertext.
        .next [] (buf.drop header.length)
      else
        match Frame.parse (buf.take (size - trailer.length)) with
        | .ok frame => .next [frame] (buf.drop size)
        | .error _ => .next [] (buf.drop size)

/-- One turn of the loop. Without a header only the tail byte is kept: a header can straddle two
notifications. -/
def turn (buf : Bytes) : Turn :=
  match find header buf with
  | none => .stop (buf.drop (buf.length - 1))
  | some start => headerTurn (buf.drop start)

theorem declaredFrameLen_eq_some (buf : Bytes) (size : Nat) :
    declaredFrameLen buf = some size ↔
      ∃ length, buf[v3LengthIndex]? = some length ∧ 15 + length.toNat = size := by
  unfold declaredFrameLen
  rw [Option.map_eq_some_iff]
  refine exists_congr fun length => and_congr_right fun _ => ?_
  simp only [v3HeaderLen, crcLen, trailer_length]
  omega

theorem declaredFrameLen_bounds (buf : Bytes) (size : Nat) (h : declaredFrameLen buf = some size) :
    15 ≤ size ∧ size ≤ 270 := by
  obtain ⟨length, -, rfl⟩ := (declaredFrameLen_eq_some _ _).mp h
  have := length.toNat_lt
  omega

section HeaderTurn

variable {buf : Bytes} {size : Nat}

theorem headerTurn_old (hproto : ∃ proto ∈ buf[2]?, proto < minProtocolType) :
    headerTurn buf = .next [] (buf.drop header.length) := if_pos hproto

variable (hproto : ¬ ∃ proto ∈ buf[2]?, proto < minProtocolType)
include hproto

theorem headerTurn_unknown (hsize : declaredFrameLen buf = none) : headerTurn buf = .stop buf := by
  unfold headerTurn
  rw [if_neg hproto, hsize]

variable (hsize : declaredFrameLen buf = some size)
include hsize

theorem headerTurn_short (hlen : buf.length < size) : headerTurn buf = .stop buf := by
  unfold headerTurn
  rw [if_neg hproto, hsize]
  exact if_pos hlen

theorem headerTurn_noTrailer (hlen : size ≤ buf.length)
    (htrailer : slice buf (size - trailer.length) size ≠ trailer) :
    headerTurn buf = .next [] (buf.drop header.length) := by
  unfold headerTurn
  rw [if_neg hproto, hsize]
  simp only
  rw [if_neg (by omega), if_pos htrailer]

theorem headerTurn_whole (hlen : size ≤ buf.length)
    (htrailer : slice buf (size - trailer.length) size = trailer) :
    headerTurn buf =
      .next (Frame.parse (buf.take (size - trailer.length))).toOption.toList (buf.drop size) := by
  unfold headerTurn
  rw [if_neg hproto, hsize]
  simp only
  rw [if_neg (by omega), if_neg (not_not_intro htrailer)]
  cases Frame.parse (buf.take (size - trailer.length)) <;> rfl

end HeaderTurn

theorem headerTurn_cases (buf : Bytes) :
    headerTurn buf = .stop buf ∨ headerTurn buf = .next [] (buf.drop header.length) ∨
      ∃ size out, declaredFrameLen buf = some size ∧ headerTurn buf = .next out (buf.drop size) := by
  by_cases hproto : ∃ proto ∈ buf[2]?, proto < minProtocolType
  · exact .inr (.inl (headerTurn_old hproto))
  cases hsize : declaredFrameLen buf with
  | none => exact .inl (headerTurn_unknown hproto hsize)
  | some size =>
    rcases Nat.lt_or_ge buf.length size with hlen | hlen
    · exact .inl (headerTurn_short hproto hsize hlen)
    by_cases htrailer : slice buf (size - trailer.length) size = trailer
    · exact .inr (.inr ⟨size, _, rfl, headerTurn_whole hproto hsize hlen htrailer⟩)
    · exact .inr (.inl (headerTurn_noTrailer hproto hsize hlen htrailer))

theorem headerTurn_next (buf rest : Bytes) (out : List Frame) (h : headerTurn buf = .next out rest) :
    ∃ n, 0 < n ∧ rest = buf.drop n := by
  rcases headerTurn_cases buf with h' | h' | ⟨size, out', hsize, h'⟩
  · rw [h'] at h
    cases h
  · rw [h', Turn.next.injEq] at h
    exact ⟨2, by omega, h.2.symm⟩
  · rw [h', Turn.next.injEq] at h
    have := declaredFrameLen_bounds buf size hsize
    exact ⟨size, by omega, h.2.symm⟩

theorem turn_next_length (buf rest : Bytes) (out : List Frame) (h : turn buf = .next out rest) :
    rest.length < buf.length := by
  unfold turn at h
  split at h
  · simp at h
  · rename_i start hstart
    have hp : header <+: buf.drop start := skipTo_starts header buf _ (by simp [skipTo, hstart])
    have hlen : 2 ≤ (buf.drop start).length := hp.length_le
    obtain ⟨n, hn, rfl⟩ := headerTurn_next _ _ _ h
    rw [List.length_drop] at hlen
    rw [List.length_drop, List.length_drop]
    omega

def feedLoop (buf : Bytes) (out : List Frame) : List Frame × Bytes :=
  match _h : turn buf with
  | .stop rest => (out, rest)
  | .next frames rest => feedLoop rest (out ++ frames)
termination_by buf.length
decreasing_by exact turn_next_length _ _ _ _h

/-- The bytes that are not part of a frame yet. -/
structure FrameReassembler where
  buf : Bytes
  deriving DecidableEq, Repr

namespace FrameReassembler

def new : FrameReassembler := ⟨[]⟩

/-- The frames that the bytes complete. -/
def feed (r : FrameReassembler) (chunk : Bytes) : List Frame × FrameReassembler :=
  let res := feedLoop (r.buf ++ chunk) []
  (res.1, ⟨res.2⟩)

def feedAll (r : FrameReassembler) : List Bytes → List Frame × FrameReassembler
  | [] => ([], r)
  | chunk :: chunks =>
    let first := r.feed chunk
    let rest := feedAll first.2 chunks
    (first.1 ++ rest.1, rest.2)

end FrameReassembler

end TtlockBle
