import TtlockBle.Reception

/-!
# What `feed` leaves in the buffer

The loop takes at most one turn a byte. What it leaves is shorter than the frame it declares, and
every frame that it cuts out can be parsed.
-/

open TtlockBle.Lib

namespace TtlockBle.Retained

/-! ## Buffers and frames -/

/-- A tail byte without a header, or the start of a frame whose end is still to come. -/
def Waiting (buf : Bytes) : Prop :=
  (buf.length ≤ 1 ∧ ¬ header <:+: buf) ∨
    (header <+: buf ∧ (∀ proto ∈ buf[2]?, minProtocolType ≤ proto) ∧
      ∀ size ∈ declaredFrameLen buf, buf.length < size)

/-- The turn on `buf` gets as far as `Frame.parse`, with these bytes. -/
def Hands (buf raw : Bytes) : Prop :=
  ∃ framed size, skipTo header buf = some framed ∧ (∀ proto ∈ framed[2]?, minProtocolType ≤ proto) ∧
    declaredFrameLen framed = some size ∧ size ≤ framed.length ∧
    slice framed (size - trailer.length) size = trailer ∧ raw = framed.take (size - trailer.length)

theorem not_old_iff (buf : Bytes) :
    (¬ ∃ proto ∈ buf[2]?, proto < minProtocolType) ↔ ∀ proto ∈ buf[2]?, minProtocolType ≤ proto := by
  simp only [not_exists, not_and, UInt8.not_lt]

theorem waiting_length (buf : Bytes) (h : Waiting buf) : buf.length < 270 := by
  rcases h with ⟨hlen, -⟩ | ⟨-, -, hsize⟩
  · omega
  · cases hdeclared : declaredFrameLen buf with
    | none =>
      rw [declaredFrameLen, Option.map_eq_none_iff, List.getElem?_eq_none_iff] at hdeclared
      have : v3LengthIndex = 11 := rfl
      omega
    | some size =>
      have := hsize size hdeclared
      have := declaredFrameLen_bounds buf size hdeclared
      omega

/-! ## One turn -/

theorem headerTurn_waiting (buf rest : Bytes) (hheader : header <+: buf) (h : headerTurn buf = .stop rest) :
    Waiting rest := by
  obtain rfl := Reassembler.headerTurn_stop buf rest h
  by_cases hproto : ∃ proto ∈ rest[2]?, proto < minProtocolType
  · rw [headerTurn_old hproto] at h
    cases h
  refine .inr ⟨hheader, (not_old_iff rest).mp hproto, ?_⟩
  intro size hsize
  by_contra hlong
  by_cases htrailer : slice rest (size - trailer.length) size = trailer
  · rw [headerTurn_whole hproto hsize (by omega) htrailer] at h
    cases h
  · rw [headerTurn_noTrailer hproto hsize (by omega) htrailer] at h
    cases h

theorem turn_waiting (buf rest : Bytes) (h : turn buf = .stop rest) : Waiting rest := by
  rw [Reassembler.turn_eq] at h
  cases hs : skipTo header buf with
  | none =>
    rw [hs] at h
    obtain rfl := Turn.stop.inj h
    have htail : (buf.drop (buf.length - 1)).length ≤ 1 := by
      rw [List.length_drop]
      omega
    refine .inl ⟨htail, fun hin => ?_⟩
    have := hin.length_le
    rw [header_length] at this
    omega
  | some framed =>
    rw [hs] at h
    exact headerTurn_waiting framed rest (skipTo_starts _ _ _ hs) h

/-- `except ValueError` is never taken: what is cut out is long enough. -/
theorem parse_handed (buf raw : Bytes) (h : Hands buf raw) :
    ∃ frame rest, Frame.parse raw = .ok frame ∧ turn buf = .next [frame] rest := by
  obtain ⟨framed, size, hs, hproto, hsize, hlen, htrailer, rfl⟩ := h
  have hbounds := declaredFrameLen_bounds framed size hsize
  obtain ⟨length, hget, rfl⟩ := (declaredFrameLen_eq_some framed size).mp hsize
  have hold := (not_old_iff framed).mpr hproto
  have hraw : ∀ i, i < 15 + length.toNat - trailer.length →
      (framed.take (15 + length.toNat - trailer.length))[i]? = framed[i]? := by
    intro i hi
    rw [List.getElem?_take_of_lt hi]
  rw [trailer_length] at hraw ⊢
  obtain ⟨f, crc, hfits, hbody⟩ := Reception.exists_buildBody (framed.take (15 + length.toNat - 2))
    (15 + length.toNat) (List.prefix_take_iff.mpr ⟨skipTo_starts _ _ _ hs, by rw [header_length]; omega⟩)
    (by rwa [hraw 2 (by omega)])
    ((declaredFrameLen_eq_some _ _).mpr ⟨length, by rw [hraw _ (by simp [v3LengthIndex]; omega), hget], rfl⟩)
    (by rw [List.length_take, trailer_length]; omega)
  have hparse : Frame.parse (framed.take (15 + length.toNat - 2)) = .ok f := by
    rw [hbody]
    exact RoundTrip.parse_build f hfits crc
  refine ⟨f, framed.drop (15 + length.toNat), hparse, ?_⟩
  rw [Reassembler.turn_eq, hs]
  show headerTurn framed = _
  rw [headerTurn_whole hold hsize hlen htrailer, trailer_length, hparse]
  rfl

/-! ## A run -/

/-- Turns with these frames lead from one buffer to another. -/
abbrev Turns (buf : Bytes) (outs : List (List Frame)) (last : Bytes) : Prop :=
  Reassembler.frameScanner.Goes buf outs last

theorem parse_handed_run {buf last raw : Bytes} {outs : List (List Frame)} (hturns : Turns buf outs last)
    (h : Hands last raw) : ∃ frame, Frame.parse raw = .ok frame ∧ frame ∈ (feedLoop buf []).1 := by
  obtain ⟨frame, rest, hparse, hturn⟩ := parse_handed last raw h
  have hscan : Reassembler.frameScanner.scan last = .more [frame] rest :=
    (Reassembler.scanOf_more _ _ _).mpr hturn
  refine ⟨frame, hparse, ?_⟩
  rw [Reassembler.feedLoop_eq, hturns.run_eq, Reassembler.frameScanner.run_of_more hscan]
  simp

/-- **The loop ends**, within a turn a byte; what it leaves waits for less than 270 bytes, and
nothing that is handed to `Frame.parse` on the way is refused. -/
theorem feed_waits (r : FrameReassembler) (chunk : Bytes) :
    (∃ outs last, Turns (r.buf ++ chunk) outs last ∧ outs.length ≤ (r.buf ++ chunk).length ∧
      turn last = .stop (r.feed chunk).2.buf ∧ (r.feed chunk).1 = outs.flatten) ∧
    Waiting (r.feed chunk).2.buf ∧ (r.feed chunk).2.buf.length < 270 ∧
    ∀ outs last raw, Turns (r.buf ++ chunk) outs last → Hands last raw →
      ∃ frame, Frame.parse raw = .ok frame ∧ frame ∈ (r.feed chunk).1 := by
  obtain ⟨outs, last, hturns, hlast, hout⟩ := Reassembler.frameScanner.exists_goes (r.buf ++ chunk)
  have hstop : turn last = .stop (r.feed chunk).2.buf := by
    rw [Reassembler.feed_eq]
    exact (Reassembler.scanOf_wait _ _).mp hlast
  have hwaiting : Waiting (r.feed chunk).2.buf := turn_waiting last _ hstop
  refine ⟨⟨outs, last, hturns, ?_, hstop, ?_⟩, hwaiting, waiting_length _ hwaiting, ?_⟩
  · have := hturns.length_le
    omega
  · rw [Reassembler.feed_eq]
    exact hout
  · intro outs last raw hturns hhands
    exact parse_handed_run hturns hhands

end TtlockBle.Retained
