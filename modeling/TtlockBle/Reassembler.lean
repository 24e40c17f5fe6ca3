import TtlockBle.Code.Reassembler
import TtlockBle.Lib.Scanner

/-!
# The reassembler is a scanner

What a turn of the loop decides on a buffer it decides again on a longer one. That makes
`feed` an instance of `Scanner`, so cuts in the stream do not matter.
-/

open TtlockBle.Lib

namespace TtlockBle.Reassembler

/-! ## One turn -/

theorem headerTurn_stop (buf rest : Bytes) (h : headerTurn buf = .stop rest) : rest = buf := by
  rcases headerTurn_cases buf with h' | h' | ⟨size, out, -, h'⟩
  all_goals rw [h'] at h
  · exact (Turn.stop.inj h).symm
  · cases h
  · cases h

theorem declaredFrameLen_append (buf c : Bytes) (size : Nat) (h : declaredFrameLen buf = some size) :
    declaredFrameLen (buf ++ c) = some size := by
  rw [declaredFrameLen_eq_some] at h ⊢
  obtain ⟨length, hget, rfl⟩ := h
  exact ⟨length, by rw [List.getElem?_append_left (List.getElem?_eq_some_iff.mp hget).1, hget], rfl⟩

theorem old_append (buf c : Bytes) (h : 2 < buf.length) :
    (∃ proto ∈ (buf ++ c)[2]?, proto < minProtocolType) ↔ ∃ proto ∈ buf[2]?, proto < minProtocolType := by
  rw [List.getElem?_append_left h]

/-- Everything that a turn looks at is inside the bytes that it consumes. -/
theorem headerTurn_append (buf rest c : Bytes) (out : List Frame) (h : headerTurn buf = .next out rest) :
    headerTurn (buf ++ c) = .next out (rest ++ c) := by
  by_cases hproto : ∃ proto ∈ buf[2]?, proto < minProtocolType
  · have hlen : 2 < buf.length := by
      obtain ⟨proto, hmem, -⟩ := hproto
      exact (List.getElem?_eq_some_iff.mp hmem).1
    rw [headerTurn_old hproto, Turn.next.injEq] at h
    obtain ⟨rfl, rfl⟩ := h
    rw [headerTurn_old ((old_append buf c hlen).mpr hproto),
      List.drop_append_of_le_length (by rw [header_length]; omega)]
  cases hsize : declaredFrameLen buf with
  | none =>
    rw [headerTurn_unknown hproto hsize] at h
    cases h
  | some size =>
    have hb := declaredFrameLen_bounds buf size hsize
    rcases Nat.lt_or_ge buf.length size with hlen | hlen
    · rw [headerTurn_short hproto hsize hlen] at h
      cases h
    have hproto' := mt (old_append buf c (by omega)).mp hproto
    have hsize' := declaredFrameLen_append buf c size hsize
    have hlen' : size ≤ (buf ++ c).length := by
      rw [List.length_append]
      omega
    have hslice := slice_append buf c (size - trailer.length) size hlen
    by_cases htrailer : slice buf (size - trailer.length) size = trailer
    · rw [headerTurn_whole hproto hsize hlen htrailer, Turn.next.injEq] at h
      obtain ⟨rfl, rfl⟩ := h
      rw [headerTurn_whole hproto' hsize' hlen' (hslice.trans htrailer),
        List.take_append_of_le_length (by omega), List.drop_append_of_le_length hlen]
    · rw [headerTurn_noTrailer hproto hsize hlen htrailer, Turn.next.injEq] at h
      obtain ⟨rfl, rfl⟩ := h
      rw [headerTurn_noTrailer hproto' hsize' hlen' (by rwa [hslice]),
        List.drop_append_of_le_length (by rw [header_length]; omega)]

theorem turn_eq (buf : Bytes) :
    turn buf = match skipTo header buf with
      | none => .stop (buf.drop (buf.length - 1))
      | some rest => headerTurn rest := by
  unfold turn skipTo
  cases find header buf <;> rfl

theorem drop_last_append (b c : Bytes) (hc : c ≠ []) :
    (b ++ c).drop ((b ++ c).length - 1) = c.drop (c.length - 1) := by
  have hpos := List.length_pos_iff.mpr hc
  rw [List.length_append, show b.length + c.length - 1 = b.length + (c.length - 1) by omega,
    List.drop_length_add_append]

theorem last_append (b c : Bytes) :
    (b ++ c).drop ((b ++ c).length - 1) =
      (b.drop (b.length - 1) ++ c).drop ((b.drop (b.length - 1) ++ c).length - 1) := by
  by_cases hc : c = []
  · simp only [hc, List.append_nil, List.drop_drop, List.length_drop]
    congr 1
    omega
  · rw [drop_last_append _ _ hc, drop_last_append _ _ hc]

theorem turn_next_append (buf rest c : Bytes) (out : List Frame) (h : turn buf = .next out rest) :
    turn (buf ++ c) = .next out (rest ++ c) := by
  rw [turn_eq] at h ⊢
  cases hs : skipTo header buf with
  | none => simp [hs] at h
  | some b =>
    rw [skipTo_append _ _ _ c hs]
    rw [hs] at h
    exact headerTurn_append b rest c out h

theorem turn_stop_append (buf rest c : Bytes) (h : turn buf = .stop rest) :
    turn (buf ++ c) = turn (rest ++ c) := by
  rw [turn_eq] at h
  rw [turn_eq, turn_eq]
  cases hs : skipTo header buf with
  | none =>
    -- Only the tail byte can be part of a header that is still to come.
    simp only [hs, Turn.stop.injEq] at h
    rw [← h, ← skipTo_append_of_none header buf c 1 (by simp [header]) hs]
    cases skipTo header (buf ++ c) with
    | none => rw [last_append]
    | some b => rfl
  | some b =>
    simp only [hs] at h
    have hstart := skipTo_starts _ _ _ hs
    rw [headerTurn_stop _ _ h, skipTo_append _ _ _ c hs,
      skipTo_self _ _ (hstart.trans (List.prefix_append b c))]

/-! ## The scanner -/

def scanOf : Turn → Scan UInt8 Frame
  | .stop rest => .wait rest
  | .next out rest => .more out rest

theorem scanOf_wait (t : Turn) (rest : Bytes) : scanOf t = .wait rest ↔ t = .stop rest := by
  cases t <;> simp [scanOf]

theorem scanOf_more (t : Turn) (out : List Frame) (rest : Bytes) :
    scanOf t = .more out rest ↔ t = .next out rest := by
  cases t <;> simp [scanOf]

def frameScanner : Scanner UInt8 Frame where
  scan buf := scanOf (turn buf)
  shrinks h := turn_next_length _ _ _ ((scanOf_more _ _ _).mp h)
  more_append c h := by
    rw [scanOf_more] at h ⊢
    exact turn_next_append _ _ c _ h
  wait_append c h := by
    rw [scanOf_wait] at h
    rw [turn_stop_append _ _ c h]

theorem feedLoop_eq (buf : Bytes) (out : List Frame) :
    feedLoop buf out = (out ++ (frameScanner.run buf).1, (frameScanner.run buf).2) := by
  induction buf using frameScanner.run_induction generalizing out with
  | wait b rest h =>
    have ht : turn b = .stop rest := (scanOf_wait _ _).mp h
    rw [feedLoop, frameScanner.run_of_wait h]
    split <;> simp_all
  | more b frames rest h ih =>
    have ht : turn b = .next frames rest := (scanOf_more _ _ _).mp h
    rw [feedLoop, frameScanner.run_of_more h]
    split <;> simp_all

theorem feed_eq (r : FrameReassembler) (chunk : Bytes) :
    r.feed chunk = ((frameScanner.feed r.buf chunk).1, ⟨(frameScanner.feed r.buf chunk).2⟩) := by
  simp [FrameReassembler.feed, feedLoop_eq, Scanner.feed]

theorem feedAll_eq (r : FrameReassembler) (chunks : List Bytes) :
    r.feedAll chunks =
      ((frameScanner.feedAll r.buf chunks).1, ⟨(frameScanner.feedAll r.buf chunks).2⟩) := by
  induction chunks generalizing r with
  | nil => rfl
  | cons c cs ih => simp [FrameReassembler.feedAll, Scanner.feedAll, ih, feed_eq]

theorem feedAll_append (r : FrameReassembler) (earlier later : List Bytes) :
    r.feedAll (earlier ++ later) =
      ((r.feedAll earlier).1 ++ ((r.feedAll earlier).2.feedAll later).1,
        ((r.feedAll earlier).2.feedAll later).2) := by
  induction earlier generalizing r with
  | nil => rfl
  | cons c cs ih => simp [FrameReassembler.feedAll, ih]

theorem settled_new : frameScanner.Settled FrameReassembler.new.buf := by
  have h : turn [] = .stop [] := rfl
  exact frameScanner.run_of_wait ((scanOf_wait _ _).mpr h)

theorem settled_feedAll (earlier : List Bytes) :
    frameScanner.Settled (FrameReassembler.new.feedAll earlier).2.buf := by
  rw [feedAll_eq, frameScanner.feedAll_flatten _ settled_new]
  exact frameScanner.settled_run _

/-! ## The length byte -/

theorem parse_data_length (raw : Bytes) (f : Frame) (h : Frame.parse raw = .ok f) : f.data.length ≤ 255 := by
  have hslice (start : Nat) (length : UInt8) :
      (slice raw start (start + length.toNat)).length ≤ 255 := by
    have := length.toNat_lt
    rw [slice_length]
    omega
  unfold Frame.parse at h
  split at h
  · cases h
  simp only at h
  split at h
  · split at h
    · cases h
    split at h
    · cases h
    · obtain rfl := Except.ok.inj h
      exact hslice _ _
  · split at h
    · cases h
    split at h
    · cases h
    · obtain rfl := Except.ok.inj h
      exact hslice _ _

theorem headerTurn_data_length (buf rest : Bytes) (out : List Frame) (h : headerTurn buf = .next out rest) :
    ∀ f ∈ out, f.data.length ≤ 255 := by
  unfold headerTurn at h
  split at h
  · simp [← (Turn.next.inj h).1]
  split at h
  · cases h
  split at h
  · cases h
  split at h
  · simp [← (Turn.next.inj h).1]
  split at h
  · rename_i f hparse
    simp [← (Turn.next.inj h).1, parse_data_length _ _ hparse]
  · simp [← (Turn.next.inj h).1]

theorem turn_data_length (buf rest : Bytes) (out : List Frame) (h : turn buf = .next out rest) :
    ∀ f ∈ out, f.data.length ≤ 255 := by
  rw [turn_eq] at h
  cases hs : skipTo header buf with
  | none => simp [hs] at h
  | some found =>
    rw [hs] at h
    exact headerTurn_data_length found rest out h

theorem feed_data_length (r : FrameReassembler) (chunk : Bytes) :
    ∀ f ∈ (r.feed chunk).1, f.data.length ≤ 255 := by
  rw [feed_eq]
  refine frameScanner.run_forall (P := fun f => f.data.length ≤ 255) ?_ _
  intro b out rest h
  exact turn_data_length b rest out ((scanOf_more _ _ _).mp h)

theorem feedAll_data_length (r : FrameReassembler) (chunks : List Bytes) :
    ∀ f ∈ (r.feedAll chunks).1, f.data.length ≤ 255 := by
  induction chunks generalizing r with
  | nil => simp [FrameReassembler.feedAll]
  | cons chunk chunks ih =>
    intro f hf
    rcases List.mem_append.mp hf with hf | hf
    · exact feed_data_length r chunk f hf
    · exact ih _ f hf

/-- **Chunk invariance of `feed`**, from any buffer that earlier feeds leave. -/
theorem feed_chunks (earlier chunks : List Bytes) :
    let r := (FrameReassembler.new.feedAll earlier).2
    r.feedAll chunks = r.feed chunks.flatten := by
  intro r
  rw [feedAll_eq, feed_eq, frameScanner.feedAll_flatten _ (settled_feedAll earlier)]

end TtlockBle.Reassembler
