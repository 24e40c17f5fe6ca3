import TtlockBle.RoundTrip

/-!
# What the reassembler accepts

Every field of a frame that comes out is a byte of the stream, at its place in the layout. The
checksum byte is the exception: neither `feed` nor `Frame.parse` looks at it.
-/

open TtlockBle.Lib

namespace TtlockBle.Reception

/-! ## The bytes of a parsed frame -/

theorem low_toNat_cast (b : UInt8) : Frame.low b.toNat = b := by
  apply UInt8.toNat_inj.mp
  exact RoundTrip.low_length_toNat b.toNat (Nat.le_of_lt_succ b.toNat_lt)

theorem toNat_two_bytes (hi lo : UInt8) : hi.toNat <<< 8 ||| lo.toNat = hi.toNat * 256 + lo.toNat := by
  rw [← Nat.shiftLeft_add_eq_or_of_lt lo.toNat_lt, Nat.shiftLeft_eq]

theorem low_of_two_bytes (hi lo : UInt8) :
    Frame.low ((hi.toNat <<< 8 ||| lo.toNat : Nat) : Int) = lo := by
  have h := RoundTrip.low_toNat ((hi.toNat <<< 8 ||| lo.toNat : Nat) : Int)
  rw [toNat_two_bytes] at h ⊢
  have := lo.toNat_lt
  apply UInt8.toNat_inj.mp
  omega

theorem low_shift_of_two_bytes (hi lo : UInt8) :
    Frame.low (((hi.toNat <<< 8 ||| lo.toNat : Nat) : Int) >>> (8 : Nat)) = hi := by
  have h := RoundTrip.low_toNat (((hi.toNat <<< 8 ||| lo.toNat : Nat) : Int) >>> (8 : Nat))
  rw [toNat_two_bytes, Int.shiftRight_eq_div_pow] at h
  rw [toNat_two_bytes, Int.shiftRight_eq_div_pow]
  have := lo.toNat_lt
  have := hi.toNat_lt
  apply UInt8.toNat_inj.mp
  omega

theorem exists_twelve (l : Bytes) (h : 12 ≤ l.length) :
    ∃ b0 b1 b2 b3 b4 b5 b6 b7 b8 b9 b10 b11 rest,
      l = b0 :: b1 :: b2 :: b3 :: b4 :: b5 :: b6 :: b7 :: b8 :: b9 :: b10 :: b11 :: rest := by
  match l, h with
  | b0 :: b1 :: b2 :: b3 :: b4 :: b5 :: b6 :: b7 :: b8 :: b9 :: b10 :: b11 :: rest, _ =>
    exact ⟨b0, b1, b2, b3, b4, b5, b6, b7, b8, b9, b10, b11, rest, rfl⟩

theorem exists_buildBody (raw : Bytes) (size : Nat) (hheader : header <+: raw)
    (hproto : ¬ ∃ proto ∈ raw[2]?, proto < minProtocolType) (hsize : declaredFrameLen raw = some size)
    (hlen : raw.length = size - trailer.length) :
    ∃ f crc, RoundTrip.Fits f ∧ raw = f.buildBody ++ [crc] := by
  obtain ⟨length, hget, rfl⟩ := (declaredFrameLen_eq_some raw size).mp hsize
  rw [trailer_length] at hlen
  obtain ⟨b0, b1, b2, b3, b4, b5, b6, b7, b8, b9, b10, b11, rest, rfl⟩ := exists_twelve raw (by omega)
  obtain rfl : b11 = length := Option.some.inj hget
  obtain ⟨rfl, rfl⟩ : b0 = 0x7F ∧ b1 = 0x5A := by
    simpa [header, List.cons_prefix_cons, eq_comm] using hheader
  have hrest : rest.length = b11.toNat + 1 := by
    simp only [List.length_cons] at hlen
    omega
  have hne : rest ≠ [] := List.ne_nil_of_length_pos (by omega)
  have hdata : rest.dropLast.length = b11.toNat := by
    rw [List.length_dropLast]
    omega
  let f : Frame :=
    { protocolType := b2.toNat, subVersion := b3.toNat, scene := b4.toNat,
      groupId := (b5.toNat <<< 8 ||| b6.toNat : Nat), subOrg := (b7.toNat <<< 8 ||| b8.toNat : Nat),
      command := b9.toNat, encrypt := b10.toNat, data := rest.dropLast }
  have hfits : RoundTrip.Fits f := by
    have h5 : 5 ≤ b2.toNat := by
      simpa [minProtocolType, UInt8.le_iff_toNat_le] using hproto
    have hb (b : UInt8) : (0 : Int) ≤ b.toNat ∧ (b.toNat : Int) ≤ 255 := by
      have := b.toNat_lt
      omega
    have hbb (hi lo : UInt8) :
        (0 : Int) ≤ (hi.toNat <<< 8 ||| lo.toNat : Nat) ∧ ((hi.toNat <<< 8 ||| lo.toNat : Nat) : Int) ≤ 65535 := by
      rw [toNat_two_bytes]
      have := hi.toNat_lt
      have := lo.toNat_lt
      omega
    have h2 := hb b2
    have h11 := hb b11
    refine ⟨⟨Int.ofNat_le.mpr h5, h2.2⟩, hb b3, hb b4, hbb b5 b6, hbb b7 b8, hb b9, hb b10, ?_⟩
    rw [hdata]
    omega
  refine ⟨f, rest.getLast hne, hfits, ?_⟩
  rw [RoundTrip.buildBody_eq f hfits]
  simp only [f, low_toNat_cast, low_of_two_bytes, low_shift_of_two_bytes, hdata, List.cons_append,
    List.dropLast_append_getLast]

/-! ## Where frames come from -/

/-- The bytes of a frame on the wire, whatever its checksum byte is. -/
def Carries (f : Frame) (w : Bytes) : Prop := ∃ crc, w = f.buildBody ++ [crc] ++ trailer

theorem take_size (buf : Bytes) (size : Nat) (h2 : 2 ≤ size)
    (htrailer : slice buf (size - trailer.length) size = trailer) :
    buf.take size = buf.take (size - trailer.length) ++ trailer := by
  rw [slice, trailer_length] at htrailer
  rw [trailer_length, ← List.take_append_drop (size - 2) (buf.take size), htrailer, List.take_take,
    Nat.min_eq_left (by omega)]

theorem headerTurn_inOrder (buf rest : Bytes) (out : List Frame) (hheader : header <+: buf)
    (h : headerTurn buf = .next out rest) :
    ∃ front, InOrder Carries out front ∧ buf = front ++ rest := by
  by_cases hproto : ∃ proto ∈ buf[2]?, proto < minProtocolType
  · rw [headerTurn_old hproto, Turn.next.injEq] at h
    obtain ⟨rfl, rfl⟩ := h
    exact ⟨_, .nil _, (List.take_append_drop _ _).symm⟩
  cases hsize : declaredFrameLen buf with
  | none =>
    rw [headerTurn_unknown hproto hsize] at h
    cases h
  | some size =>
    rcases Nat.lt_or_ge buf.length size with hlen | hlen
    · rw [headerTurn_short hproto hsize hlen] at h
      cases h
    by_cases htrailer : slice buf (size - trailer.length) size = trailer
    · rw [headerTurn_whole hproto hsize hlen htrailer, Turn.next.injEq] at h
      obtain ⟨rfl, rfl⟩ := h
      have hb := declaredFrameLen_bounds buf size hsize
      have htake := take_size buf size (by omega) htrailer
      -- The body and the checksum byte decide as the whole buffer does.
      have hprefix := List.take_prefix (size - trailer.length) buf
      have hraw : (buf.take (size - trailer.length)).length = size - trailer.length := by
        rw [List.length_take]
        omega
      rw [trailer_length] at hraw
      obtain ⟨f, crc, hfits, hbody⟩ := exists_buildBody (buf.take (size - trailer.length)) size
        (List.prefix_of_prefix_length_le hheader hprefix (by rw [header_length, trailer_length]; omega))
        (by rwa [List.getElem?_take_of_lt (by rw [trailer_length]; omega)])
        (by rwa [declaredFrameLen, List.getElem?_take_of_lt (by rw [trailer_length, v3LengthIndex]; omega)])
        hraw
      rw [hbody, RoundTrip.parse_build f hfits]
      refine ⟨buf.take size ++ [], ?_, by rw [List.append_nil, List.take_append_drop]⟩
      exact .cons [] ⟨crc, by rw [htake, hbody]⟩ (.nil [])
    · rw [headerTurn_noTrailer hproto hsize hlen htrailer, Turn.next.injEq] at h
      obtain ⟨rfl, rfl⟩ := h
      exact ⟨_, .nil _, (List.take_append_drop _ _).symm⟩

theorem turn_inOrder (buf rest : Bytes) (out : List Frame) (h : turn buf = .next out rest) :
    ∃ front, InOrder Carries out front ∧ buf = front ++ rest := by
  rw [Reassembler.turn_eq] at h
  cases hs : skipTo header buf with
  | none => simp [hs] at h
  | some found =>
    rw [hs] at h
    obtain ⟨front, hout, hfound⟩ := headerTurn_inOrder found rest out (skipTo_starts _ _ _ hs) h
    obtain ⟨skipped, hskipped⟩ := skipTo_suffix _ _ _ hs
    exact ⟨skipped ++ front, hout.skip skipped, by rw [← hskipped, hfound, List.append_assoc]⟩

/-- **Soundness of reception**, but for the checksum byte. -/
theorem feedAll_inOrder (chunks : List Bytes) :
    InOrder Carries (FrameReassembler.new.feedAll chunks).1 chunks.flatten := by
  rw [Reassembler.feedAll_eq, Reassembler.frameScanner.feedAll_flatten _ Reassembler.settled_new]
  apply Reassembler.frameScanner.run_inOrder
  intro b out rest h
  exact turn_inOrder b rest out ((Reassembler.scanOf_more _ _ _).mp h)

theorem turn_word (f : Frame) (hf : RoundTrip.Fits f) (crc : UInt8) :
    turn (f.buildBody ++ [crc] ++ trailer) = .next [f] [] := by
  have hheader : header <+: f.buildBody ++ [crc] ++ trailer := by
    rw [RoundTrip.buildBody_eq f hf]
    exact ⟨_, rfl⟩
  rw [Reassembler.turn_eq, skipTo_self _ _ hheader]
  simpa using RoundTrip.headerTurn_word f hf crc []

/-- A frame is returned although its checksum byte is wrong. -/
theorem feedAll_ignores_crc :
    ¬ ∀ chunks, InOrder (fun f w => w = f.build) (FrameReassembler.new.feedAll chunks).1 chunks.flatten := by
  intro h
  let f : Frame :=
    { protocolType := 5, subVersion := 3, scene := 2, groupId := 1, subOrg := 1, command := 0x14,
      encrypt := encryptPlain, data := [0x7F] }
  have hf : RoundTrip.Fits f := by
    constructor <;> simp [f, encryptPlain]
  have hturn : Reassembler.frameScanner.scan (f.buildBody ++ [0x00] ++ trailer) = .more [f] [] :=
    (Reassembler.scanOf_more _ _ _).mpr (turn_word f hf 0x00)
  have hmem : f ∈ (FrameReassembler.new.feedAll [f.buildBody ++ [0x00] ++ trailer]).1 := by
    rw [Reassembler.feedAll_eq, Reassembler.frameScanner.feedAll_flatten _ Reassembler.settled_new,
      Scanner.feed, List.flatten_singleton, FrameReassembler.new, List.nil_append,
      Reassembler.frameScanner.run_of_more hturn]
    exact List.mem_append_left _ List.mem_cons_self
  obtain ⟨w, rfl, hin⟩ := (h [f.buildBody ++ [0x00] ++ trailer]).exists_word hmem
  revert hin
  decide +kernel

end TtlockBle.Reception
