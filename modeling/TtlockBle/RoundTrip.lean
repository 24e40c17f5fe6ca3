import TtlockBle.Reassembler

/-! # Frames survive the wire -/

open TtlockBle.Lib

namespace TtlockBle.RoundTrip

/-- Each field fits the bytes that the wire has for it. -/
structure Fits (f : Frame) : Prop where
  protocolType : 5 ≤ f.protocolType ∧ f.protocolType ≤ 255
  subVersion : 0 ≤ f.subVersion ∧ f.subVersion ≤ 255
  scene : 0 ≤ f.scene ∧ f.scene ≤ 255
  groupId : 0 ≤ f.groupId ∧ f.groupId ≤ 65535
  subOrg : 0 ≤ f.subOrg ∧ f.subOrg ≤ 65535
  command : 0 ≤ f.command ∧ f.command ≤ 255
  encrypt : 0 ≤ f.encrypt ∧ f.encrypt ≤ 255
  data : f.data.length ≤ 255

/-! ## Fields -/

theorem low_toNat (x : Int) : ((Frame.low x).toNat : Int) = x % 256 := by
  have h : (x % 256).toNat < 256 := by omega
  simp only [Frame.low, UInt8.ofInt, Int.reducePow, UInt8.toNat_ofNat']
  omega

theorem low_toNat_of_fits (x : Int) (h : 0 ≤ x ∧ x ≤ 255) : ((Frame.low x).toNat : Int) = x := by
  rw [low_toNat]
  omega

theorem low_length_toNat (n : Nat) (h : n ≤ 255) : (Frame.low n).toNat = n := by
  have := low_toNat_of_fits n (by omega)
  omega

theorem two_bytes (x : Int) (h : 0 ≤ x ∧ x ≤ 65535) :
    (((Frame.low (x >>> (8 : Nat))).toNat <<< 8 ||| (Frame.low x).toNat : Nat) : Int) = x := by
  have h1 : ((Frame.low (x >>> (8 : Nat))).toNat : Int) = x / 256 % 256 := by
    rw [low_toNat, Int.shiftRight_eq_div_pow]
    rfl
  have h2 := low_toNat x
  have hlt : (Frame.low x).toNat < 2 ^ 8 := (Frame.low x).toNat_lt
  rw [← Nat.shiftLeft_add_eq_or_of_lt hlt, Nat.shiftLeft_eq]
  push_cast
  omega

theorem low_protocol (x : Int) (h : 5 ≤ x ∧ x ≤ 255) : Frame.low x ≥ 5 := by
  have := low_toNat_of_fits x (by omega)
  rw [ge_iff_le, UInt8.le_iff_toNat_le]
  have h5 : (5 : UInt8).toNat = 5 := rfl
  omega

/-! ## One frame -/

theorem buildBody_eq (f : Frame) (hf : Fits f) :
    f.buildBody = 0x7F :: 0x5A :: Frame.low f.protocolType :: Frame.low f.subVersion ::
      Frame.low f.scene :: Frame.low (f.groupId >>> (8 : Nat)) :: Frame.low f.groupId ::
      Frame.low (f.subOrg >>> (8 : Nat)) :: Frame.low f.subOrg :: Frame.low f.command ::
      Frame.low f.encrypt :: Frame.low f.data.length :: f.data := by
  rw [Frame.buildBody, if_pos hf.protocolType.1]
  rfl

theorem buildBody_length (f : Frame) (hf : Fits f) : f.buildBody.length = 12 + f.data.length := by
  rw [buildBody_eq f hf]
  simp
  omega

theorem parse_build (f : Frame) (hf : Fits f) (crc : UInt8) :
    Frame.parse (f.buildBody ++ [crc]) = .ok f := by
  have hp := low_protocol f.protocolType hf.protocolType
  have hlen := low_length_toNat f.data.length hf.data
  rw [buildBody_eq f hf]
  unfold Frame.parse
  rw [dif_neg (by simp)]
  simp only [List.cons_append, List.getElem_cons_zero, List.getElem_cons_succ, hp, if_true,
    List.length_cons, List.length_append, List.length_nil, hlen, v3HeaderLen, dite_eq_ite]
  rw [if_neg (by omega), if_neg (by omega)]
  simp only [low_toNat_of_fits _ hf.subVersion, low_toNat_of_fits _ hf.scene,
    low_toNat_of_fits _ hf.command, low_toNat_of_fits _ hf.encrypt, two_bytes _ hf.groupId,
    two_bytes _ hf.subOrg,
    low_toNat_of_fits f.protocolType ⟨by have := hf.protocolType; omega, hf.protocolType.2⟩]
  have hdata : slice (0x7F :: 0x5A :: Frame.low f.protocolType :: Frame.low f.subVersion ::
      Frame.low f.scene :: Frame.low (f.groupId >>> (8 : Nat)) :: Frame.low f.groupId ::
      Frame.low (f.subOrg >>> (8 : Nat)) :: Frame.low f.subOrg :: Frame.low f.command ::
      Frame.low f.encrypt :: Frame.low f.data.length :: (f.data ++ [crc])) 12 (12 + f.data.length) = f.data := by
    simp [slice, Nat.add_comm 12]
  rw [hdata]

/-- A frame goes through with any checksum byte: none is looked at. -/
theorem headerTurn_word (f : Frame) (hf : Fits f) (crc : UInt8) (rest : Bytes) :
    headerTurn (f.buildBody ++ [crc] ++ trailer ++ rest) = .next [f] rest := by
  have hlen := low_length_toNat f.data.length hf.data
  have hbody := buildBody_length f hf
  generalize hword : f.buildBody ++ [crc] ++ trailer = word
  have hlength : word.length = 15 + f.data.length := by
    simp [← hword, hbody, trailer]
    omega
  suffices h : headerTurn word = .next [f] [] by
    simpa using Reassembler.headerTurn_append _ _ rest _ h
  have hproto : ¬ ∃ proto ∈ word[2]?, proto < minProtocolType := by
    have hp := low_protocol f.protocolType hf.protocolType
    rw [← hword, buildBody_eq f hf]
    simpa [minProtocolType] using hp
  have hsize : declaredFrameLen word = some (15 + f.data.length) := by
    rw [← hword, buildBody_eq f hf]
    rw [declaredFrameLen_eq_some]
    exact ⟨Frame.low f.data.length, rfl, by rw [hlen]⟩
  have htake : word.take (15 + f.data.length - trailer.length) = f.buildBody ++ [crc] := by
    rw [← hword]
    exact List.take_left' (by simp [hbody, trailer]; omega)
  have hslice : slice word (15 + f.data.length - trailer.length) (15 + f.data.length) = trailer := by
    rw [slice, List.take_of_length_le (by omega), ← hword]
    exact List.drop_left' (by simp [hbody, trailer]; omega)
  rw [headerTurn_whole hproto hsize hlength.ge hslice, htake, parse_build f hf,
    List.drop_eq_nil_of_le hlength.le]
  rfl

theorem headerTurn_build (f : Frame) (hf : Fits f) (rest : Bytes) :
    headerTurn (f.build ++ rest) = .next [f] rest := headerTurn_word f hf _ rest

/-! ## A stream -/

theorem header_build (f : Frame) (hf : Fits f) (rest : Bytes) : header <+: f.build ++ rest := by
  rw [Frame.build, buildBody_eq f hf]
  exact ⟨_, rfl⟩

/-- Garbage without a header is skipped, even when it ends in the first header byte. -/
theorem skipTo_garbage (g l : Bytes) (hg : ¬ header <:+: g) (hl : header <+: l) :
    skipTo header (g ++ l) = some l := by
  apply skipTo_skip header g l hl
  rintro x ys hs hp
  obtain ⟨tail, rfl⟩ := hl
  rcases ys with _ | ⟨y, ys⟩
  · -- The seam: the second header byte would have to be the first one.
    simp [header, List.prefix_cons_iff] at hp
  · simp only [header, List.cons_append, List.cons_prefix_cons, List.nil_prefix, and_true] at hp
    obtain ⟨rfl, rfl⟩ := hp
    exact hg (List.IsInfix.trans ⟨[], ys, rfl⟩ hs.isInfix)

theorem run_build (g : Bytes) (hg : ¬ header <:+: g) (f : Frame) (hf : Fits f) (rest : Bytes) :
    Reassembler.frameScanner.run (g ++ (f.build ++ rest)) =
      (f :: (Reassembler.frameScanner.run rest).1, (Reassembler.frameScanner.run rest).2) := by
  have h : turn (g ++ (f.build ++ rest)) = .next [f] rest := by
    rw [Reassembler.turn_eq, skipTo_garbage g _ hg (header_build f hf rest)]
    exact headerTurn_build f hf rest
  rw [Reassembler.frameScanner.run_of_more ((Reassembler.scanOf_more _ _ _).mpr h)]
  rfl

theorem run_frames (frames : List Frame) (hf : ∀ f ∈ frames, Fits f) :
    Reassembler.frameScanner.run (frames.map Frame.build).flatten = (frames, []) := by
  induction frames with
  | nil => exact Reassembler.settled_new
  | cons f fs ih =>
    have hno : ¬ header <:+: ([] : Bytes) := by simp [header]
    have h := run_build [] hno f (hf f List.mem_cons_self) (fs.map Frame.build).flatten
    rw [ih fun f' h' => hf f' (List.mem_cons_of_mem _ h')] at h
    simpa using h

/-- **Stream round trip.** -/
theorem feed_build (g : Bytes) (hg : ¬ header <:+: g) (frames : List Frame) (hne : frames ≠ [])
    (hf : ∀ f ∈ frames, Fits f) (chunks : List Bytes)
    (hc : chunks.flatten = g ++ (frames.map Frame.build).flatten) :
    FrameReassembler.new.feedAll chunks = (frames, ⟨[]⟩) := by
  obtain ⟨f, fs, rfl⟩ := List.exists_cons_of_ne_nil hne
  have hrun := run_build g hg f (hf f List.mem_cons_self) (fs.map Frame.build).flatten
  rw [run_frames fs fun f' h' => hf f' (List.mem_cons_of_mem _ h')] at hrun
  rw [Reassembler.feedAll_eq, Reassembler.frameScanner.feedAll_flatten _ Reassembler.settled_new, hc]
  simp [Scanner.feed, FrameReassembler.new, hrun]

/-- Garbage that ends in `7F`, payload that imitates a header and a trailer, and a cut through the
real header. -/
theorem feed_build_seam :
    let frame : Frame :=
      { protocolType := 5, subVersion := 3, scene := 2, groupId := 1, subOrg := 1, command := 0x14,
        encrypt := encryptPlain, data := [0x7F, 0x5A, 0x0D, 0x0A] }
    FrameReassembler.new.feedAll [[0xFF, 0x7F, 0x7F], 0x5A :: frame.build.drop 2, frame.build] =
      ([frame, frame], ⟨[]⟩) := by
  intro frame
  have hf : Fits frame := by
    constructor <;> simp [frame, encryptPlain]
  apply feed_build [0xFF, 0x7F] (by decide) [frame, frame] (by simp) (by simpa using hf)
  decide +kernel

end TtlockBle.RoundTrip
