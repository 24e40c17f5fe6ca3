import Mathlib.Data.List.Infix
import TtlockBle.RoundTrip

/-!
# What a buffer leaves behind

Between two feeds the reassembler keeps bytes. They are harmless if whatever comes next gives the
same frames as without them.
-/

open TtlockBle.Lib

namespace TtlockBle.Leftover

open Reassembler

/-- The header that a buffer starts with leads to no frame, whatever comes behind it: the protocol is
too old, or where the declared length ends there is no trailer. -/
def GivenUp (buf : Bytes) : Prop :=
  (∃ proto ∈ buf[2]?, proto < minProtocolType) ∨
    ∃ size ∈ declaredFrameLen buf,
      (size = buf.length + 1 ∧ buf.getLast? ≠ some 0x0D) ∨
        (size ≤ buf.length ∧ slice buf (size - trailer.length) size ≠ trailer)

/-- No header can begin at the last byte, and every header in the buffer is given up. -/
structure Clean (buf : Bytes) : Prop where
  last : buf.getLast? ≠ some 0x7F
  headers : ∀ s, s <:+ buf → header <+: s → GivenUp s

instance (buf : Bytes) : Decidable (GivenUp buf) := inferInstanceAs (Decidable (_ ∨ _))

theorem clean_tails (buf : Bytes) :
    Clean buf ↔ buf.getLast? ≠ some 0x7F ∧ ∀ s ∈ buf.tails, header <+: s → GivenUp s := by
  simp only [List.mem_tails]
  exact ⟨fun h => ⟨h.last, h.headers⟩, fun h => ⟨h.1, h.2⟩⟩

instance (buf : Bytes) : Decidable (Clean buf) := decidable_of_iff _ (clean_tails buf).symm

/-- The head of a frame that declares 255 bytes, and of one that lacks its last byte. -/
example : ¬ Clean [0x7F, 0x5A, 5, 3, 2, 0, 1, 0, 1, 0x54, 0xAA, 0xFF] ∧
    Clean [0x7F, 0x5A, 5, 3, 2, 0, 1, 0, 1, 0x54, 0xAA, 0, 0, 0] := by decide

/-! ## Turns -/

theorem turn_of_header (buf : Bytes) (h : header <+: buf) : turn buf = headerTurn buf := by
  rw [turn_eq, skipTo_self header buf h]

theorem run_stop (buf rest : Bytes) (h : turn buf = .stop rest) : frameScanner.run buf = ([], rest) :=
  frameScanner.run_of_wait ((scanOf_wait _ _).mpr h)

theorem run_next (buf rest : Bytes) (out : List Frame) (h : turn buf = .next out rest) :
    frameScanner.run buf = (out ++ (frameScanner.run rest).1, (frameScanner.run rest).2) :=
  frameScanner.run_of_more ((scanOf_more _ _ _).mpr h)

theorem run_frames_congr (b c : Bytes) (h : skipTo header b = skipTo header c) :
    (frameScanner.run b).1 = (frameScanner.run c).1 := by
  cases hs : skipTo header c with
  | none =>
    have hb : turn b = .stop (b.drop (b.length - 1)) := by rw [turn_eq, h, hs]
    have hc : turn c = .stop (c.drop (c.length - 1)) := by rw [turn_eq, hs]
    rw [run_stop _ _ hb, run_stop _ _ hc]
  | some rest =>
    have hturn : turn b = turn c := by rw [turn_eq, turn_eq, h, hs]
    rw [frameScanner.run_congr (show scanOf (turn b) = scanOf (turn c) by rw [hturn])]

theorem run_no_header (c : Bytes) (h : 0x7F ∉ c) : (frameScanner.run c).1 = [] := by
  have hs : skipTo header c = none := by
    rw [skipTo_eq_none]
    rintro ⟨x, y, rfl⟩
    exact h (by simp [header])
  have ht : turn c = .stop (c.drop (c.length - 1)) := by rw [turn_eq, hs]
  rw [run_stop _ _ ht]

theorem slice_head (l : Bytes) (a b : Nat) (hab : a < b) : (slice l a b)[0]? = l[a]? := by
  rw [slice, List.getElem?_drop, Nat.add_zero, List.getElem?_take_of_lt hab]

/-! ## Headers that are given up -/

theorem run_givenUp (buf c : Bytes) (h : header <+: buf) (hg : GivenUp buf) (hc : c ≠ []) :
    frameScanner.run (buf ++ c) = frameScanner.run (buf.drop header.length ++ c) := by
  have hlen := h.length_le
  suffices ht : headerTurn (buf ++ c) = .next [] (buf.drop header.length ++ c) by
    rw [← turn_of_header _ (h.trans (List.prefix_append _ _))] at ht
    rw [run_next _ _ _ ht]
    rfl
  by_cases hproto : ∃ proto ∈ buf[2]?, proto < minProtocolType
  · exact headerTurn_append _ _ c _ (headerTurn_old hproto)
  obtain ⟨size, hsize, ⟨rfl, hlast⟩ | ⟨hlong, htrailer⟩⟩ := hg.resolve_left hproto
  · -- The next byte is the last one of the frame, and what stands before it begins no trailer.
    have hcpos := List.length_pos_of_ne_nil hc
    have hb := declaredFrameLen_bounds buf _ hsize
    have htrailer : slice (buf ++ c) (buf.length + 1 - trailer.length) (buf.length + 1) ≠ trailer := by
      rw [trailer_length]
      intro heq
      have hhead := slice_head (buf ++ c) (buf.length + 1 - 2) (buf.length + 1) (by omega)
      rw [heq, List.getElem?_append_left (by omega)] at hhead
      rw [List.getLast?_eq_getElem?] at hlast
      exact hlast hhead.symm
    rw [headerTurn_noTrailer (mt (old_append buf c (by omega)).mp hproto)
      (declaredFrameLen_append buf c _ hsize) _ htrailer, List.drop_append_of_le_length hlen]
    rw [List.length_append]
    omega
  · exact headerTurn_append _ _ c _ (headerTurn_noTrailer hproto hsize hlong htrailer)

theorem clean_suffix (buf s : Bytes) (hclean : Clean buf) (hs : s <:+ buf) : Clean s := by
  refine ⟨?_, fun t ht => hclean.headers t (ht.trans hs)⟩
  intro hlast
  obtain ⟨before, rfl⟩ := hs
  exact hclean.last (by rw [List.getLast?_append, hlast, Option.some_or])

/-! ## Headers that are not -/

theorem parse_ok (raw : Bytes) (length : UInt8) (hhead : header <+: raw)
    (hproto : ¬ ∃ proto ∈ raw[2]?, proto < minProtocolType) (hlength : raw[v3LengthIndex]? = some length)
    (hlen : raw.length = v3HeaderLen + length.toNat + crcLen) : ∃ f, Frame.parse raw = .ok f := by
  obtain ⟨tail, rfl⟩ := hhead
  have hmin : 13 ≤ (header ++ tail).length := by
    rw [hlen]
    simp only [v3HeaderLen, crcLen]
    omega
  rcases tail with _ | ⟨p, _ | ⟨b3, _ | ⟨b4, _ | ⟨b5, _ | ⟨b6, _ | ⟨b7, _ | ⟨b8, _ | ⟨b9, _ |
    ⟨b10, _ | ⟨b11, rest⟩⟩⟩⟩⟩⟩⟩⟩⟩⟩
  all_goals simp [header] at hmin
  simp only [header, v3LengthIndex, List.cons_append, List.nil_append, List.getElem?_cons_succ,
    List.getElem?_cons_zero, Option.some.injEq] at hlength
  simp only [header, v3HeaderLen, crcLen, List.cons_append, List.nil_append, List.length_cons] at hlen
  have hp : 5 ≤ p := by
    simpa [header, minProtocolType, UInt8.not_lt] using hproto
  unfold Frame.parse
  rw [dif_neg (by simp [header])]
  simp only [header, List.cons_append, List.nil_append, List.getElem_cons_zero, List.getElem_cons_succ,
    ge_iff_le, hp, if_true, v3HeaderLen, List.length_cons, hlength]
  rw [dif_neg (by omega), if_neg (by omega)]
  exact ⟨_, rfl⟩

theorem run_completed (buf : Bytes) (size : Nat) (h : header <+: buf)
    (hproto : ¬ ∃ proto ∈ buf[2]?, proto < minProtocolType) (hsize : declaredFrameLen buf = some size)
    (hlen : size ≤ buf.length) (htrailer : slice buf (size - trailer.length) size = trailer) :
    (frameScanner.run buf).1 ≠ [] := by
  have hb := declaredFrameLen_bounds buf size hsize
  obtain ⟨length, hget, hdecl⟩ := (declaredFrameLen_eq_some _ _).mp hsize
  have hindex : v3LengthIndex < size - trailer.length := by
    rw [trailer_length, v3LengthIndex]
    omega
  obtain ⟨f, hf⟩ : ∃ f, Frame.parse (buf.take (size - trailer.length)) = .ok f := by
    apply parse_ok _ length
    · apply List.prefix_take_iff.mpr
      exact ⟨h, by rw [header_length, trailer_length]; omega⟩
    · rwa [List.getElem?_take_of_lt (by rw [trailer_length]; omega)]
    · rw [List.getElem?_take_of_lt hindex, hget]
    · rw [List.length_take, trailer_length, v3HeaderLen, crcLen]
      omega
  have ht : turn buf = .next [f] (buf.drop size) := by
    rw [turn_of_header _ h, headerTurn_whole hproto hsize hlen htrailer, hf]
    rfl
  rw [run_next _ _ _ ht]
  simp

/-- A frame whose first bytes are all large: in the place of a length byte, each of them declares
more than has come. -/
def loudFrame : Frame where
  protocolType := 255
  subVersion := 255
  scene := 255
  groupId := 65535
  subOrg := 65535
  command := 255
  encrypt := 255
  data := []

theorem run_loudFrame : (frameScanner.run loudFrame.build).1 = [loudFrame] := by
  have hfits : RoundTrip.Fits loudFrame := by
    constructor <;> simp [loudFrame]
  have h := RoundTrip.run_frames [loudFrame] (by simpa using hfits)
  simp only [List.map_cons, List.map_nil, List.flatten_cons, List.flatten_nil, List.append_nil] at h
  rw [h]

theorem run_loudRest : (frameScanner.run (loudFrame.build.drop 1)).1 = [] := by
  have hs : skipTo header (loudFrame.build.drop 1) = none := by decide +kernel
  have ht := turn_eq (loudFrame.build.drop 1)
  rw [hs] at ht
  rw [run_stop _ _ ht]

theorem loudFrame_large (k : Nat) (hk : k < 10) :
    ∃ byte, loudFrame.build[k]? = some byte ∧ 90 ≤ byte.toNat := by
  have h : ∀ k < 10, 90 ≤ (loudFrame.build.getD k 0).toNat := by decide
  have hlen : k < loudFrame.build.length := by
    rw [show loudFrame.build.length = 15 by decide]
    omega
  refine ⟨loudFrame.build[k], List.getElem?_eq_getElem hlen, ?_⟩
  simpa [List.getD_eq_getElem?_getD, List.getElem?_eq_getElem hlen] using h k hk

/-- A partial frame whose length byte is still to come swallows it. -/
theorem run_swallows (buf : Bytes) (h : header <+: buf)
    (hproto : ¬ ∃ proto ∈ buf[2]?, proto < minProtocolType) (hlen : buf.length ≤ v3LengthIndex) :
    (frameScanner.run (buf ++ loudFrame.build)).1 = [] := by
  have hlen : buf.length ≤ 11 := hlen
  have h2 : 2 ≤ buf.length := h.length_le
  have hproto' : ¬ ∃ proto ∈ (buf ++ loudFrame.build)[2]?, proto < minProtocolType := by
    rcases Nat.lt_or_ge 2 buf.length with h3 | h3
    · rwa [List.getElem?_append_left h3]
    · rw [List.getElem?_append_right h3, show 2 - buf.length = 0 by omega]
      decide
  obtain ⟨byte, hbyte, hlarge⟩ := loudFrame_large (11 - buf.length) (by omega)
  have hsize : declaredFrameLen (buf ++ loudFrame.build) = some (15 + byte.toNat) := by
    rw [declaredFrameLen_eq_some]
    exact ⟨byte, by rw [v3LengthIndex, List.getElem?_append_right hlen, hbyte], rfl⟩
  have hshort : (buf ++ loudFrame.build).length < 15 + byte.toNat := by
    rw [List.length_append, show loudFrame.build.length = 15 by decide]
    omega
  have ht : turn (buf ++ loudFrame.build) = .stop (buf ++ loudFrame.build) := by
    rw [turn_of_header _ (h.trans (List.prefix_append _ _))]
    exact headerTurn_short hproto' hsize hshort
  rw [run_stop _ _ ht]

/-! ## Clean buffers -/

/-- Later bytes give the same frames as without the buffer. -/
def Silent (buf : Bytes) : Prop := ∀ c, c ≠ [] → (frameScanner.run (buf ++ c)).1 = (frameScanner.run c).1

theorem run_skip (buf rest c : Bytes) (h : skipTo header buf = some rest) :
    (frameScanner.run (buf ++ c)).1 = (frameScanner.run (rest ++ c)).1 := by
  apply run_frames_congr
  rw [skipTo_append _ _ _ c h,
    skipTo_self _ _ ((skipTo_starts _ _ _ h).trans (List.prefix_append _ _))]

theorem run_skip_none (init c : Bytes) (b : UInt8) (h : skipTo header (init ++ [b]) = none) :
    (frameScanner.run (init ++ [b] ++ c)).1 = (frameScanner.run (b :: c)).1 := by
  apply run_frames_congr
  rw [skipTo_append_of_none header _ c 1 (by simp [header]) h]
  simp

theorem silent_of_clean (buf : Bytes) (hclean : Clean buf) : Silent buf := by
  induction hn : buf.length using Nat.strongRecOn generalizing buf with
  | ind n ih =>
    intro c hc
    cases hs : skipTo header buf with
    | none =>
      rcases List.eq_nil_or_concat buf with rfl | ⟨init, b, rfl⟩
      · rfl
      · rw [List.concat_eq_append] at hclean hs ⊢
        have hb : 0x7F ≠ b := by
          rintro rfl
          exact hclean.last (by simp)
        rw [run_skip_none init c b hs]
        exact run_frames_congr _ _ (skipTo_cons_neg _ _ _ (by simp [header, List.cons_prefix_cons, hb]))
    | some s =>
      have hhead := skipTo_starts _ _ _ hs
      have hsuffix := skipTo_suffix _ _ _ hs
      have hlen : 2 ≤ s.length := hhead.length_le
      have hle := hsuffix.length_le
      rw [run_skip buf s c hs, run_givenUp s c hhead (hclean.headers s hsuffix hhead) hc]
      refine ih (s.drop header.length).length ?_ _ (clean_suffix buf _ hclean ?_) rfl c hc
      · rw [List.length_drop, header_length]
        omega
      · exact (List.drop_suffix _ _).trans hsuffix

theorem clean_of_rest (buf s : Bytes) (hs : skipTo header buf = some s) (hg : GivenUp s)
    (hrest : Clean (s.drop header.length)) : Clean buf := by
  obtain ⟨tail, rfl⟩ := skipTo_starts _ _ _ hs
  obtain ⟨before, rfl⟩ := skipTo_suffix _ _ _ hs
  rw [List.drop_left] at hrest
  constructor
  · rw [List.getLast?_append, List.getLast?_append]
    cases htail : tail.getLast? with
    | none => simp [header]
    | some b =>
      have hlast := hrest.last
      rw [htail] at hlast
      simpa using hlast
  · intro t ht hhead
    have ht' := skipTo_first _ _ _ t hs ht hhead
    rw [header, List.cons_append, List.cons_append, List.nil_append] at ht'
    rcases List.suffix_cons_iff.mp ht' with rfl | ht'
    · exact hg
    rcases List.suffix_cons_iff.mp ht' with rfl | ht'
    · simp [header] at hhead
    · exact hrest.headers t ht' hhead

theorem run_clean (buf c : Bytes) (hbuf : frameScanner.Settled buf) (hclean : Clean buf) :
    (frameScanner.run (buf ++ c)).1 = (frameScanner.run c).1 := by
  by_cases hc : c = []
  · have hempty : frameScanner.run [] = ([], []) := settled_new
    rw [hc, List.append_nil, show frameScanner.run buf = ([], buf) from hbuf, hempty]
  · exact silent_of_clean buf hclean c hc

/-- Bytes that make the buffer give a frame, and give none on their own. -/
theorem not_silent_of_completed (buf c : Bytes) (size : Nat) (h : header <+: buf)
    (hproto : ¬ ∃ proto ∈ buf[2]?, proto < minProtocolType) (hsize : declaredFrameLen buf = some size)
    (hlen : size ≤ (buf ++ c).length) (htrailer : slice (buf ++ c) (size - trailer.length) size = trailer)
    (hc : 0x7F ∉ c) (hne : c ≠ []) : ¬ Silent buf := by
  intro hsilent
  have hrun := hsilent c hne
  rw [run_no_header c hc] at hrun
  have h11 : 11 < buf.length := by
    obtain ⟨length, hget, -⟩ := (declaredFrameLen_eq_some _ _).mp hsize
    exact (List.getElem?_eq_some_iff.mp hget).1
  exact run_completed (buf ++ c) size (h.trans (List.prefix_append _ _))
    (mt (old_append buf c (by omega)).mp hproto) (declaredFrameLen_append buf c size hsize) hlen
    htrailer hrun

theorem slice_trailer (l : Bytes) :
    slice (l ++ trailer) ((l ++ trailer).length - trailer.length) (l ++ trailer).length = trailer := by
  rw [slice, List.take_length, List.length_append, Nat.add_sub_cancel, List.drop_left]

theorem not_silent_of_not_givenUp (buf : Bytes) (h : header <+: buf) (hg : ¬ GivenUp buf) :
    ¬ Silent buf := by
  obtain ⟨hproto, hsizes⟩ := not_or.mp hg
  cases hsize : declaredFrameLen buf with
  | none =>
    have hlen : buf.length ≤ v3LengthIndex := by
      rw [declaredFrameLen, Option.map_eq_none_iff] at hsize
      exact List.getElem?_eq_none_iff.mp hsize
    intro hsilent
    have hrun := hsilent loudFrame.build (by decide)
    rw [run_swallows buf h hproto hlen, run_loudFrame] at hrun
    cases hrun
  | some size =>
    obtain ⟨hbegun, htrailer⟩ := not_or.mp fun hor => hsizes ⟨size, hsize, hor⟩
    have hb := declaredFrameLen_bounds buf size hsize
    rcases Nat.lt_trichotomy size (buf.length + 1) with hlt | rfl | hgt
    · -- The frame is there already.
      have hlong : size ≤ buf.length := by omega
      refine not_silent_of_completed buf [0] size h hproto hsize ?_ ?_ (by decide) (by decide)
      · rw [List.length_append]
        omega
      · rw [slice, List.take_append_of_le_length hlong]
        exact not_not.mp fun hne => htrailer ⟨hlong, hne⟩
    · -- One byte is missing, and the trailer has begun.
      have hlast : buf.getLast? = some 0x0D := not_not.mp fun hne => hbegun ⟨rfl, hne⟩
      obtain ⟨init, rfl⟩ := List.getLast?_eq_some_iff.mp hlast
      have hfull : init ++ [0x0D] ++ [0x0A] = init ++ trailer := by simp [trailer]
      have hlen : (init ++ [0x0D]).length + 1 = (init ++ trailer).length := by simp [trailer]
      refine not_silent_of_completed _ [0x0A] _ h hproto hsize (by simp) ?_ (by decide) (by decide)
      rw [hfull, hlen]
      exact slice_trailer init
    · -- Two bytes or more are missing: they can be the trailer.
      let fill : Bytes := List.replicate (size - buf.length - 2) 0
      have hlen : (buf ++ fill ++ trailer).length = size := by
        simp [fill, trailer]
        omega
      refine not_silent_of_completed buf (fill ++ trailer) size h hproto hsize ?_ ?_ ?_ ?_
      · rw [← List.append_assoc, hlen]
      · rw [← List.append_assoc, ← hlen]
        exact slice_trailer _
      · simp [fill, trailer]
      · simp [trailer]

theorem clean_of_silent (buf : Bytes) (hsilent : Silent buf) : Clean buf := by
  induction hn : buf.length using Nat.strongRecOn generalizing buf with
  | ind n ih =>
    cases hs : skipTo header buf with
    | none =>
      refine ⟨?_, ?_⟩
      · -- The rest of a whole frame would complete the header.
        intro hlast
        obtain ⟨init, rfl⟩ := List.getLast?_eq_some_iff.mp hlast
        have hrun := hsilent (loudFrame.build.drop 1) (by decide)
        have hwhole : 0x7F :: loudFrame.build.drop 1 = loudFrame.build := by decide +kernel
        rw [run_skip_none init _ _ hs, hwhole, run_loudFrame, run_loudRest] at hrun
        cases hrun
      · intro s hsuffix hhead
        exact absurd (hhead.isInfix.trans hsuffix.isInfix) ((skipTo_eq_none _ _).mp hs)
    | some s =>
      have hhead := skipTo_starts _ _ _ hs
      have hsuffix := skipTo_suffix _ _ _ hs
      have hsilent' : Silent s := fun c hc => by rw [← run_skip buf s c hs, hsilent c hc]
      have hg : GivenUp s := not_not.mp fun hg => not_silent_of_not_givenUp s hhead hg hsilent'
      have hlen : 2 ≤ s.length := hhead.length_le
      have hle := hsuffix.length_le
      have hrest : Clean (s.drop header.length) := by
        refine ih _ ?_ _ (fun c hc => ?_) rfl
        · rw [List.length_drop, header_length]
          omega
        · rw [← run_givenUp s c hhead hg hc, hsilent' c hc]
      exact clean_of_rest buf s hs hg hrest

/-- **Exactly the clean buffers leave nothing behind.** -/
theorem clean_iff (buf : Bytes) : Clean buf ↔ Silent buf :=
  ⟨silent_of_clean buf, clean_of_silent buf⟩

end TtlockBle.Leftover
