import TtlockBle.Code.DeviceFinder

/-!
# The device of a scan

The first detection that matches either way is the result, so a neighbour whose name matches and
which is heard first is taken for the lock.
-/

open TtlockBle.Lib

namespace TtlockBle.Neighbours

open DeviceFinder

def HasAddress (strings : CaseMapping) (target : String) (d : Detection) : Prop :=
  strings.upper d.dev.address = target

def Named (strings : CaseMapping) (suffix : String) (d : Detection) : Prop :=
  suffix.toList <:+: (strings.lower d.name).toList

def Matches (strings : CaseMapping) (target suffix : String) (d : Detection) : Prop :=
  HasAddress strings target d ∨ Named strings suffix d

instance (strings : CaseMapping) (target suffix : String) : DecidablePred (Matches strings target suffix) :=
  fun d => inferInstanceAs (Decidable (strings.upper d.dev.address = target ∨
    suffix.toList <:+: (strings.lower d.name).toList))

structure ExactWins (strings : CaseMapping) (target suffix : String) (ds : List Detection)
    (result : Option BLEDevice) : Prop where
  exact : (∃ d ∈ ds, HasAddress strings target d) → ∃ d ∈ ds, HasAddress strings target d ∧ result = some d.dev
  named : ∀ dev, result = some dev → strings.upper dev.address ≠ target →
    (∃ d ∈ ds, Named strings suffix d ∧ d.dev = dev) ∧ ∀ d ∈ ds, ¬ HasAddress strings target d
  none : result = none ↔ ∀ d ∈ ds, ¬ Matches strings target suffix d

/-- Before a device with the address, no other is matched by its name, unless one with the address
comes even earlier. -/
def NoneOvertaken (strings : CaseMapping) (target suffix : String) (ds : List Detection) : Prop :=
  ∀ before d after, ds = before ++ d :: after → Named strings suffix d → ¬ HasAddress strings target d →
    (∃ d' ∈ after, HasAddress strings target d') → ∃ d' ∈ before, HasAddress strings target d'

/-! ## The first match -/

section First

variable (strings : CaseMapping) (target suffix : String) (ds : List Detection)

def firstMatch : Option Detection := ds.find? (Matches strings target suffix ·)

theorem address_of_exactWins {first : Detection}
    (hwins : ExactWins strings target suffix ds (some first.dev)) (h : ∃ d ∈ ds, HasAddress strings target d) :
    HasAddress strings target first := by
  obtain ⟨d, -, haddress, hd⟩ := hwins.exact h
  unfold HasAddress at haddress ⊢
  rwa [Option.some.inj hd]

theorem noneOvertaken_of_exactWins
    (hwins : ExactWins strings target suffix ds ((firstMatch strings target suffix ds).map (·.dev))) :
    NoneOvertaken strings target suffix ds := by
  rintro before d after rfl hnamed hother ⟨d', hd', haddress⟩
  have hd : Matches strings target suffix d := Or.inr hnamed
  cases hbefore : before.find? (Matches strings target suffix ·) with
  | none =>
    have hfirst : firstMatch strings target suffix (before ++ d :: after) = some d := by
      simp [firstMatch, List.find?_append, hbefore, hd]
    rw [hfirst] at hwins
    exact absurd (address_of_exactWins strings target suffix _ hwins ⟨d', by simp [hd'], haddress⟩) hother
  | some first =>
    have hfirst : firstMatch strings target suffix (before ++ d :: after) = some first := by
      simp [firstMatch, List.find?_append, hbefore]
    rw [hfirst] at hwins
    exact ⟨first, List.mem_of_find?_eq_some hbefore,
      address_of_exactWins strings target suffix _ hwins ⟨d', by simp [hd'], haddress⟩⟩

theorem exactWins_of_noneOvertaken (h : NoneOvertaken strings target suffix ds) :
    ExactWins strings target suffix ds ((firstMatch strings target suffix ds).map (·.dev)) := by
  cases hfirst : firstMatch strings target suffix ds with
  | none =>
    have hnone : ∀ d ∈ ds, ¬ Matches strings target suffix d := by
      simpa [firstMatch] using hfirst
    constructor
    · rintro ⟨d, hd, haddress⟩
      exact absurd (Or.inl haddress) (hnone d hd)
    · intro dev hdev
      cases hdev
    · simpa using hnone
  | some first =>
    obtain ⟨hmatches, before, after, hds, hbefore⟩ := List.find?_eq_some_iff_append.mp hfirst
    have hmatches : Matches strings target suffix first := by simpa using hmatches
    have hbefore : ∀ d ∈ before, ¬ Matches strings target suffix d := by simpa using hbefore
    have hmem : first ∈ ds := by simp [hds]
    have hsome : (some first.dev = none) ↔ ∀ d ∈ ds, ¬ Matches strings target suffix d :=
      ⟨fun h => (Option.some_ne_none _ h).elim, fun h => absurd hmatches (h first hmem)⟩
    by_cases haddress : HasAddress strings target first
    · refine ⟨fun _ => ⟨first, hmem, haddress, rfl⟩, ?_, hsome⟩
      rintro dev ⟨⟩ hne
      exact absurd haddress hne
    · have hnamed : Named strings suffix first := hmatches.resolve_left haddress
      have hothers : ∀ d ∈ ds, ¬ HasAddress strings target d := by
        intro d hd hd'
        have hold : ∀ d ∈ before, ¬ HasAddress strings target d := fun d hd h => hbefore d hd (Or.inl h)
        rw [hds] at hd
        rcases List.mem_append.mp hd with hd | hd
        · exact hold d hd hd'
        · rcases List.mem_cons.mp hd with rfl | hd
          · exact haddress hd'
          · obtain ⟨d₁, hd₁, h₁⟩ := h before first after hds hnamed haddress ⟨d, hd, hd'⟩
            exact hold d₁ hd₁ h₁
      refine ⟨?_, ?_, hsome⟩
      · rintro ⟨d, hd, hd'⟩
        exact absurd hd' (hothers d hd)
      · rintro dev ⟨⟩ -
        exact ⟨⟨first, hmem, hnamed, rfl⟩, hothers⟩

end First

/-! ## The scan -/

def detections (es : List ScanEvent) : List Detection :=
  es.filterMap fun
    | .detection d => some d
    | _ => none

/-- The callback fills in the first match. -/
structure Scanned (strings : CaseMapping) (start : DeviceFinder) (ds : List Detection) (s : DeviceFinder) :
    Prop where
  target : s.target = start.target
  suffix : s.suffixBytes = start.suffixBytes
  found : s.found = (firstMatch strings start.target start.suffixBytes ds).toList.map (·.dev)

theorem find_isSome {α : Type} [DecidableEq α] (sub l : List α) : (find sub l).isSome ↔ sub <:+: l := by
  have h := not_congr (find_eq_none sub l)
  rwa [not_not, ← ne_eq, Option.ne_none_iff_isSome] at h

theorem onDetection_eq (strings : CaseMapping) (s : DeviceFinder) (d : Detection) :
    s.onDetection strings d =
      if Matches strings s.target s.suffixBytes d ∧ s.found = [] then { s with found := [d.dev] } else s := by
  unfold onDetection
  simp only [find_isSome]
  show (if Matches strings s.target s.suffixBytes d ∧ s.found = [] then _ else s) = _
  split
  · rename_i h
    rw [h.2]
    rfl
  · rfl

theorem firstMatch_concat (strings : CaseMapping) (target suffix : String) (ds : List Detection) (d : Detection) :
    firstMatch strings target suffix (ds ++ [d]) =
      (firstMatch strings target suffix ds).or (if Matches strings target suffix d then some d else none) := by
  unfold firstMatch
  rw [List.find?_append, List.find?_cons, List.find?_nil]
  by_cases h : Matches strings target suffix d <;> simp [h]

theorem scanned_detection (strings : CaseMapping) (start s : DeviceFinder) (ds : List Detection) (d : Detection)
    (h : Scanned strings start ds s) : Scanned strings start (ds ++ [d]) (s.onDetection strings d) := by
  have hfound := h.found
  rw [onDetection_eq, h.target, h.suffix]
  cases hfirst : firstMatch strings start.target start.suffixBytes ds with
  | some first =>
    rw [hfirst] at hfound
    rw [if_neg fun hnew => by rw [hnew.2] at hfound; cases hfound]
    refine ⟨h.target, h.suffix, ?_⟩
    rw [hfound, firstMatch_concat, hfirst, Option.some_or]
  | none =>
    rw [hfirst] at hfound
    by_cases hd : Matches strings start.target start.suffixBytes d
    · rw [if_pos ⟨hd, hfound⟩]
      refine ⟨rfl, rfl, ?_⟩
      rw [firstMatch_concat, hfirst, if_pos hd]
      rfl
    · rw [if_neg fun hnew => hd hnew.1]
      refine ⟨h.target, h.suffix, ?_⟩
      rw [firstMatch_concat, hfirst, if_neg hd]
      exact hfound

theorem scanned_run (strings : CaseMapping) (start s : DeviceFinder) (es : List ScanEvent)
    (hstart : start.found = []) (hrun : (machine strings start).Reaches es s) :
    Scanned strings start (detections es) s := by
  refine Machine.run_history _ (I := fun es s => Scanned strings start (detections es) s)
    ⟨rfl, rfl, hstart⟩ ?_ hrun
  intro es s e s' _ h hs
  cases e with
  | detection d =>
    simp only [machine, step] at hs
    split at hs
    · cases hs
    · obtain rfl := Option.some.inj hs
      simpa [detections] using scanned_detection strings start s (detections es) d h
  | polled now =>
    have hds : detections (es ++ [.polled now]) = detections es := by simp [detections]
    rw [hds]
    simp only [machine, step] at hs
    split at hs
    · split at hs <;> obtain rfl := Option.some.inj hs <;> exact ⟨h.target, h.suffix, h.found⟩
    · cases hs
  | stopped =>
    have hds : detections (es ++ [.stopped]) = detections es := by simp [detections]
    rw [hds]
    simp only [machine, step] at hs
    split at hs
    · obtain rfl := Option.some.inj hs
      exact ⟨h.target, h.suffix, h.found⟩
    · cases hs

theorem findLockDevice_ok (strings : CaseMapping) (mac : String) (scanTimeout now : Rat) (start : DeviceFinder)
    (h : findLockDevice strings mac scanTimeout now = .ok start) :
    start.target = strings.upper mac ∧ start.found = [] := by
  unfold findLockDevice at h
  simp only at h
  cases hbytes : fromhex ((strings.upper mac).toList.filter (· ≠ ':')) with
  | error e =>
    rw [hbytes] at h
    cases h
  | ok bytes =>
    rw [hbytes] at h
    obtain rfl := Except.ok.inj h
    exact ⟨rfl, rfl⟩

theorem result_eq (strings : CaseMapping) (mac : String) (scanTimeout now : Rat) (start s : DeviceFinder)
    (es : List ScanEvent) (result : Option BLEDevice)
    (hstart : findLockDevice strings mac scanTimeout now = .ok start)
    (hrun : (machine strings start).Reaches es s) (hresult : s.result = some result) :
    result = (firstMatch strings (strings.upper mac) start.suffixBytes (detections es)).map (·.dev) := by
  obtain ⟨htarget, hfound⟩ := findLockDevice_ok strings mac scanTimeout now start hstart
  unfold DeviceFinder.result at hresult
  split at hresult
  · rw [← Option.some.inj hresult, (scanned_run strings start s es hfound hrun).found, htarget]
    cases firstMatch strings (strings.upper mac) start.suffixBytes (detections es) <;> rfl
  · cases hresult

/-! ## Two devices -/

def asciiStrings : CaseMapping where
  upper s := String.ofList (s.toList.map Char.toUpper)
  lower s := String.ofList (s.toList.map Char.toLower)

def lock : Detection := ⟨⟨"aa:bb:cc:11:22:33", some "DLock-XP"⟩, ⟨none⟩⟩

/-- Its address is another one, and it has the three last octets in its name. -/
def neighbour : Detection := ⟨⟨"AA:BB:CC:DD:EE:FF", some "S534_332211"⟩, ⟨none⟩⟩

def scanStart : DeviceFinder := ⟨"AA:BB:CC:11:22:33", "332211", [], 10, .scanning⟩

theorem findLockDevice_scanStart :
    findLockDevice asciiStrings "aa:bb:cc:11:22:33" 10 0 = .ok scanStart := by
  decide +kernel

/-- **An exact address wins over a name**, unless the name is heard first. -/
theorem exactWins_iff (strings : CaseMapping) (mac : String) (scanTimeout now : Rat) (start s : DeviceFinder)
    (es : List ScanEvent) (result : Option BLEDevice)
    (hstart : findLockDevice strings mac scanTimeout now = .ok start)
    (hrun : (machine strings start).Reaches es s) (hresult : s.result = some result) :
    ExactWins strings (strings.upper mac) start.suffixBytes (detections es) result ↔
      NoneOvertaken strings (strings.upper mac) start.suffixBytes (detections es) := by
  rw [result_eq strings mac scanTimeout now start s es result hstart hrun hresult]
  exact ⟨noneOvertaken_of_exactWins strings _ start.suffixBytes (detections es),
    exactWins_of_noneOvertaken strings _ start.suffixBytes (detections es)⟩

theorem exactWins_iff_lock :
    ExactWins asciiStrings (asciiStrings.upper "aa:bb:cc:11:22:33") scanStart.suffixBytes
        (detections [.detection lock, .polled 1, .stopped]) (some lock.dev) ↔
      NoneOvertaken asciiStrings (asciiStrings.upper "aa:bb:cc:11:22:33") scanStart.suffixBytes
        (detections [.detection lock, .polled 1, .stopped]) :=
  exactWins_iff asciiStrings "aa:bb:cc:11:22:33" 10 0 scanStart
    { scanStart with found := [lock.dev], phase := .returned } [.detection lock, .polled 1, .stopped] (some lock.dev)
    findLockDevice_scanStart (by decide +kernel) rfl

/-- Both are heard before the next poll, and the neighbour's device is returned. -/
theorem neighbour_returned :
    findLockDevice asciiStrings "aa:bb:cc:11:22:33" 10 0 = .ok scanStart ∧
    ∃ s, (machine asciiStrings scanStart).Reaches [.detection neighbour, .detection lock, .polled 1, .stopped] s ∧
      s.result = some (some neighbour.dev) ∧ HasAddress asciiStrings (asciiStrings.upper "aa:bb:cc:11:22:33") lock ∧
      ¬ ExactWins asciiStrings (asciiStrings.upper "aa:bb:cc:11:22:33") scanStart.suffixBytes [neighbour, lock]
        (some neighbour.dev) := by
  have haddress : HasAddress asciiStrings (asciiStrings.upper "aa:bb:cc:11:22:33") lock := by
    show _ = _
    decide +kernel
  refine ⟨findLockDevice_scanStart, { scanStart with found := [neighbour.dev], phase := .returned },
    by decide +kernel, rfl, haddress, fun h => ?_⟩
  obtain ⟨-, hothers⟩ := h.named neighbour.dev rfl (by decide +kernel)
  exact hothers lock (by simp) haddress

end TtlockBle.Neighbours
