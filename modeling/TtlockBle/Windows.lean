import TtlockBle.Code.KeepAlive

/-!
# Keep-alive windows

A `stop` clears the field after its `await`, whatever is in it by then. A window that was started
during the wait is live and no longer tracked, and the next `restart` adds a second one.
-/

open TtlockBle.Lib

namespace TtlockBle.Windows

open KeepAlive

/-- Neither finished nor cancelled. -/
def Live (s : KeepAlive) (w : Nat) : Prop := s.windows[w]? = some .running

structure OneWindow (windowSeconds : Rat) (s : KeepAlive) : Prop where
  single : ∀ w w', Live s w → Live s w' → w = w'
  tracked : ∀ w, Live s w → s.task = some w
  cancels : ∀ e s' w, e = .restart ∨ e = .stop → step windowSeconds s e = some s' → Live s w → ¬ Live s' w

/-- A `stop` that goes on does not find a live window in the field. -/
def FindsNone (s : KeepAlive) (e : KeepAliveEvent) : Prop :=
  ∀ i, e = .stopResumed i → ∀ w, s.task = some w → ¬ Live s w

/-! ## What a step leaves alive -/

structure Tracked (windowSeconds : Rat) (s : KeepAlive) : Prop where
  tracked : ∀ w, Live s w → s.task = some w
  disabled : windowSeconds ≤ 0 → s.windows = []

variable {windowSeconds : Rat} {s s' : KeepAlive}

theorem live_lt {w : Nat} (h : Live s w) : w < s.windows.length := (List.getElem?_eq_some_iff.mp h).1

theorem live_cancel (v w : Nat) : Live (s.cancel w) v ↔ Live s v ∧ v ≠ w := by
  unfold Live KeepAlive.cancel
  rw [List.getElem?_modify]
  by_cases hvw : w = v
  · subst hvw
    cases hw : s.windows[w]? with
    | none => simp
    | some window => cases window <;> simp [Window.cancel]
  · simp [hvw, Ne.symm hvw]

theorem pending_eq {w : Nat} (htask : s.task = some w) (h : Live s w) : s.pending = some w := by
  unfold pending
  rw [htask, Option.filter_some, h]
  rfl

theorem live_restart (h : ¬ windowSeconds ≤ 0) (v : Nat) :
    Live (s.restart windowSeconds) v ↔ v = s.windows.length ∨ (Live s v ∧ s.pending ≠ some v) := by
  have hnew (t : KeepAlive) :
      Live { t with windows := t.windows ++ [.running], task := some t.windows.length } v ↔
        v = t.windows.length ∨ Live t v := by
    unfold Live
    rcases Nat.lt_trichotomy v t.windows.length with hlt | rfl | hgt
    · rw [List.getElem?_append_left hlt]
      simp [Nat.ne_of_lt hlt]
    · simp
    · rw [List.getElem?_append_right (Nat.le_of_lt hgt), List.getElem?_eq_none (by simp; omega)]
      simp [Nat.ne_of_gt hgt, List.getElem?_eq_none (Nat.le_of_lt hgt)]
  unfold restart
  rw [if_neg h]
  cases hp : s.pending with
  | none => simpa using hnew s
  | some w =>
    have hlength : (s.cancel w).windows.length = s.windows.length := List.length_modify _ _ _
    simpa [live_cancel, hlength, eq_comm] using hnew (s.cancel w)

theorem live_stop (v : Nat) : Live s.stop v ↔ Live s v ∧ s.pending ≠ some v := by
  unfold stop
  cases hp : s.pending with
  | none => simp
  | some w => exact (live_cancel v w).trans (and_congr_right fun _ => by simp [eq_comm])

theorem live_finish (w : Nat) (outcome : Window) (hdone : outcome.done) (hs : s.finish w outcome = some s') :
    s'.task = s.task ∧ ∀ v, Live s' v ↔ Live s v ∧ v ≠ w := by
  unfold finish at hs
  split at hs
  · rename_i window hw
    split at hs
    · cases hs
    · obtain rfl := Option.some.inj hs
      refine ⟨rfl, fun v => ?_⟩
      unfold Live
      rw [List.getElem?_set]
      by_cases hvw : w = v
      · subst hvw
        rw [if_pos rfl, if_pos (List.getElem?_eq_some_iff.mp hw).1]
        cases outcome <;> simp_all [Window.done]
      · rw [if_neg hvw]
        simp [Ne.symm hvw]
  · cases hs

theorem tracked_start : Tracked windowSeconds (machine windowSeconds).start := by
  refine ⟨fun w hw => ?_, fun _ => rfl⟩
  simp [Live, machine] at hw

theorem oneWindow_of_tracked (h : Tracked windowSeconds s) : OneWindow windowSeconds s := by
  constructor
  · intro w w' hw hw'
    exact Option.some.inj ((h.tracked w hw).symm.trans (h.tracked w' hw'))
  · exact h.tracked
  · rintro e s' w (rfl | rfl) hs hw hw'
    · obtain rfl := Option.some.inj hs
      by_cases hdisabled : windowSeconds ≤ 0
      · simp [Live, h.disabled hdisabled] at hw
      · rcases (live_restart hdisabled w).mp hw' with rfl | ⟨-, hpending⟩
        · exact absurd (live_lt hw) (Nat.lt_irrefl _)
        · exact hpending (pending_eq (h.tracked w hw) hw)
    · obtain rfl := Option.some.inj hs
      exact ((live_stop w).mp hw').2 (pending_eq (h.tracked w hw) hw)

/-! ## One step -/

theorem tracked_restart (h : Tracked windowSeconds s) : Tracked windowSeconds (s.restart windowSeconds) := by
  by_cases hdisabled : windowSeconds ≤ 0
  · unfold restart
    rwa [if_pos hdisabled]
  · refine ⟨fun v hv => ?_, fun h => absurd h hdisabled⟩
    rcases (live_restart hdisabled v).mp hv with rfl | ⟨hlive, hpending⟩
    · unfold restart
      rw [if_neg hdisabled]
      cases s.pending with
      | none => rfl
      | some w => exact congrArg some (List.length_modify _ _ _)
    · exact absurd (pending_eq (h.tracked v hlive) hlive) hpending

theorem tracked_stop (h : Tracked windowSeconds s) : Tracked windowSeconds s.stop := by
  constructor
  · intro v hv
    obtain ⟨hlive, hpending⟩ := (live_stop v).mp hv
    exact absurd (pending_eq (h.tracked v hlive) hlive) hpending
  · intro hdisabled
    unfold stop
    cases s.pending with
    | none => exact h.disabled hdisabled
    | some w =>
      show s.windows.modify w Window.cancel = []
      rw [h.disabled hdisabled]
      cases w <;> rfl

theorem tracked_finish (w : Nat) (outcome : Window) (hdone : outcome.done) (hs : s.finish w outcome = some s')
    (h : Tracked windowSeconds s) : Tracked windowSeconds s' := by
  obtain ⟨htask, hlive⟩ := live_finish w outcome hdone hs
  constructor
  · intro v hv
    rw [htask]
    exact h.tracked v ((hlive v).mp hv).1
  · intro hdisabled
    simp [finish, h.disabled hdisabled] at hs

theorem stopResumed_cases (i : Nat) (hs : step windowSeconds s (.stopResumed i) = some s') :
    ∃ w, s.stops[i]? = some w ∧ s.windows[w]?.any Window.done ∧
      s' = { s with task := none, stops := s.stops.eraseIdx i } := by
  simp only [step] at hs
  split at hs
  · rename_i w hw
    split at hs
    · exact ⟨w, hw, ‹_›, (Option.some.inj hs).symm⟩
    · cases hs
  · cases hs

theorem tracked_step (s : KeepAlive) (e : KeepAliveEvent) (s' : KeepAlive) (h : Tracked windowSeconds s)
    (hs : step windowSeconds s e = some s') (hfinds : FindsNone s e) : Tracked windowSeconds s' := by
  cases e with
  | restart =>
    obtain rfl := Option.some.inj hs
    exact tracked_restart h
  | stop =>
    obtain rfl := Option.some.inj hs
    exact tracked_stop h
  | stopResumed i =>
    obtain ⟨w, -, -, rfl⟩ := stopResumed_cases i hs
    exact ⟨fun v hv => absurd hv (hfinds i rfl v (h.tracked v hv)), h.disabled⟩
  | finished w => exact tracked_finish w .finished rfl hs h
  | cancelled w => exact tracked_finish w .cancelled rfl hs h

theorem oneWindow_step (s : KeepAlive) (e : KeepAliveEvent) (s' : KeepAlive) (h : Tracked windowSeconds s)
    (hs : step windowSeconds s e = some s') : OneWindow windowSeconds s' ↔ FindsNone s e := by
  constructor
  · rintro h' i rfl w htask hlive
    obtain ⟨_, -, -, rfl⟩ := stopResumed_cases i hs
    have := h'.tracked w hlive
    cases this
  · intro hfinds
    exact oneWindow_of_tracked (tracked_step s e s' h hs hfinds)

/-! ## A run -/

/-- **One window, and the tracked one**, all along a run in which no `stop` goes on while the window
in the field is live. -/
theorem oneWindow_iff (windowSeconds : Rat) (es : List KeepAliveEvent) (s : KeepAlive)
    (hrun : (machine windowSeconds).Reaches es s) :
    (machine windowSeconds).Always (OneWindow windowSeconds) es ↔
      (machine windowSeconds).EveryStep FindsNone es :=
  (machine windowSeconds).always_iff tracked_start (oneWindow_of_tracked tracked_start) tracked_step
    oneWindow_step hrun

theorem oneWindow_iff_stopped :
    (machine 25).Always (OneWindow 25) [.restart, .stop, .cancelled 0, .stopResumed 0] ↔
      (machine 25).EveryStep FindsNone [.restart, .stop, .cancelled 0, .stopResumed 0] :=
  oneWindow_iff 25 _ ⟨[.cancelled], none, []⟩ (by decide)

/-- An unlock ends while a disconnect waits for the window before, and then another one. -/
theorem two_windows :
    ∃ s, (machine 25).Reaches [.restart, .stop, .restart, .cancelled 0, .stopResumed 0, .restart] s ∧
      Live s 1 ∧ Live s 2 ∧ s.task = some 2 ∧
      ¬ (machine 25).Always (OneWindow 25) [.restart, .stop, .restart, .cancelled 0, .stopResumed 0, .restart] := by
  have hrun : (machine 25).Reaches [.restart, .stop, .restart, .cancelled 0, .stopResumed 0, .restart]
      ⟨[.cancelled, .running, .running], some 2, []⟩ := by decide
  refine ⟨_, hrun, rfl, rfl, rfl, fun halways => ?_⟩
  have hsingle := (halways _ _ (List.prefix_refl _) hrun).single 1 2 rfl rfl
  cases hsingle

end TtlockBle.Windows
