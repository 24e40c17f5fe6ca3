import Mathlib.Data.List.Basic

/-!
# Incremental scanners

A scanner looks at the front of a buffer. It either consumes something, possibly with output, or
waits for more input. What it decided on a buffer it decides again when the buffer has grown, and
that is all it takes for the chunks of a stream not to matter.
-/

namespace TtlockBle.Lib

/-- One decision: wait with `rest` in the buffer, or go on with `rest`. -/
inductive Scan (α β : Type) where
  | wait (rest : List α)
  | more (out : List β) (rest : List α)

structure Scanner (α β : Type) where
  scan : List α → Scan α β
  shrinks : ∀ {b out rest}, scan b = .more out rest → rest.length < b.length
  more_append : ∀ {b out rest} c, scan b = .more out rest → scan (b ++ c) = .more out (rest ++ c)
  wait_append : ∀ {b rest} c, scan b = .wait rest → scan (b ++ c) = scan (rest ++ c)

namespace Scanner

variable {α β : Type} (s : Scanner α β)

def run (b : List α) : List β × List α :=
  match _h : s.scan b with
  | .wait rest => ([], rest)
  | .more out rest => (out ++ (run rest).1, (run rest).2)
termination_by b.length
decreasing_by all_goals exact s.shrinks _h

theorem run_of_wait {b rest : List α} (h : s.scan b = .wait rest) : s.run b = ([], rest) := by
  unfold run
  split <;> simp_all

theorem run_of_more {b rest : List α} {out : List β} (h : s.scan b = .more out rest) :
    s.run b = (out ++ (s.run rest).1, (s.run rest).2) := by
  rw [run]
  split <;> simp_all

theorem run_congr {b b' : List α} (h : s.scan b = s.scan b') : s.run b = s.run b' := by
  cases hb : s.scan b' with
  | wait rest => rw [s.run_of_wait hb, s.run_of_wait (h.trans hb)]
  | more out rest => rw [s.run_of_more hb, s.run_of_more (h.trans hb)]

/-- Induction on the decisions of a run. -/
theorem run_induction {P : List α → Prop} (wait : ∀ b rest, s.scan b = .wait rest → P b)
    (more : ∀ b out rest, s.scan b = .more out rest → P rest → P b) (b : List α) : P b := by
  induction hn : b.length using Nat.strongRecOn generalizing b with
  | _ n ih =>
    cases hb : s.scan b with
    | wait rest => exact wait b rest hb
    | more out rest => exact more b out rest hb (ih _ (hn ▸ s.shrinks hb) rest rfl)

theorem run_forall {P : β → Prop} (hscan : ∀ b out rest, s.scan b = .more out rest → ∀ x ∈ out, P x)
    (b : List α) : ∀ x ∈ (s.run b).1, P x := by
  induction b using s.run_induction with
  | wait b rest h => simp [s.run_of_wait h]
  | more b out rest h ih =>
    rw [s.run_of_more h]
    intro x hx
    rcases List.mem_append.mp hx with hx | hx
    · exact hscan b out rest h x hx
    · exact ih x hx

/-- `Goes b outs b'`: from `b` the decisions to go on, with these outputs, lead to `b'`. -/
inductive Goes : List α → List (List β) → List α → Prop where
  | here (b) : Goes b [] b
  | more {b out rest outs last} : s.scan b = .more out rest → Goes rest outs last → Goes b (out :: outs) last

theorem Goes.length_le {s : Scanner α β} {b last : List α} {outs : List (List β)} (h : s.Goes b outs last) :
    outs.length + last.length ≤ b.length := by
  induction h with
  | here b => simp
  | more hscan _ ih =>
    have := s.shrinks hscan
    rw [List.length_cons]
    omega

theorem Goes.run_eq {s : Scanner α β} {b last : List α} {outs : List (List β)} (h : s.Goes b outs last) :
    s.run b = (outs.flatten ++ (s.run last).1, (s.run last).2) := by
  induction h with
  | here b => rfl
  | more hscan _ ih => rw [s.run_of_more hscan, ih, List.flatten_cons, List.append_assoc]

theorem exists_goes (b : List α) :
    ∃ outs last, s.Goes b outs last ∧ s.scan last = .wait (s.run b).2 ∧ (s.run b).1 = outs.flatten := by
  induction b using s.run_induction with
  | wait b rest h =>
    refine ⟨[], b, .here b, ?_, ?_⟩
    · rw [h, s.run_of_wait h]
    · rw [s.run_of_wait h]
      rfl
  | more b out rest h ih =>
    obtain ⟨outs, last, hgoes, hlast, hout⟩ := ih
    refine ⟨out :: outs, last, .more h hgoes, ?_, ?_⟩
    · rw [hlast, s.run_of_more h]
    · rw [s.run_of_more h, hout]
      rfl

/-- Running on `b ++ c` is running on `b`, then on what is left of it and `c`. -/
theorem run_append (b c : List α) :
    s.run (b ++ c) =
      ((s.run b).1 ++ (s.run ((s.run b).2 ++ c)).1, (s.run ((s.run b).2 ++ c)).2) := by
  induction b using s.run_induction with
  | wait b rest h =>
    rw [s.run_of_wait h, s.run_congr (s.wait_append c h)]
    rfl
  | more b out rest h ih =>
    rw [s.run_of_more h, s.run_of_more (s.more_append c h), ih, List.append_assoc]

/-! ## Feeding -/

/-- A buffer on which the scanner waits and has nothing left to trim. -/
def Settled (b : List α) : Prop := s.run b = ([], b)

theorem settled_run (b : List α) : s.Settled (s.run b).2 := by
  have h := s.run_append b []
  simp only [List.append_nil] at h
  have h1 : (s.run (s.run b).2).1 = [] := by simpa using congrArg Prod.fst h
  exact Prod.ext h1 (congrArg Prod.snd h).symm

def feed (b chunk : List α) : List β × List α := s.run (b ++ chunk)

def feedAll (b : List α) : List (List α) → List β × List α
  | [] => ([], b)
  | c :: cs => ((s.feed b c).1 ++ (feedAll (s.feed b c).2 cs).1, (feedAll (s.feed b c).2 cs).2)

/-- **Chunk invariance.** Only the bytes matter, not how they are cut. -/
theorem feedAll_flatten (b : List α) (hb : s.Settled b) (chunks : List (List α)) :
    s.feedAll b chunks = s.feed b chunks.flatten := by
  induction chunks generalizing b with
  | nil => rw [feedAll, feed, List.flatten_nil, List.append_nil, hb]
  | cons c cs ih =>
    have hrest : s.Settled (s.feed b c).2 := s.settled_run (b ++ c)
    rw [feedAll, ih _ hrest, List.flatten_cons, feed, feed, feed, ← List.append_assoc,
      s.run_append (b ++ c)]

/-! ## Input on its way -/

/-- With the input that is on its way, the scanner has exactly these items to give, and nothing is left over. -/
structure Carries (b rest : List α) (items : List β) : Prop where
  settled : s.Settled b
  gives : s.run (b ++ rest) = (items, [])

section Carries

variable {s} {b rest : List α} {items : List β}

theorem Carries.feed {chunk : List α} (h : s.Carries b (chunk ++ rest) items) :
    ∃ later, items = (s.feed b chunk).1 ++ later ∧ s.Carries (s.feed b chunk).2 rest later := by
  have hgives := h.gives
  rw [← List.append_assoc, s.run_append (b ++ chunk)] at hgives
  obtain ⟨hitems, hend⟩ := Prod.mk.inj hgives
  exact ⟨_, hitems.symm, s.settled_run (b ++ chunk), Prod.ext rfl hend⟩

theorem Carries.send (h : s.Carries b rest items) {word : List α} {more : List β} (hword : s.run word = (more, [])) :
    s.Carries b (rest ++ word) (items ++ more) := by
  refine ⟨h.settled, ?_⟩
  rw [← List.append_assoc, s.run_append (b ++ rest), h.gives, List.nil_append, hword]

theorem Carries.arrived (h : s.Carries b [] items) : b = [] ∧ items = [] := by
  have hgives := h.gives
  rw [List.append_nil, h.settled] at hgives
  exact (Prod.mk.inj hgives).symm.imp id Eq.symm

theorem carries_nil (h : s.Settled []) : s.Carries [] [] [] := ⟨h, h⟩

end Carries

end Scanner

/-! ## Where the output comes from -/

/-- The items occur in the stream one after another, each as a word of its own. -/
inductive InOrder {α β : Type} (word : β → List α → Prop) : List β → List α → Prop where
  | nil (stream : List α) : InOrder word [] stream
  | cons (before : List α) {item : β} {items : List β} {w rest : List α} :
      word item w → InOrder word items rest → InOrder word (item :: items) (before ++ (w ++ rest))

namespace InOrder

variable {α β : Type} {word : β → List α → Prop} {items later : List β} {stream rest : List α}

theorem skip (h : InOrder word items stream) (before : List α) : InOrder word items (before ++ stream) := by
  cases h with
  | nil => exact .nil _
  | cons b hw hrest =>
    rw [← List.append_assoc]
    exact .cons (before ++ b) hw hrest

theorem append (h : InOrder word items stream) (hl : InOrder word later rest) :
    InOrder word (items ++ later) (stream ++ rest) := by
  induction h with
  | nil stream => exact hl.skip stream
  | cons before hw _ ih =>
    rw [List.cons_append, List.append_assoc, List.append_assoc]
    exact .cons before hw ih

theorem exists_word (h : InOrder word items stream) {item : β} (hmem : item ∈ items) :
    ∃ w, word item w ∧ w <:+: stream := by
  induction h with
  | nil => cases hmem
  | @cons before _ _ w rest hw _ ih =>
    rcases List.mem_cons.mp hmem with rfl | hmem
    · exact ⟨w, hw, before, rest, by rw [List.append_assoc]⟩
    · obtain ⟨w', hw', hin⟩ := ih hmem
      refine ⟨w', hw', hin.trans ?_⟩
      exact ((List.suffix_append w rest).trans (List.suffix_append before _)).isInfix

end InOrder

namespace Scanner

variable {α β : Type} (s : Scanner α β) {word : β → List α → Prop}

/-- If what a scanner gives out lies in what it consumes, the output of a run lies in the input. -/
theorem run_inOrder
    (hscan : ∀ b out rest, s.scan b = .more out rest → ∃ front, InOrder word out front ∧ b = front ++ rest)
    (b : List α) : InOrder word (s.run b).1 b := by
  induction b using s.run_induction with
  | wait b rest h =>
    rw [s.run_of_wait h]
    exact .nil b
  | more b out rest h ih =>
    obtain ⟨front, hout, hb⟩ := hscan b out rest h
    rw [s.run_of_more h, hb]
    exact hout.append ih

end Scanner

end TtlockBle.Lib
