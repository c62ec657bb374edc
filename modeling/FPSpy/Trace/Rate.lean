import Mathlib.Algebra.Order.Group.Int
import Mathlib.Data.List.Basic
import Mathlib.Data.List.TakeWhile
import Mathlib.Tactic.Linarith

/-!
# Event rates

`scripts/eventtrace.py` reads the times of events, one on each line, and writes a row with a
count whenever an event is an interval or more after the start of the row. Each line after the
first is counted once, and once more if it is within the interval; the first line is not
counted, the event that closes a row is counted in the row it closes, and the last row is
never written.
-/
namespace FPSpy.Rate

structure Row where
  time : Int
  events : Nat
  deriving DecidableEq, Repr

structure Loop where
  events : Nat
  prevmillis : Int
  rows : List Row

def loopBody (interval : Int) (s : Loop) (millis : Int) : Loop :=
  let events := s.events + 1
  if millis - s.prevmillis < interval then { s with events := events + 1 }
  else { events := 0, prevmillis := millis, rows := s.rows ++ [⟨s.prevmillis, events⟩] }

/-- The rows that `eventtrace.py` writes below its header; without a first line it fails. -/
def eventtrace (interval : Int) : List Int → Option (List Row)
  | [] => none
  | first :: lines => some (lines.foldl (loopBody interval) ⟨0, first, []⟩).rows

/-- Each row counts the events from its time up to that of the next one, the last row those up to
the end of the input. -/
def CountsWindows (ts : List Int) : List Row → Prop
  | [] => True
  | [row] => row.events = ts.countP (row.time ≤ ·)
  | row :: next :: rows =>
    row.events = ts.countP (fun t => row.time ≤ t ∧ t < next.time) ∧
      CountsWindows ts (next :: rows)

/-- Every event is counted once. -/
structure CountsOnce (ts : List Int) (rows : List Row) : Prop where
  total : (rows.map (·.events)).sum = ts.length
  windows : CountsWindows ts rows

/-! ## Windows -/

/-- The times, cut where a window ends: it holds its first time and those that follow it within
the interval. -/
def windows (interval : Int) : List Int → List (List Int)
  | [] => []
  | t :: ts =>
    (t :: ts.takeWhile fun u => u - t < interval) ::
      windows interval (ts.dropWhile fun u => u - t < interval)
termination_by ts => ts.length
decreasing_by exact Nat.lt_succ_of_le (List.length_dropWhile_le _ _)

/-- Each window starts with the first of its times and comes at once after those before it. -/
structure Ordered (ws : List (List Int)) : Prop where
  pairwise : ws.Pairwise fun w v => ∀ x ∈ w, ∀ y ∈ v, x < y
  heads : ∀ w ∈ ws, w ≠ [] ∧ ∀ x ∈ w, w.headD 0 ≤ x

theorem flatten_windows (interval : Int) (ts : List Int) : (windows interval ts).flatten = ts := by
  induction ts using windows.induct interval with
  | case1 => simp [windows]
  | case2 t ts ih =>
    rw [windows, List.flatten_cons, ih, List.cons_append, List.takeWhile_append_dropWhile]

/-- What follows a window starts an interval or more after it. -/
theorem le_of_mem_dropWhile {interval t y : Int} {ts : List Int} (h : ts.Pairwise (· ≤ ·))
    (hy : y ∈ ts.dropWhile fun u => u - t < interval) : t + interval ≤ y := by
  induction ts with
  | nil => simp at hy
  | cons u ts ih =>
    obtain ⟨hle, hts⟩ := List.pairwise_cons.mp h
    by_cases hu : u - t < interval
    · rw [List.dropWhile_cons_of_pos (by simpa using hu)] at hy
      exact ih hts hy
    · rw [List.dropWhile_cons_of_neg (by simpa using hu), List.mem_cons] at hy
      rcases hy with rfl | hy
      · omega
      · have := hle y hy
        omega

theorem ordered_windows {interval : Int} (hpos : 0 < interval) {ts : List Int}
    (h : ts.Pairwise (· ≤ ·)) : Ordered (windows interval ts) := by
  induction ts using windows.induct interval with
  | case1 =>
    rw [windows]
    exact ⟨.nil, by simp⟩
  | case2 t ts ih =>
    obtain ⟨hle, hts⟩ := List.pairwise_cons.mp h
    have hrest := ih (hts.sublist (List.dropWhile_sublist _))
    rw [windows]
    refine ⟨List.pairwise_cons.mpr ⟨fun v hv x hx y hy => ?_, hrest.pairwise⟩, ?_⟩
    · have hyts : y ∈ ts.dropWhile fun u => u - t < interval := by
        rw [← flatten_windows interval (ts.dropWhile _)]
        exact List.mem_flatten_of_mem hv hy
      have hlow := le_of_mem_dropWhile hts hyts
      rcases List.mem_cons.mp hx with rfl | hx
      · omega
      · have hhigh : x - t < interval := by simpa using List.mem_takeWhile_imp hx
        omega
    · intro w hw
      rcases List.mem_cons.mp hw with rfl | hw
      · refine ⟨List.cons_ne_nil _ _, fun x hx => ?_⟩
        rcases List.mem_cons.mp hx with rfl | hx
        · exact le_refl _
        · exact hle x ((List.takeWhile_sublist _).subset hx)
      · exact hrest.heads w hw

/-! ## The rows -/

/-- The row the script writes for a window: the first time is not counted, the others twice, and
the time that ends the window once. -/
def windowRow (w : List Int) : Row := ⟨w.headD 0, 2 * w.length - 1⟩

def windowRows (ws : List (List Int)) : List Row := ws.dropLast.map windowRow

/-- Times within the interval are counted twice. -/
theorem foldl_within {interval : Int} {ts : List Int} {s : Loop}
    (h : ∀ t ∈ ts, t - s.prevmillis < interval) :
    ts.foldl (loopBody interval) s = { s with events := s.events + 2 * ts.length } := by
  induction ts generalizing s with
  | nil => rfl
  | cons t ts ih =>
    have ht : t - s.prevmillis < interval := h t List.mem_cons_self
    have hbody : loopBody interval s t = { s with events := s.events + 2 } := by
      simp [loopBody, ht]
    have hrest := ih (s := { s with events := s.events + 2 })
      fun u hu => h u (List.mem_cons_of_mem t hu)
    rw [List.foldl_cons, hbody, hrest]
    simp only [List.length_cons, Loop.mk.injEq, and_true]
    omega

theorem rows_foldl (interval : Int) (t : Int) (ts : List Int) (rows : List Row) :
    (ts.foldl (loopBody interval) ⟨0, t, rows⟩).rows =
      rows ++ windowRows (windows interval (t :: ts)) := by
  generalize hl : t :: ts = l
  induction l using windows.induct interval generalizing t ts rows with
  | case1 => cases hl
  | case2 u us ih =>
    obtain ⟨rfl, rfl⟩ := List.cons.inj hl
    have hwithin : ∀ u ∈ ts.takeWhile fun u => u - t < interval, u - t < interval := by
      intro u hu
      simpa using List.mem_takeWhile_imp hu
    have hsplit := List.takeWhile_append_dropWhile (l := ts) (p := fun u => u - t < interval)
    have hfirst := foldl_within (s := ⟨0, t, rows⟩) hwithin
    rw [windows]
    conv_lhs => rw [← hsplit, List.foldl_append, hfirst]
    cases hdrop : ts.dropWhile fun u => u - t < interval with
    | nil => simp [windows, windowRows]
    | cons u us =>
      have hnot : ¬ u - t < interval := by
        intro hlt
        have hhead := List.head_dropWhile_not (fun u => decide (u - t < interval)) (l := ts)
          (by simp [hdrop])
        simp [hdrop, hlt] at hhead
      have hbody : loopBody interval
          ⟨0 + 2 * (ts.takeWhile fun u => u - t < interval).length, t, rows⟩ u =
            ⟨0, u, rows ++ [windowRow (t :: ts.takeWhile fun u => u - t < interval)]⟩ := by
        simp only [loopBody, if_neg hnot, windowRow, List.headD_cons, List.length_cons,
          Loop.mk.injEq, true_and, List.append_cancel_left_eq, List.cons.injEq, Row.mk.injEq,
          and_true]
        omega
      rw [List.foldl_cons, hbody, ih u us _ hdrop.symm, hdrop, List.append_assoc]
      obtain ⟨v, vs, hvs⟩ : ∃ v vs, windows interval (u :: us) = v :: vs := by
        rw [windows]
        exact ⟨_, _, rfl⟩
      simp [hvs, windowRows]

theorem eventtrace_eq (interval : Int) {ts : List Int} (h : ts ≠ []) :
    eventtrace interval ts = some (windowRows (windows interval ts)) := by
  cases ts with
  | nil => exact absurd rfl h
  | cons t ts =>
    rw [eventtrace, rows_foldl]
    rfl

/-! ## Counting -/

section Counting

variable {pre post : List (List Int)} {w u : List Int}

theorem headD_mem {w : List Int} (h : w ≠ []) : w.headD 0 ∈ w := by
  cases w with
  | nil => exact absurd rfl h
  | cons t ts => exact List.mem_cons_self

/-- A window starts after all times of the windows before it. -/
theorem Ordered.lt_head (h : Ordered (pre ++ w :: post)) {x : Int} (hx : x ∈ pre.flatten) :
    x < w.headD 0 := by
  obtain ⟨v, hv, hxv⟩ := List.mem_flatten.mp hx
  have hw := headD_mem (h.heads w (by simp)).1
  exact (List.pairwise_append.mp h.pairwise).2.2 v hv w List.mem_cons_self x hxv _ hw

/-- It starts no later than its own times and those of the windows after it. -/
theorem Ordered.head_le (h : Ordered (pre ++ w :: post)) {x : Int}
    (hx : x ∈ (w :: post).flatten) : w.headD 0 ≤ x := by
  rw [List.flatten_cons, List.mem_append] at hx
  rcases hx with hx | hx
  · exact (h.heads w (by simp)).2 x hx
  · obtain ⟨v, hv, hxv⟩ := List.mem_flatten.mp hx
    have hw := headD_mem (h.heads w (by simp)).1
    have hpair := (List.pairwise_append.mp h.pairwise).2.1
    exact ((List.pairwise_cons.mp hpair).1 v hv _ hw x hxv).le

theorem Ordered.countP_from (h : Ordered (pre ++ w :: post)) (p : Int → Prop) [DecidablePred p] :
    (pre ++ w :: post).flatten.countP (fun t => w.headD 0 ≤ t ∧ p t) =
      (w :: post).flatten.countP fun t => p t := by
  have hpre : pre.flatten.countP (fun t => w.headD 0 ≤ t ∧ p t) = 0 := by
    rw [List.countP_eq_zero]
    intro x hx hp
    have := h.lt_head hx
    simp only [decide_eq_true_eq] at hp
    omega
  rw [List.flatten_append, List.countP_append, hpre, Nat.zero_add]
  apply List.countP_congr
  intro x hx
  have hle := h.head_le hx
  simp only [decide_eq_true_eq, hle, true_and]

/-- The times from the start of a window to the start of the next are those of the window. -/
theorem Ordered.countP_window (h : Ordered (pre ++ w :: u :: post)) :
    (pre ++ w :: u :: post).flatten.countP (fun t => w.headD 0 ≤ t ∧ t < u.headD 0) =
      w.length := by
  have hnext : Ordered ((pre ++ [w]) ++ u :: post) := by simpa using h
  have hown : w.countP (fun t => t < u.headD 0) = w.length := by
    rw [List.countP_eq_length]
    intro x hx
    simpa using hnext.lt_head (List.mem_flatten_of_mem (by simp) hx)
  have hlater : (u :: post).flatten.countP (fun t => t < u.headD 0) = 0 := by
    rw [List.countP_eq_zero]
    intro x hx
    simpa using hnext.head_le hx
  rw [h.countP_from fun t => t < u.headD 0, List.flatten_cons, List.countP_append, hown, hlater,
    Nat.add_zero]

/-- The times from the start of a window on are those of the window and all after it. -/
theorem Ordered.countP_rest (h : Ordered (pre ++ w :: post)) :
    (pre ++ w :: post).flatten.countP (fun t => w.headD 0 ≤ t) = (w :: post).flatten.length := by
  have hfrom := h.countP_from fun _ => True
  simpa using hfrom

end Counting

/-- All windows but the last two have one time, and the last but one has one more than the last. -/
def Lucky (ws : List (List Int)) : Prop :=
  ∀ vs w v, ws = vs ++ [w, v] → (∀ u ∈ vs, u.length = 1) ∧ w.length = v.length + 1

theorem lucky_pair_iff (w v : List Int) : Lucky [w, v] ↔ w.length = v.length + 1 := by
  constructor
  · intro h
    exact (h [] w v rfl).2
  · intro h vs w' v' heq
    cases vs with
    | nil =>
      obtain ⟨rfl, rfl⟩ : w = w' ∧ v = v' := by simpa using heq
      exact ⟨by simp, h⟩
    | cons u vs =>
      have hlen := congrArg List.length heq
      simp at hlen

theorem lucky_cons_iff (w u v : List Int) (ws : List (List Int)) :
    Lucky (w :: u :: v :: ws) ↔ w.length = 1 ∧ Lucky (u :: v :: ws) := by
  constructor
  · intro h
    have htail : ∀ vs a b, u :: v :: ws = vs ++ [a, b] →
        w.length = 1 ∧ (∀ x ∈ vs, x.length = 1) ∧ a.length = b.length + 1 := by
      intro vs a b heq
      obtain ⟨hall, hlast⟩ := h (w :: vs) a b (by rw [heq]; rfl)
      exact ⟨hall w List.mem_cons_self, fun x hx => hall x (List.mem_cons_of_mem w hx), hlast⟩
    refine ⟨?_, fun vs a b heq => (htail vs a b heq).2⟩
    obtain ⟨vs, a, b, heq⟩ : ∃ vs a b, u :: v :: ws = vs ++ [a, b] := by
      obtain ⟨xs, b, hb⟩ := List.eq_nil_or_concat' (v :: ws) |>.resolve_left (List.cons_ne_nil _ _)
      obtain ⟨vs, a, ha⟩ := List.eq_nil_or_concat' (u :: xs) |>.resolve_left (List.cons_ne_nil _ _)
      exact ⟨vs, a, b, by rw [hb, ← List.cons_append, ha, List.append_assoc]; rfl⟩
    exact (htail vs a b heq).1
  · rintro ⟨hw, h⟩ vs a b heq
    cases vs with
    | nil => simp at heq
    | cons x vs =>
      obtain ⟨rfl, heq'⟩ := List.cons.inj heq
      obtain ⟨hall, hlast⟩ := h vs a b heq'
      exact ⟨List.forall_mem_cons.mpr ⟨hw, hall⟩, hlast⟩

/-- The rows of some windows count what they should exactly if the windows are lucky. -/
theorem countsWindows_iff {pre ws : List (List Int)} (h : Ordered (pre ++ ws)) :
    CountsWindows (pre ++ ws).flatten (windowRows ws) ↔ Lucky ws := by
  induction ws generalizing pre with
  | nil =>
    have hnone : ∀ (vs : List (List Int)) w v, [] ≠ vs ++ [w, v] := by simp
    exact iff_of_true trivial fun vs w v heq => absurd heq (hnone vs w v)
  | cons w ws ih =>
    have hpos : 0 < w.length := List.length_pos_iff.mpr (h.heads w (by simp)).1
    match ws with
    | [] =>
      refine iff_of_true trivial fun vs a b heq => ?_
      have hlen := congrArg List.length heq
      simp at hlen
    | [v] =>
      have hrest := h.countP_rest
      rw [lucky_pair_iff]
      simp only [windowRows, List.dropLast, List.map, CountsWindows, windowRow]
      rw [hrest, List.flatten_cons, List.length_append, List.flatten_singleton]
      omega
    | u :: v :: ws =>
      have hsplit : Ordered ((pre ++ [w]) ++ u :: v :: ws) := by simpa using h
      have hnext := ih hsplit
      have hwindow : (pre ++ w :: u :: v :: ws).flatten.countP (fun t =>
          (windowRow w).time ≤ t ∧ t < (windowRow u).time) = w.length := h.countP_window
      have hevents : (windowRow w).events = 2 * w.length - 1 := rfl
      rw [List.append_assoc] at hnext
      have hrows : windowRows (w :: u :: v :: ws) =
          windowRow w :: windowRow u :: (v :: ws).dropLast.map windowRow := rfl
      have hrows' : windowRows (u :: v :: ws) =
          windowRow u :: (v :: ws).dropLast.map windowRow := rfl
      rw [hrows'] at hnext
      rw [hrows, CountsWindows, lucky_cons_iff, ← hnext, hwindow, hevents]
      refine and_congr ?_ Iff.rfl
      omega

/-- Lucky windows, of which there are two or more, are counted in full. -/
theorem sum_windowRows {ws vs : List (List Int)} {w v : List Int} (h : ws = vs ++ [w, v])
    (hlucky : Lucky ws) : ((windowRows ws).map (·.events)).sum = ws.flatten.length := by
  obtain ⟨hall, hlast⟩ := hlucky vs w v h
  have hones : ∀ us : List (List Int), (∀ u ∈ us, u.length = 1) →
      ((us.map windowRow).map (·.events)).sum = us.flatten.length := by
    intro us hus
    induction us with
    | nil => rfl
    | cons u us ih =>
      have hu : u.length = 1 := hus u List.mem_cons_self
      have hrest := ih fun x hx => hus x (List.mem_cons_of_mem u hx)
      simp only [List.map_cons, List.sum_cons, List.flatten_cons, List.length_append, hrest,
        windowRow, hu]
  have hdrop : (vs ++ [w, v]).dropLast = vs ++ [w] := by
    rw [List.dropLast_append_of_ne_nil (by simp)]
    rfl
  rw [h, windowRows, hdrop, List.map_append, List.map_append, List.sum_append, hones vs hall]
  simp [windowRow]
  omega

/-- The script counts every event once exactly if there are at least two windows, all but the last
two hold one event, and the last but one holds one more than the last. -/
theorem eventtrace_countsOnce_iff {interval : Int} (hpos : 0 < interval) {ts : List Int}
    (hne : ts ≠ []) (hsorted : ts.Pairwise (· ≤ ·)) :
    (∃ rows, eventtrace interval ts = some rows ∧ CountsOnce ts rows) ↔
      ∃ vs w v, windows interval ts = vs ++ [w, v] ∧ (∀ u ∈ vs, u.length = 1) ∧
        w.length = v.length + 1 := by
  have hordered := ordered_windows hpos hsorted
  have hflatten := flatten_windows interval ts
  have hsplit : Ordered ([] ++ windows interval ts) := by simpa using hordered
  have hiff := countsWindows_iff hsplit
  rw [List.nil_append, hflatten] at hiff
  simp only [eventtrace_eq interval hne, Option.some.injEq, exists_eq_left']
  generalize windows interval ts = ws at hordered hflatten hiff ⊢
  have hlen : 0 < ts.length := List.length_pos_iff.mpr hne
  constructor
  · rintro ⟨htotal, hwindows⟩
    have hlucky := hiff.mp hwindows
    rcases List.eq_nil_or_concat' ws with rfl | ⟨us, v, rfl⟩
    · simp [windowRows] at htotal
      omega
    · rcases List.eq_nil_or_concat' us with rfl | ⟨vs, w, rfl⟩
      · simp [windowRows] at htotal
        omega
      · have heq : vs ++ [w] ++ [v] = vs ++ [w, v] := by simp
        exact ⟨vs, w, v, heq, hlucky vs w v heq⟩
  · rintro ⟨vs, w, v, heq, hall, hlast⟩
    have hlucky : Lucky ws := by
      intro vs' w' v' heq'
      obtain ⟨rfl, hpair⟩ := List.append_inj' (heq.symm.trans heq') rfl
      obtain ⟨rfl, rfl⟩ : w = w' ∧ v = v' := by simpa using hpair
      exact ⟨hall, hlast⟩
    exact ⟨hflatten ▸ sum_windowRows heq hlucky, hiff.mpr hlucky⟩

/-- Two events in a window and one after it: the second is counted twice, the last not at all but
for its closing the row. -/
theorem eventtrace_countsOnce_three :
    ∃ rows, eventtrace 5 [0, 1, 10] = some rows ∧ CountsOnce [0, 1, 10] rows :=
  (eventtrace_countsOnce_iff (by decide) (by decide) (by decide)).mpr
    ⟨[], [0, 1], [10], by simp [windows], by simp, rfl⟩

/-- A row of five for three events, in an input of four. -/
theorem not_eventtrace_countsOnce :
    eventtrace 5 [0, 1, 2, 10] = some [⟨0, 5⟩] ∧
      ¬ ∃ rows, eventtrace 5 [0, 1, 2, 10] = some rows ∧ CountsOnce [0, 1, 2, 10] rows := by
  have hrows : eventtrace 5 [0, 1, 2, 10] = some [⟨0, 5⟩] := by decide
  refine ⟨hrows, ?_⟩
  rintro ⟨rows, heq, hcounts⟩
  obtain rfl := Option.some.inj (hrows.symm.trans heq)
  exact absurd hcounts.total (by decide)

end FPSpy.Rate
