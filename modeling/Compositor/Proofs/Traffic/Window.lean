import Compositor.Traffic.RateLimit

/-! # The limit holds in every window

The limiter forgets a call once it has left the window, and it looks for such calls at the
front of its list only.  Still it answers as if it remembered every call that it ever let
through: `Keeps` relates it to the list of all of them, and every visit preserves that,
whoever comes and in whatever order attempts and questions about the status arrive.

Visits hold the limiter's lock, so that their instants never go back.
-/

namespace Compositor.RateLimiter

/-! ## Visits -/

/-- A visit at an instant: a caller asks to start a call, or how the limiter stands. -/
inductive Visit where
  | attempt (now : Nat)
  | status (now : Nat)

def Visit.now : Visit → Nat
  | attempt now => now
  | status now => now

/-- The limiter after a visit. -/
def visit (l : RateLimiter) : Visit → RateLimiter
  | .attempt now => (l.attempt now).2
  | .status now => (l.status now).2

/-- The call that starts with a visit, if one does. -/
def started (l : RateLimiter) : Visit → List Nat
  | .attempt now => if (l.attempt now).1 = .granted then [now] else []
  | .status _ => []

/-- The limiter after some visits. -/
def after (l : RateLimiter) : List Visit → RateLimiter
  | [] => l
  | v :: visits => (l.visit v).after visits

/-- The instants of all calls that start with some visits. -/
def grants (l : RateLimiter) : List Visit → List Nat
  | [] => []
  | v :: visits => l.started v ++ (l.visit v).grants visits

/-- The calls that are less than a window ago. -/
def within (window now : Nat) (calls : List Nat) : List Nat :=
  calls.filter fun g => decide (now - g < window)

variable {l : RateLimiter} {calls earlier : List Nat} {window now before : Nat}

theorem grants_append (l : RateLimiter) (first second : List Visit) :
    l.grants (first ++ second) = l.grants first ++ (l.after first).grants second := by
  induction first generalizing l with
  | nil => rfl
  | cons v first ih =>
    simp only [List.cons_append, grants, after, ih, List.append_assoc]

/-! ## Pruning -/

theorem within_append (window now : Nat) (first second : List Nat) :
    within window now (first ++ second) = within window now first ++ within window now second :=
  List.filter_append ..

theorem within_eq_nil (gone : ∀ g ∈ calls, window ≤ now - g) : within window now calls = [] := by
  apply List.filter_eq_nil_iff.mpr
  intro g mem
  have := gone g mem
  simp only [decide_eq_true_eq]
  omega

/-- In an ascending list the calls to forget are all at the front. -/
theorem dropWhile_eq_within (sorted : calls.Pairwise (· ≤ ·)) :
    calls.dropWhile (fun t => decide (window ≤ now - t)) = within window now calls := by
  induction calls with
  | nil => rfl
  | cons g rest ih =>
    obtain ⟨least, sortedRest⟩ := List.pairwise_cons.mp sorted
    by_cases gone : window ≤ now - g
    · rw [List.dropWhile_cons_of_pos (by simpa using gone), ih sortedRest, within, within,
        List.filter_cons_of_neg (by simpa using gone)]
    · rw [List.dropWhile_cons_of_neg (by simpa using gone), within]
      apply Eq.symm
      apply List.filter_eq_self.mpr
      intro other mem
      have later : g ≤ other := by
        rcases List.mem_cons.mp mem with rfl | mem
        · exact Nat.le_refl _
        · exact least other mem
      simp only [decide_eq_true_eq]
      omega

/-! ## What the limiter keeps -/

/-- At an instant the limiter still has what it needs of all calls so far: those that it has
    forgotten have left the window for good. -/
structure Keeps (l : RateLimiter) (grants : List Nat) (now : Nat) : Prop where
  sorted : grants.Pairwise (· ≤ ·)
  past : ∀ g ∈ grants, g ≤ now
  kept : ∃ forgotten, grants = forgotten ++ l.calls ∧ ∀ g ∈ forgotten, l.window ≤ now - g
  bounded : l.calls.length ≤ l.maxCalls
  /-- A call and the one that comes `maxCalls` later are a window apart. -/
  spaced : ∀ i a b, grants[i]? = some a → grants[i + l.maxCalls]? = some b → a + l.window ≤ b

theorem ofLimit_keeps (maxCalls window now : Nat) : (ofLimit maxCalls window).Keeps [] now where
  sorted := .nil
  past := by simp
  kept := ⟨[], rfl, by simp⟩
  bounded := Nat.zero_le _
  spaced := by simp

namespace Keeps

variable {all : List Nat}

theorem mono (keeps : l.Keeps all before) (order : before ≤ now) : l.Keeps all now where
  sorted := keeps.sorted
  past := fun g mem => Nat.le_trans (keeps.past g mem) order
  kept := by
    obtain ⟨forgotten, split, gone⟩ := keeps.kept
    refine ⟨forgotten, split, ?_⟩
    intro g mem
    have := gone g mem
    omega
  bounded := keeps.bounded
  spaced := keeps.spaced

theorem calls_sorted (keeps : l.Keeps all now) : l.calls.Pairwise (· ≤ ·) := by
  obtain ⟨forgotten, split, -⟩ := keeps.kept
  have sorted := keeps.sorted
  rw [split, List.pairwise_append] at sorted
  exact sorted.2.1

theorem prune_calls (keeps : l.Keeps all now) :
    (l.prune now).calls = within l.window now all := by
  obtain ⟨forgotten, split, gone⟩ := keeps.kept
  calc (l.prune now).calls
      = within l.window now l.calls := dropWhile_eq_within keeps.calls_sorted
    _ = within l.window now forgotten ++ within l.window now l.calls := by
      rw [within_eq_nil gone, List.nil_append]
    _ = within l.window now all := by rw [split, within_append]

theorem prune (keeps : l.Keeps all now) : (l.prune now).Keeps all now where
  sorted := keeps.sorted
  past := keeps.past
  kept := by
    refine ⟨all.takeWhile fun t => decide (l.window ≤ now - t), ?_, ?_⟩
    · rw [keeps.prune_calls, ← dropWhile_eq_within keeps.sorted, List.takeWhile_append_dropWhile]
    · intro g mem
      have gone := List.all_eq_true.mp List.all_takeWhile g mem
      exact of_decide_eq_true gone
  bounded :=
    Nat.le_trans (List.dropWhile_suffix _).length_le keeps.bounded
  spaced := keeps.spaced

/-- If the window is not full, then the call that stood `maxCalls` places before a new one has
    left it. -/
theorem spaced_append (keeps : l.Keeps all now)
    (room : (within l.window now all).length < l.maxCalls) :
    ∀ i a b, (all ++ [now])[i]? = some a → (all ++ [now])[i + l.maxCalls]? = some b →
      a + l.window ≤ b := by
  intro i a b first second
  have positive := l.maxCalls_pos
  have bound := (List.getElem?_eq_some_iff.mp second).1
  rw [List.length_append, List.length_singleton] at bound
  have inside : i < all.length := by omega
  rw [List.getElem?_append_left inside] at first
  by_cases old : i + l.maxCalls < all.length
  · rw [List.getElem?_append_left old] at second
    exact keeps.spaced i a b first second
  · rw [List.getElem?_append_right (by omega)] at second
    have last : i + l.maxCalls - all.length = 0 := by omega
    rw [last, List.getElem?_cons_zero, Option.some.injEq] at second
    subst second
    have past := keeps.past a (List.mem_of_getElem? first)
    apply Nat.le_of_not_lt
    intro close
    -- Otherwise the last `maxCalls` calls are all within the window.
    have near : within l.window now (all.drop i) = all.drop i := by
      apply List.filter_eq_self.mpr
      intro g mem
      have later : a ≤ g := by
        have sorted := keeps.sorted
        rw [← List.take_append_drop i all, List.pairwise_append] at sorted
        rw [List.drop_eq_getElem_cons inside] at mem sorted
        have head : all[i] = a := (List.getElem?_eq_some_iff.mp first).2
        rw [head] at mem sorted
        rcases List.mem_cons.mp mem with rfl | mem
        · exact Nat.le_refl _
        · exact (List.pairwise_cons.mp sorted.2.1).1 g mem
      simp only [decide_eq_true_eq]
      omega
    have count : (all.drop i).length ≤ (within l.window now all).length := by
      conv => rhs; rw [← List.take_append_drop i all, within_append, near]
      rw [List.length_append]
      omega
    rw [List.length_drop] at count
    omega

theorem grant (keeps : l.Keeps all now) (room : (within l.window now all).length < l.maxCalls) :
    Keeps { l.prune now with calls := (l.prune now).calls ++ [now] } (all ++ [now]) now where
  sorted := by
    rw [List.pairwise_append]
    refine ⟨keeps.sorted, List.pairwise_singleton _ _, ?_⟩
    intro g mem other same
    rw [List.mem_singleton.mp same]
    exact keeps.past g mem
  past := by
    intro g mem
    rcases List.mem_append.mp mem with old | new
    · exact keeps.past g old
    · exact Nat.le_of_eq (List.mem_singleton.mp new)
  kept := by
    obtain ⟨forgotten, split, gone⟩ := keeps.prune.kept
    refine ⟨forgotten, ?_, gone⟩
    rw [← List.append_assoc, ← split]
  bounded := by
    rw [List.length_append, keeps.prune_calls]
    exact room
  spaced := keeps.spaced_append room

end Keeps

/-! ## Steps -/

/-- A caller is let through, or is told how long the oldest call stays in the window. -/
theorem attempt_cases (l : RateLimiter) (now : Nat) :
    ((l.prune now).calls.length < l.maxCalls ∧ l.attempt now =
      (.granted, { l.prune now with calls := (l.prune now).calls ++ [now] })) ∨
    (l.maxCalls ≤ (l.prune now).calls.length ∧ ∃ oldest rest,
      (l.prune now).calls = oldest :: rest ∧
      l.attempt now = (.wait (l.window - (now - oldest)), l.prune now)) := by
  by_cases room : (l.prune now).calls.length < l.maxCalls
  · exact .inl ⟨room, if_pos room⟩
  · right
    have positive := l.maxCalls_pos
    refine ⟨by omega, ?_⟩
    cases calls : (l.prune now).calls with
    | nil =>
      rw [calls, List.length_nil] at room
      omega
    | cons oldest rest =>
      refine ⟨oldest, rest, rfl, ?_⟩
      have full : ¬ (l.prune now).calls.length < (l.prune now).maxCalls := room
      simp only [attempt]
      rw [if_neg full, calls]
      rfl

theorem visit_constants (l : RateLimiter) (v : Visit) :
    (l.visit v).maxCalls = l.maxCalls ∧ (l.visit v).window = l.window := by
  cases v with
  | attempt now =>
    rw [visit]
    rcases attempt_cases l now with ⟨-, answer⟩ | ⟨-, oldest, rest, -, answer⟩ <;> rw [answer] <;>
      exact ⟨rfl, rfl⟩
  | status now => exact ⟨rfl, rfl⟩

theorem after_constants (l : RateLimiter) (visits : List Visit) :
    (l.after visits).maxCalls = l.maxCalls ∧ (l.after visits).window = l.window := by
  induction visits generalizing l with
  | nil => exact ⟨rfl, rfl⟩
  | cons v visits ih =>
    obtain ⟨sameMax, sameWindow⟩ := visit_constants l v
    rw [after, (ih _).1, (ih _).2]
    exact ⟨sameMax, sameWindow⟩

/-- After a visit the limiter has the calls that are still within the window, and the one that
    starts now. -/
theorem Keeps.visit_calls {all : List Nat} {v : Visit} (keeps : l.Keeps all v.now) :
    (l.visit v).calls = within l.window v.now all ++ l.started v := by
  cases v with
  | attempt now =>
    rw [visit, started]
    rcases attempt_cases l now with ⟨-, answer⟩ | ⟨-, oldest, rest, -, answer⟩
    · rw [answer, if_pos rfl]
      exact congrArg (· ++ [now]) keeps.prune_calls
    · rw [answer, if_neg (by simp), List.append_nil]
      exact keeps.prune_calls
  | status now => exact keeps.prune_calls.trans (List.append_nil _).symm

theorem Keeps.visit {all : List Nat} {v : Visit} (keeps : l.Keeps all v.now) :
    (l.visit v).Keeps (all ++ l.started v) v.now := by
  cases v with
  | attempt now =>
    have pruned : (l.prune now).calls = within l.window now all := keeps.prune_calls
    rw [RateLimiter.visit, started]
    rcases attempt_cases l now with ⟨room, answer⟩ | ⟨-, oldest, rest, -, answer⟩
    · rw [answer, if_pos rfl]
      rw [pruned] at room
      exact keeps.grant room
    · rw [answer, if_neg (by simp), List.append_nil]
      exact keeps.prune
  | status now =>
    rw [started, List.append_nil]
    exact keeps.prune

theorem Keeps.after {all : List Nat} {visits : List Visit} (keeps : l.Keeps all before)
    (order : (before :: visits.map Visit.now).Pairwise (· ≤ ·)) (last : ∀ v ∈ visits, v.now ≤ now)
    (start : before ≤ now) : (l.after visits).Keeps (all ++ l.grants visits) now := by
  induction visits generalizing l all before with
  | nil =>
    rw [RateLimiter.after, grants, List.append_nil]
    exact keeps.mono start
  | cons v visits ih =>
    obtain ⟨first, rest⟩ := List.pairwise_cons.mp order
    have next := (keeps.mono (first v.now (by simp))).visit
    rw [RateLimiter.after, grants, ← List.append_assoc]
    exact ih next rest (fun w mem => last w (List.mem_cons_of_mem _ mem)) (last v (by simp))

/-- The limiter after visits whose instants never go back. -/
theorem after_keeps (maxCalls window : Nat) {visits : List Visit}
    (order : (visits.map Visit.now).Pairwise (· ≤ ·)) (last : ∀ v ∈ visits, v.now ≤ now) :
    ((ofLimit maxCalls window).after visits).Keeps ((ofLimit maxCalls window).grants visits) now :=
  (ofLimit_keeps maxCalls window 0).after (List.pairwise_cons.mpr ⟨by simp, order⟩) last
    (Nat.zero_le _)

/-- A call that starts with a visit starts at its instant. -/
theorem eq_now_of_mem_started {v : Visit} {g : Nat} (mem : g ∈ l.started v) : g = v.now := by
  cases v with
  | attempt now =>
    rw [started] at mem
    split at mem
    · exact List.mem_singleton.mp mem
    · cases mem
  | status now => cases mem

/-! ## The limit -/

/-- The limiter grants exactly when it may.  After visits whose instants never go back, and
    with one more visit, of which `all` are the calls so far:
    a caller is let through if and only if fewer calls than the limit are less than a window
    ago, and otherwise has to wait, for a positive time, until the oldest call leaves the
    window; calls that are as many places apart as the limit are a window apart; and the list
    of the limiter is ascending, no longer than the limit, and holds the calls that are less
    than a window ago.  In a window without extent there are none of these: the list then holds
    the call that starts with the visit, which the next visit forgets. -/
theorem after_admits (maxCalls window : Nat) (visits : List Visit) (v : Visit)
    (order : ((visits ++ [v]).map Visit.now).Pairwise (· ≤ ·)) :
    let l := (ofLimit maxCalls window).after visits
    let limit := max maxCalls 1
    let before := (ofLimit maxCalls window).grants visits
    let all := (ofLimit maxCalls window).grants (visits ++ [v])
    (∀ now, v = .attempt now →
      ((l.attempt now).1 = .granted ↔ (within window now before).length < limit) ∧
      ((l.attempt now).1 = .granted ∨
        ∃ oldest rest, (l.prune now).calls = oldest :: rest ∧
          (l.attempt now).1 = .wait (window - (now - oldest)) ∧ 0 < window - (now - oldest))) ∧
    (∀ i a b, all[i]? = some a → all[i + limit]? = some b → a + window ≤ b) ∧
    (l.visit v).calls.Pairwise (· ≤ ·) ∧ (l.visit v).calls.length ≤ limit ∧
    all = before ++ l.started v ∧
    (l.visit v).calls = within window v.now before ++ l.started v ∧
    (l.visit v).calls = (if window = 0 then l.started v else within window v.now all) ∧
    ((l.visit v).prune v.now).calls = within window v.now all := by
  intro l limit before all
  have split : all = before ++ l.started v := by
    simp only [all, before, l, grants_append, grants, List.append_nil]
  rw [List.map_append, List.pairwise_append] at order
  obtain ⟨ordered, -, last⟩ := order
  have keeps : l.Keeps before v.now :=
    after_keeps maxCalls window ordered fun w mem =>
      last w.now (List.mem_map_of_mem mem) v.now (by simp)
  obtain ⟨sameLimit, sameWindow⟩ : l.maxCalls = limit ∧ l.window = window :=
    after_constants (ofLimit maxCalls window) visits
  have constants := visit_constants l v
  rw [sameLimit, sameWindow] at constants
  have next := keeps.visit
  rw [← split] at next
  have calls := keeps.visit_calls
  rw [sameWindow] at calls
  refine ⟨?_, ?_, next.calls_sorted, constants.1 ▸ next.bounded, split, calls, ?_, ?_⟩
  · rintro now rfl
    have pruned : (l.prune now).calls = within l.window now before := keeps.prune_calls
    rw [← sameWindow, ← pruned, ← sameLimit]
    rcases attempt_cases l now with ⟨room, answer⟩ | ⟨full, oldest, rest, oldCalls, answer⟩
    · rw [answer]
      exact ⟨iff_of_true rfl room, .inl rfl⟩
    · rw [answer]
      refine ⟨iff_of_false (by simp) (by omega), .inr ⟨oldest, rest, oldCalls, rfl, ?_⟩⟩
      have near : oldest ∈ within l.window now before := by
        rw [← pruned, oldCalls]
        exact List.mem_cons_self
      have close := of_decide_eq_true (List.mem_filter.mp near).2
      omega
  · rw [← constants.1, ← constants.2]
    exact next.spaced
  · rw [calls]
    split
    · rename_i widthless
      rw [within_eq_nil fun g _ => widthless ▸ Nat.zero_le (v.now - g), List.nil_append]
    · rename_i wide
      -- A call that starts now has just entered the window.
      have near : within window v.now (l.started v) = l.started v :=
        List.filter_eq_self.mpr fun g mem => by
          rw [eq_now_of_mem_started mem, Nat.sub_self]
          exact decide_eq_true (Nat.pos_of_ne_zero wide)
      rw [split, within_append, near]
  · rw [← constants.2]
    exact next.prune_calls

/-- Two calls in a minute: a third caller comes too early by half a minute. -/
theorem after_admits_early :
    let l := (ofLimit 2 60).after [.attempt 0, .attempt 10, .status 20]
    ((l.attempt 30).1 = .granted ↔ (within 60 30 [0, 10]).length < 2) ∧
      (l.attempt 30).1 = .wait 30 ∧ (l.visit (.attempt 30)).calls = within 60 30 [0, 10] := by
  intro l
  obtain ⟨admitted, -, -, -, -, -, calls, -⟩ :=
    after_admits 2 60 [.attempt 0, .attempt 10, .status 20] (.attempt 30) (by decide)
  exact ⟨(admitted 30 rfl).1, by decide, calls⟩

/-- In a window without extent no call is less than a window ago, not even one that has just
    started; but that one is on the limiter's list. -/
theorem after_admits_widthless :
    let l := (ofLimit 1 0).visit (.attempt 0)
    l.calls = [0] ∧ l.calls ≠ within 0 0 ((ofLimit 1 0).grants [.attempt 0]) := by
  decide

end Compositor.RateLimiter
