import EdgeGateway.Proofs.Regex.Exploration
import EdgeGateway.Proofs.Regex.Semantics

/-!
# Repetitions

A step on states follows a stretch if it gives what the stretch leads to and
nothing else, up to which of several states at one place it keeps.  If a step
follows something, its repetitions follow that many turns of it: those up to a
bound explore each number of turns that is left at each position once, and those
without a bound explore each position once.
-/

namespace EdgeGateway.Regex

/-! ## Steps that follow a stretch -/

/-- A state that a stretch leads to from another. -/
def Reaches (stretch : Stretch) (state final : State) : Prop :=
  ∃ captured, stretch state.place final.place captured ∧
    final.captures = captured ++ state.captures

theorem Reaches.zero (once : Stretch) (state : State) :
    Reaches (Times once 0) state state :=
  ⟨[], .zero _, rfl⟩

theorem Reaches.succ {once : Stretch} {count : Nat} {state middle final : State}
    (hone : Reaches once state middle) (hmore : Reaches (Times once count) middle final) :
    Reaches (Times once (count + 1)) state final := by
  obtain ⟨before, hbefore, hfirst⟩ := hone
  obtain ⟨after, hafter, hsecond⟩ := hmore
  exact ⟨_, .succ hbefore hafter, by rw [hsecond, hfirst, List.append_assoc]⟩

/-- All states are at places of one text. -/
def AllIn (text : List Char) (states : List State) : Prop :=
  ∀ state ∈ states, state.place.IsIn text

theorem allIn_singleton {text : List Char} {state : State}
    (hstate : state.place.IsIn text) : AllIn text [state] := by
  simpa [AllIn] using hstate

/-- A step gives only what the stretch leads to, and it gives some state at every
place that the stretch leads to. -/
structure Follows (text : List Char) (stretch : Stretch)
    (step : List State → List State) : Prop where
  sound : ∀ {states final}, AllIn text states → final ∈ step states →
    ∃ state ∈ states, Reaches stretch state final
  complete : ∀ {states state final captured}, AllIn text states → state ∈ states →
    stretch state.place final captured → ∃ reached ∈ step states, reached.place = final

section Follows

variable {text : List Char} {stretch once : Stretch} {step : List State → List State}

theorem Follows.allIn (hfollows : Follows text stretch step)
    (hforward : Forward text stretch) {states : List State} (hstates : AllIn text states) :
    AllIn text (step states) := by
  intro final hfinal
  obtain ⟨state, hstate, _, hspans, -⟩ := hfollows.sound hstates hfinal
  exact (hforward hspans (hstates state hstate)).1

/-- What a step gives for a single state. -/
theorem Follows.of_mem_step (hfollows : Follows text stretch step)
    (hforward : Forward text stretch) {state final : State} (hstate : state.place.IsIn text)
    (hfinal : final ∈ step [state]) :
    Reaches stretch state final ∧ final.place.IsIn text := by
  have hsingle := allIn_singleton hstate
  obtain ⟨origin, horigin, hreaches⟩ := hfollows.sound hsingle hfinal
  obtain rfl := List.mem_singleton.mp horigin
  exact ⟨hreaches, hfollows.allIn hforward hsingle final hfinal⟩

theorem Follows.exists_mem_step (hfollows : Follows text stretch step) {state : State}
    (hstate : state.place.IsIn text) {final : Place} {captured : Captures}
    (hspans : stretch state.place final captured) :
    ∃ reached ∈ step [state], reached.place = final :=
  hfollows.complete (allIn_singleton hstate) List.mem_cons_self hspans

/-- From single states to lists of states. -/
theorem Follows.ofEach (hforward : Forward text stretch) {explore : State → List State}
    (hsound : ∀ {state final}, state.place.IsIn text → final ∈ explore state →
      Reaches stretch state final)
    (hcomplete : ∀ {state final captured}, state.place.IsIn text →
      stretch state.place final captured →
        ∃ reached ∈ explore state, reached.position = final.position) :
    Follows text stretch fun states => distinct (states.flatMap explore) where
  sound := by
    intro states final hstates hfinal
    obtain ⟨state, hstate, hexplored⟩ := List.mem_flatMap.mp (mem_of_mem_distinct hfinal)
    exact ⟨state, hstate, hsound (hstates state hstate) hexplored⟩
  complete := by
    intro states state final captured hstates hstate hspans
    obtain ⟨reached, hreached, hsame⟩ := hcomplete (hstates state hstate) hspans
    obtain ⟨kept, hkept, hposition⟩ :=
      exists_mem_distinct (List.mem_flatMap.mpr ⟨state, hstate, hreached⟩)
    obtain ⟨origin, horigin, hexplored⟩ :=
      List.mem_flatMap.mp (mem_of_mem_distinct hkept)
    obtain ⟨_, hother, -⟩ := hsound (hstates origin horigin) hexplored
    exact ⟨kept, hkept, (hforward hother (hstates origin horigin)).1.eq_of_position
      (hforward hspans (hstates state hstate)).1 (hposition.trans hsame)⟩

theorem Follows.exactly (hfollows : Follows text once step) (honce : Forward text once)
    (count : Nat) : Follows text (Times once count) (exactly step count) := by
  induction count with
  | zero =>
      refine ⟨fun _ hfinal => ⟨_, hfinal, .zero once _⟩, ?_⟩
      intro states state final captured hstates hstate htimes
      cases htimes
      exact ⟨state, hstate, rfl⟩
  | succ count ih =>
      refine ⟨?_, ?_⟩
      · intro states final hstates hfinal
        unfold Regex.exactly at hfinal
        split at hfinal
        next => simp at hfinal
        next =>
          obtain ⟨middle, hmiddle, hmore⟩ := ih.sound (hfollows.allIn honce hstates) hfinal
          obtain ⟨state, hstate, hone⟩ := hfollows.sound hstates hmiddle
          exact ⟨state, hstate, hone.succ hmore⟩
      · intro states state final captured hstates hstate htimes
        cases htimes with
        | succ hone hmore =>
            obtain ⟨middle, hmiddle, rfl⟩ := hfollows.complete hstates hstate hone
            unfold Regex.exactly
            rw [if_neg (by simpa using List.ne_nil_of_mem hstate)]
            exact ih.complete (hfollows.allIn honce hstates) hmiddle hmore

/-! ## At most a number of turns -/

/-- One turn leads from a number of turns left at a position to one turn less. -/
def TurnLess (text : List Char) (once : Stretch) (key other : Nat × Nat) : Prop :=
  key.1 = other.1 + 1 ∧ ∃ first final captured, first.IsIn text ∧
    first.position = key.2 ∧ once first final captured ∧ final.position = other.2

/-- All turns from a state are explored, given how a child is. -/
theorem explored_children (hfollows : Follows text once step)
    {follows : Nat × Nat → Nat × Nat → Prop} {allowed : State → Prop} {left : Nat}
    {visit : Found → State → Found} {marks : List (Nat × Nat)} {state : State}
    (hstate : state.place.IsIn text)
    (hvisit : ∀ found, marks ⊆ found.seen → ∀ child ∈ step [state],
      (left, child.position) ∉ found.seen →
        Explored follows allowed found (visit found child) ∧
          (left, child.position) ∈ (visit found child).seen)
    (hskip : ∀ found child, (left, child.position) ∈ found.seen →
      visit found child = found) (found : Found) (hmarks : marks ⊆ found.seen) :
    Explored follows allowed found ((step [state]).foldl visit found) ∧
      ∀ final captured, once state.place final captured →
        (left, final.position) ∈ ((step [state]).foldl visit found).seen := by
  obtain ⟨hexplored, hmarked⟩ :=
    Explored.foldl (fun child => (left, child.position)) hvisit hskip found hmarks
  refine ⟨hexplored, ?_⟩
  intro final captured hspans
  obtain ⟨child, hchild, rfl⟩ := hfollows.exists_mem_step hstate hspans
  exact hmarked child hchild

theorem visitUpTo_of_seen {greedy : Bool} {left : Nat} {found : Found} {state : State}
    (hseen : (left, state.position) ∈ found.seen) :
    visitUpTo step greedy left found state = found := by
  unfold visitUpTo
  rw [if_pos (by simpa using hseen)]

theorem explored_visitUpTo (hfollows : Follows text once step)
    (hforward : Forward text once) (greedy : Bool) (left : Nat) (found : Found)
    (state : State) (hstate : state.place.IsIn text) :
    Explored (TurnLess text once)
        (fun final => ∃ count ≤ left, Reaches (Times once count) state final)
        found (visitUpTo step greedy left found state) ∧
      (left, state.position) ∈ (visitUpTo step greedy left found state).seen := by
  by_cases hseen : (left, state.position) ∈ found.seen
  · rw [visitUpTo_of_seen hseen]
    exact ⟨.refl found, hseen⟩
  have hself : ∀ bound, ∃ count ≤ bound, Reaches (Times once count) state state :=
    fun _ => ⟨0, Nat.zero_le _, .zero once state⟩
  induction left generalizing found state with
  | zero =>
      unfold visitUpTo
      rw [if_neg (by simpa using hseen)]
      refine Explored.of_marked (.emit (hself 0) _) List.mem_cons_self rfl ?_
      rintro other ⟨hless, -⟩
      omega
  | succ left ih =>
      unfold visitUpTo
      rw [if_neg (by simpa using hseen)]
      have hvisit : ∀ found : Found, [] ⊆ found.seen → ∀ child ∈ step [state],
          (left, child.position) ∉ found.seen →
            Explored (TurnLess text once)
                (fun final => ∃ count ≤ left + 1, Reaches (Times once count) state final)
                found (visitUpTo step greedy left found child) ∧
              (left, child.position) ∈ (visitUpTo step greedy left found child).seen := by
        intro found _ child hchild hunseen
        obtain ⟨hone, hin⟩ := hfollows.of_mem_step hforward hstate hchild
        obtain ⟨hexplored, hmarked⟩ := ih found child hin hunseen
          fun _ => ⟨0, Nat.zero_le _, .zero once child⟩
        refine ⟨hexplored.mono ?_, hmarked⟩
        rintro final ⟨count, hcount, hmore⟩
        exact ⟨count + 1, by omega, hone.succ hmore⟩
      refine Explored.visit (fun found => (step [state]).foldl (visitUpTo step greedy left)
        found) rfl (hself _) ?_ greedy found
      intro found _
      obtain ⟨hexplored, hchildren⟩ := explored_children hfollows hstate hvisit
        (fun _ _ => visitUpTo_of_seen) found (List.nil_subset _)
      refine ⟨hexplored, ?_⟩
      rintro ⟨less, position⟩ ⟨hless, first, final, captured, hfirst, hposition, hspans, rfl⟩
      obtain rfl : first = state.place := hfirst.eq_of_position hstate hposition
      obtain rfl : left = less := by simpa using hless
      exact hchildren final captured hspans

/-- The turns that are left lead to a state that is found. -/
theorem found_of_turns {next : Found} (hforward : Forward text once)
    (hclosed : ∀ key ∈ next.seen, (∃ state ∈ next.states, state.position = key.2) ∧
      ∀ other, TurnLess text once key other → other ∈ next.seen)
    {count left : Nat} (hcount : count ≤ left) {first final : Place} {captured : Captures}
    (hfirst : first.IsIn text) (hmarked : (left, first.position) ∈ next.seen)
    (htimes : Times once count first final captured) :
    ∃ state ∈ next.states, state.position = final.position := by
  induction htimes generalizing left with
  | zero place => exact (hclosed _ hmarked).1
  | @succ count first second final before after hone hmore ih =>
      obtain ⟨less, rfl⟩ : ∃ less, left = less + 1 := ⟨left - 1, by omega⟩
      have hsecond := (hforward hone hfirst).1
      refine ih (by omega) hsecond ((hclosed _ hmarked).2 (less, second.position) ?_)
      exact ⟨rfl, first, second, before, hfirst, rfl, hone, rfl⟩

/-- Up to a number of turns are followed from each state. -/
theorem follows_visitUpTo (hfollows : Follows text once step)
    (hforward : Forward text once) (greedy : Bool) (most : Nat) :
    Follows text (fun first final captured =>
        ∃ count ≤ most, Times once count first final captured)
      fun states => distinct <| states.flatMap fun state =>
        (visitUpTo step greedy most Found.nothing state).result := by
  refine .ofEach ?_ ?_ ?_
  · rintro first final captured ⟨count, -, htimes⟩
    exact hforward.times count htimes
  · intro state final hstate hfinal
    obtain ⟨hexplored, -⟩ :=
      explored_visitUpTo hfollows hforward greedy most Found.nothing state hstate
    obtain ⟨count, hcount, captured, htimes, hcaptures⟩ :=
      hexplored.allowed_of_mem_result hfinal
    exact ⟨captured, ⟨count, hcount, htimes⟩, hcaptures⟩
  · rintro state final captured hstate ⟨count, hcount, htimes⟩
    obtain ⟨hexplored, hmarked⟩ :=
      explored_visitUpTo hfollows hforward greedy most Found.nothing state hstate
    obtain ⟨reached, hreached, hposition⟩ :=
      found_of_turns hforward hexplored.closed hcount hstate hmarked htimes
    obtain ⟨kept, hkept, hsame⟩ := Found.exists_mem_result hreached
    exact ⟨kept, hkept, hsame.trans hposition⟩

/-! ## Any number of turns -/

/-- One turn leads on from a position, unless that is where the turns began. -/
def TurnOn (text : List Char) (once : Stretch) (start : Nat) (key other : Nat × Nat) :
    Prop :=
  key.2 ≠ start ∧ other.1 = 0 ∧ ∃ first final captured, first.IsIn text ∧
    first.position = key.2 ∧ once first final captured ∧ final.position = other.2

theorem visitLoop_of_seen {greedy : Bool} {start fuel : Nat} {found : Found}
    {state : State} (hseen : (0, state.position) ∈ found.seen) :
    visitLoop step greedy start fuel found state = found := by
  cases fuel with
  | zero => rfl
  | succ fuel =>
      unfold visitLoop
      rw [if_pos (by simpa using hseen)]

/-- The characters that are left bound the depth, since whatever is entered lies
ahead. -/
theorem explored_visitLoop (hfollows : Follows text once step)
    (hforward : Forward text once) (greedy : Bool) (start fuel : Nat) (found : Found)
    (state : State) (hstate : state.place.IsIn text)
    (hfuel : state.place.rest.length < fuel) :
    Explored (TurnOn text once start)
        (fun final => ∃ count, Reaches (Times once count) state final)
        found (visitLoop step greedy start fuel found state) ∧
      (0, state.position) ∈ (visitLoop step greedy start fuel found state).seen := by
  by_cases hseen : (0, state.position) ∈ found.seen
  · rw [visitLoop_of_seen hseen]
    exact ⟨.refl found, hseen⟩
  induction fuel generalizing found state with
  | zero => omega
  | succ fuel ih =>
      have hself : ∃ count, Reaches (Times once count) state state := ⟨0, .zero once state⟩
      have hvisit : ∀ found : Found, [(0, state.position)] ⊆ found.seen →
          ∀ child ∈ step [state], (0, child.position) ∉ found.seen →
            Explored (TurnOn text once start)
                (fun final => ∃ count, Reaches (Times once count) state final)
                found (visitLoop step greedy start fuel found child) ∧
              (0, child.position) ∈
                (visitLoop step greedy start fuel found child).seen := by
        intro found hmarks child hchild hunseen
        obtain ⟨hone, hin⟩ := hfollows.of_mem_step hforward hstate hchild
        have hahead : child.place.rest.length < fuel := by
          obtain ⟨_, hspans, -⟩ := hone
          obtain ⟨-, hle⟩ := hforward hspans hstate
          have hne : state.place.position ≠ child.place.position := fun hsame =>
            hunseen (hmarks (by simp [State.position, hsame]))
          have hlength := hstate.position_add_length
          have hchildLength := hin.position_add_length
          omega
        obtain ⟨hexplored, hmarked⟩ := ih found child hin hahead hunseen
        refine ⟨hexplored.mono ?_, hmarked⟩
        rintro final ⟨count, hmore⟩
        exact ⟨count + 1, hone.succ hmore⟩
      unfold visitLoop
      rw [if_neg (by simpa using hseen)]
      refine Explored.visit (fun found => if state.position = start then found
        else (step [state]).foldl (visitLoop step greedy start fuel) found) rfl hself ?_
        greedy found
      intro found hmarks
      split
      next hstart => exact ⟨.refl found, fun _ hon => absurd hstart hon.1⟩
      next =>
        obtain ⟨hexplored, hchildren⟩ := explored_children hfollows hstate hvisit
          (fun _ _ => visitLoop_of_seen) found hmarks
        refine ⟨hexplored, ?_⟩
        rintro ⟨_, _⟩ ⟨-, rfl, first, final, captured, hfirst, hposition, hspans, rfl⟩
        obtain rfl : first = state.place := hfirst.eq_of_position hstate hposition
        exact hchildren final captured hspans

/-- All that is explored from one state on. -/
theorem explored_oneOrMore (hfollows : Follows text once step)
    (hforward : Forward text once) (greedy : Bool) {state : State}
    (hstate : state.place.IsIn text) :
    ∃ next, oneOrMore step greedy state = next.result ∧
      Explored (TurnOn text once state.position)
        (fun final => ∃ count, Reaches (Times once (count + 1)) state final)
        Found.nothing next ∧
      ∀ final captured, once state.place final captured →
        (0, final.position) ∈ next.seen := by
  refine ⟨_, rfl, explored_children hfollows hstate ?_ (fun _ _ => visitLoop_of_seen) _
    (List.nil_subset _)⟩
  intro found _ child hchild hunseen
  obtain ⟨hone, hin⟩ := hfollows.of_mem_step hforward hstate hchild
  have hahead : child.place.rest.length < state.place.rest.length + 2 := by
    obtain ⟨_, hspans, -⟩ := hone
    have hle := (hforward hspans hstate).2
    have hlength := hstate.position_add_length
    have hchildLength := hin.position_add_length
    omega
  obtain ⟨hexplored, hmarked⟩ := explored_visitLoop hfollows hforward greedy
    state.position _ found child hin hahead
  refine ⟨hexplored.mono ?_, hmarked⟩
  rintro final ⟨count, hmore⟩
  exact ⟨count, hone.succ hmore⟩

/-- From a marked place turns lead only to what is found, back over the start too. -/
theorem found_of_loop {next : Found} (hforward : Forward text once) {start : Place}
    (hstart : start.IsIn text)
    (hclosed : ∀ key ∈ next.seen, (∃ state ∈ next.states, state.position = key.2) ∧
      ∀ other, TurnOn text once start.position key other → other ∈ next.seen)
    (hturns : ∀ final captured, once start final captured →
      (0, final.position) ∈ next.seen)
    {count : Nat} {first final : Place} {captured : Captures} (hfirst : first.IsIn text)
    (hmarked : (0, first.position) ∈ next.seen)
    (htimes : Times once count first final captured) :
    ∃ state ∈ next.states, state.position = final.position := by
  induction htimes with
  | zero place => exact (hclosed _ hmarked).1
  | @succ count first second final before after hone hmore ih =>
      refine ih (hforward hone hfirst).1 ?_
      by_cases hagain : first.position = start.position
      · obtain rfl := hfirst.eq_of_position hstart hagain
        exact hturns second before hone
      · exact (hclosed _ hmarked).2 (0, second.position)
          ⟨hagain, rfl, first, second, before, hfirst, rfl, hone, rfl⟩

theorem exists_mem_oneOrMore (hfollows : Follows text once step)
    (hforward : Forward text once) (greedy : Bool) {state : State}
    (hstate : state.place.IsIn text) {count : Nat} {final : Place} {captured : Captures}
    (htimes : Times once (count + 1) state.place final captured) :
    ∃ reached ∈ oneOrMore step greedy state, reached.position = final.position := by
  obtain ⟨next, hresult, hexplored, hturns⟩ :=
    explored_oneOrMore hfollows hforward greedy hstate
  cases htimes with
  | succ hone hmore =>
      obtain ⟨reached, hreached, hposition⟩ := found_of_loop hforward hstate
        hexplored.closed hturns (hforward hone hstate).1 (hturns _ _ hone) hmore
      obtain ⟨kept, hkept, hsame⟩ := Found.exists_mem_result hreached
      exact ⟨kept, hresult ▸ hkept, hsame.trans hposition⟩

theorem reaches_of_mem_oneOrMore (hfollows : Follows text once step)
    (hforward : Forward text once) {greedy : Bool} {state final : State}
    (hstate : state.place.IsIn text) (hfinal : final ∈ oneOrMore step greedy state) :
    ∃ count, Reaches (Times once (count + 1)) state final := by
  obtain ⟨next, hresult, hexplored, -⟩ :=
    explored_oneOrMore hfollows hforward greedy hstate
  rw [hresult] at hfinal
  exact hexplored.allowed_of_mem_result hfinal

/-- One turn and more are followed from each state. -/
theorem follows_oneOrMore (hfollows : Follows text once step)
    (hforward : Forward text once) (greedy : Bool) :
    Follows text (fun first final captured =>
        ∃ count, 1 ≤ count ∧ Times once count first final captured)
      fun states => distinct (states.flatMap (oneOrMore step greedy)) := by
  refine .ofEach ?_ ?_ ?_
  · rintro first final captured ⟨count, -, htimes⟩
    exact hforward.times count htimes
  · intro state final hstate hfinal
    obtain ⟨count, captured, htimes, hcaptures⟩ :=
      reaches_of_mem_oneOrMore hfollows hforward hstate hfinal
    exact ⟨captured, ⟨count + 1, by omega, htimes⟩, hcaptures⟩
  · rintro state final captured hstate ⟨count, hcount, htimes⟩
    obtain ⟨more, rfl⟩ := Nat.exists_eq_add_of_le' hcount
    exact exists_mem_oneOrMore hfollows hforward greedy hstate htimes

/-- No turn is taken, or one and more. -/
theorem follows_noneOrMore (hfollows : Follows text once step)
    (hforward : Forward text once) (greedy : Bool) :
    Follows text (fun first final captured => ∃ count, Times once count first final captured)
      fun states => distinct <| states.flatMap fun state =>
        if greedy then oneOrMore step greedy state ++ [state]
        else state :: oneOrMore step greedy state := by
  have hmem : ∀ state final : State,
      (final ∈ if greedy then oneOrMore step greedy state ++ [state]
        else state :: oneOrMore step greedy state) ↔
          final = state ∨ final ∈ oneOrMore step greedy state := by
    intro state final
    cases greedy <;> simp [or_comm]
  refine .ofEach ?_ ?_ ?_
  · rintro first final captured ⟨count, htimes⟩
    exact hforward.times count htimes
  · intro state final hstate hfinal
    rcases (hmem state final).mp hfinal with rfl | hmore
    · exact ⟨[], ⟨0, .zero _⟩, rfl⟩
    · obtain ⟨count, captured, htimes, hcaptures⟩ :=
        reaches_of_mem_oneOrMore hfollows hforward hstate hmore
      exact ⟨captured, ⟨count + 1, htimes⟩, hcaptures⟩
  · rintro state final captured hstate ⟨count, htimes⟩
    cases count with
    | zero =>
        cases htimes
        exact ⟨state, (hmem state state).mpr (Or.inl rfl), rfl⟩
    | succ count =>
        obtain ⟨reached, hreached, hposition⟩ :=
          exists_mem_oneOrMore hfollows hforward greedy hstate htimes
        exact ⟨reached, (hmem state reached).mpr (Or.inr hreached), hposition⟩

/-! ## Repetitions -/

theorem Follows.congr {other : Stretch} (hfollows : Follows text stretch step)
    (hsame : ∀ first final captured, stretch first final captured ↔
      other first final captured) : Follows text other step := by
  obtain rfl : stretch = other := by
    funext first final captured
    exact propext (hsame first final captured)
  exact hfollows

/-- One stretch after another. -/
def Stretch.andThen (one other : Stretch) : Stretch := fun first final captured =>
  ∃ middle before after, one first middle before ∧ other middle final after ∧
    captured = after ++ before

theorem Follows.andThen {one other : Stretch} {first second : List State → List State}
    (hone : Follows text one first) (hforward : Forward text one)
    (hother : Follows text other second) :
    Follows text (one.andThen other) fun states => second (first states) where
  sound := by
    intro states final hstates hfinal
    obtain ⟨middle, hmiddle, after, hafter, hsecond⟩ :=
      hother.sound (hone.allIn hforward hstates) hfinal
    obtain ⟨state, hstate, before, hbefore, hfirst⟩ := hone.sound hstates hmiddle
    exact ⟨state, hstate, _, ⟨_, before, after, hbefore, hafter, rfl⟩,
      by rw [hsecond, hfirst, List.append_assoc]⟩
  complete := by
    rintro states state final captured hstates hstate
      ⟨middle, before, after, hbefore, hafter, -⟩
    obtain ⟨reached, hreached, rfl⟩ := hone.complete hstates hstate hbefore
    exact hother.complete (hone.allIn hforward hstates) hreached hafter

/-- A number of times and then some more. -/
theorem times_andThen_iff {least : Nat} {extra : Nat → Prop} {first final : Place}
    {captured : Captures} :
    (Times once least).andThen (fun first final captured =>
        ∃ count, extra count ∧ Times once count first final captured)
        first final captured ↔
      ∃ count, extra count ∧ Times once (least + count) first final captured := by
  constructor
  · rintro ⟨middle, before, after, hbefore, ⟨count, hextra, hafter⟩, rfl⟩
    exact ⟨count, hextra, times_add hbefore hafter⟩
  · rintro ⟨count, hextra, htimes⟩
    obtain ⟨middle, before, after, hbefore, hafter, rfl⟩ := times_split htimes
    exact ⟨middle, before, after, hbefore, ⟨count, hextra, hafter⟩, rfl⟩

theorem Follows.turns (hfollows : Follows text once step) (hforward : Forward text once)
    (least : Nat) (most : Option Nat) (greedy : Bool) :
    Follows text (Within least most once) (turns step least most greedy) := by
  have hleast := hfollows.exactly hforward least
  unfold Regex.turns
  cases most with
  | some bound =>
      simp only
      split
      next hbound =>
        refine hleast.congr fun first final captured => ⟨fun htimes => ?_, ?_⟩
        · exact ⟨least, Nat.le_refl _, fun _ _ => Nat.le_max_left _ _, htimes⟩
        · rintro ⟨count, hcount, hmost, htimes⟩
          have hle := hmost bound rfl
          obtain rfl : count = least := by omega
          exact htimes
      next hbound =>
        refine (hleast.andThen (hforward.times least)
          (follows_visitUpTo hfollows hforward greedy (bound - least))).congr
            fun first final captured => times_andThen_iff.trans ⟨?_, ?_⟩
        · rintro ⟨count, hcount, htimes⟩
          refine ⟨least + count, Nat.le_add_right _ _, ?_, htimes⟩
          rintro _ ⟨⟩
          omega
        · rintro ⟨count, hcount, hmost, htimes⟩
          have hle := hmost bound rfl
          refine ⟨count - least, by omega, ?_⟩
          rwa [Nat.add_sub_cancel' hcount]
  | none =>
      simp only
      split
      next hleast =>
        refine (follows_noneOrMore hfollows hforward greedy).congr
          fun first final captured => ⟨?_, ?_⟩
        · rintro ⟨count, htimes⟩
          exact ⟨count, by omega, by simp, htimes⟩
        · rintro ⟨count, -, -, htimes⟩
          exact ⟨count, htimes⟩
      next hsome =>
        refine ((hfollows.exactly hforward (least - 1)).andThen
          (hforward.times (least - 1)) (follows_oneOrMore hfollows hforward greedy)).congr
            fun first final captured => times_andThen_iff.trans ⟨?_, ?_⟩
        · rintro ⟨count, hcount, htimes⟩
          exact ⟨least - 1 + count, by omega, by simp, htimes⟩
        · rintro ⟨count, hcount, -, htimes⟩
          refine ⟨count - (least - 1), by omega, ?_⟩
          rwa [Nat.add_sub_cancel' (by omega)]

end Follows

end EdgeGateway.Regex
