import EdgeGateway.Regex.Matcher

/-!
# Exploring

An exploration marks what it has entered, so that it enters nothing twice.
`Explored` says what it adds: all that it marks it has found, and with it the marks
of everything that follows.  So an exploration that began with nothing has found
all that it can come to.
-/

namespace EdgeGateway.Regex

/-! ## One state for each position -/

theorem mem_of_mem_distinctFrom {seen : List Nat} {states : List State} {state : State}
    (hkept : state ∈ distinctFrom seen states) : state ∈ states := by
  induction states generalizing seen with
  | nil => simp [distinctFrom] at hkept
  | cons head states ih =>
      unfold distinctFrom at hkept
      split at hkept
      next => exact List.mem_cons_of_mem _ (ih hkept)
      next =>
        rcases List.mem_cons.mp hkept with rfl | hkept
        · exact List.mem_cons_self
        · exact List.mem_cons_of_mem _ (ih hkept)

theorem exists_mem_distinctFrom {seen : List Nat} {states : List State} {state : State}
    (hstate : state ∈ states) (hunseen : state.position ∉ seen) :
    ∃ kept ∈ distinctFrom seen states, kept.position = state.position := by
  induction states generalizing seen with
  | nil => simp at hstate
  | cons head states ih =>
      unfold distinctFrom
      by_cases hsame : head.position = state.position
      · refine ⟨head, ?_, hsame⟩
        rw [← hsame] at hunseen
        simp [hunseen]
      · have htail : state ∈ states := by
          rcases List.mem_cons.mp hstate with rfl | htail
          · exact absurd rfl hsame
          · exact htail
        split
        next => exact ih htail hunseen
        next =>
          have hstill : state.position ∉ head.position :: seen := by
            simp [hunseen, Ne.symm hsame]
          obtain ⟨kept, hkept, hposition⟩ := ih htail hstill
          exact ⟨kept, List.mem_cons_of_mem _ hkept, hposition⟩

theorem mem_of_mem_distinct {states : List State} {state : State}
    (hkept : state ∈ distinct states) : state ∈ states := by
  unfold distinct at hkept
  split at hkept
  · exact hkept
  · exact hkept
  · exact mem_of_mem_distinctFrom hkept

theorem exists_mem_distinct {states : List State} {state : State}
    (hstate : state ∈ states) :
    ∃ kept ∈ distinct states, kept.position = state.position := by
  unfold distinct
  split
  · simp at hstate
  · exact ⟨state, hstate, rfl⟩
  · exact exists_mem_distinctFrom hstate (by simp)

/-! ## What an exploration adds -/

/-- An exploration keeps what was seen and found before.  What it adds is made in
an allowed way, and what it marks it has found, with all that follows from it. -/
structure Explored (follows : Nat × Nat → Nat × Nat → Prop) (allowed : State → Prop)
    (found next : Found) : Prop where
  seen : found.seen ⊆ next.seen
  states : found.states ⊆ next.states
  made : ∀ state ∈ next.states, state ∈ found.states ∨ allowed state
  fresh : ∀ key ∈ next.seen, key ∉ found.seen →
    (∃ state ∈ next.states, state.position = key.2) ∧
      ∀ other, follows key other → other ∈ next.seen

namespace Explored

variable {follows : Nat × Nat → Nat × Nat → Prop} {allowed : State → Prop}
variable {found middle next : Found}

theorem refl (found : Found) : Explored follows allowed found found where
  seen := List.Subset.refl _
  states := List.Subset.refl _
  made _ hstate := Or.inl hstate
  fresh _ hkey hnew := absurd hkey hnew

theorem trans (hfirst : Explored follows allowed found middle)
    (hsecond : Explored follows allowed middle next) :
    Explored follows allowed found next where
  seen := List.Subset.trans hfirst.seen hsecond.seen
  states := List.Subset.trans hfirst.states hsecond.states
  made state hstate := by
    rcases hsecond.made state hstate with hbefore | hallowed
    · exact hfirst.made state hbefore
    · exact Or.inr hallowed
  fresh key hkey hnew := by
    by_cases hmiddle : key ∈ middle.seen
    · obtain ⟨⟨state, hstate, hposition⟩, hfollows⟩ := hfirst.fresh key hmiddle hnew
      exact ⟨⟨state, hsecond.states hstate, hposition⟩,
        fun other hother => hsecond.seen (hfollows other hother)⟩
    · exact hsecond.fresh key hkey hmiddle

theorem mono {others : State → Prop} (hexplored : Explored follows allowed found next)
    (hmore : ∀ state, allowed state → others state) :
    Explored follows others found next where
  seen := hexplored.seen
  states := hexplored.states
  made state hstate := (hexplored.made state hstate).imp_right (hmore state)
  fresh := hexplored.fresh

/-- One state after the other is explored, and all are marked in the end.  Marks of
before can be relied upon. -/
theorem foldl {visit : Found → State → Found} (key : State → Nat × Nat)
    {marks : List (Nat × Nat)} {children : List State}
    (hvisit : ∀ found, marks ⊆ found.seen → ∀ child ∈ children, key child ∉ found.seen →
      Explored follows allowed found (visit found child) ∧
        key child ∈ (visit found child).seen)
    (hskip : ∀ found child, key child ∈ found.seen → visit found child = found)
    (found : Found) (hmarks : marks ⊆ found.seen) :
    Explored follows allowed found (children.foldl visit found) ∧
      ∀ child ∈ children, key child ∈ (children.foldl visit found).seen := by
  induction children generalizing found with
  | nil => exact ⟨refl found, by simp⟩
  | cons child children ih =>
      obtain ⟨hone, hmarked⟩ : Explored follows allowed found (visit found child) ∧
          key child ∈ (visit found child).seen := by
        by_cases hseen : key child ∈ found.seen
        · rw [hskip found child hseen]
          exact ⟨refl found, hseen⟩
        · exact hvisit found hmarks child List.mem_cons_self hseen
      obtain ⟨hmore, hothers⟩ := ih
        (fun found hmarks other hother =>
          hvisit found hmarks other (List.mem_cons_of_mem _ hother))
        (visit found child) (List.Subset.trans hmarks hone.seen)
      refine ⟨hone.trans hmore, ?_⟩
      intro other hother
      rcases List.mem_cons.mp hother with rfl | hother
      · exact hmore.seen hmarked
      · exact hothers other hother

theorem emit {state : State} (hallowed : allowed state) (found : Found) :
    Explored follows allowed found (found.emit state) where
  seen := List.Subset.refl _
  states := List.subset_cons_self _ _
  made other hother := by
    rcases List.mem_cons.mp hother with rfl | hother
    · exact Or.inr hallowed
    · exact Or.inl hother
  fresh _ hkey hnew := absurd hkey hnew

/-- A key may be marked first if in the end all that belongs to it is there. -/
theorem of_marked {key : Nat × Nat} {state : State}
    (hexplored : Explored follows allowed { found with seen := key :: found.seen } next)
    (hstate : state ∈ next.states) (hposition : state.position = key.2)
    (hfollows : ∀ other, follows key other → other ∈ next.seen) :
    Explored follows allowed found next ∧ key ∈ next.seen := by
  refine ⟨⟨?_, hexplored.states, hexplored.made, ?_⟩, hexplored.seen List.mem_cons_self⟩
  · exact fun other hother => hexplored.seen (List.mem_cons_of_mem _ hother)
  · intro other hother hnew
    by_cases hself : other = key
    · subst hself
      exact ⟨⟨state, hstate, hposition⟩, hfollows⟩
    · exact hexplored.fresh other hother fun hmem =>
        (List.mem_cons.mp hmem).elim hself hnew

/-- What is entered is found before or after what follows from it. -/
theorem visit {key : Nat × Nat} {state : State} (explore : Found → Found)
    (hposition : state.position = key.2) (hallowed : allowed state)
    (hexplore : ∀ found, [key] ⊆ found.seen →
      Explored follows allowed found (explore found) ∧
        ∀ other, follows key other → other ∈ (explore found).seen)
    (greedy : Bool) (found : Found) :
    let marked : Found := { found with seen := key :: found.seen }
    let next := if greedy then (explore marked).emit state else explore (marked.emit state)
    Explored follows allowed found next ∧ key ∈ next.seen := by
  intro marked next
  cases greedy with
  | true =>
      obtain ⟨hexplored, hfollows⟩ := hexplore marked (by simp [marked])
      exact of_marked (hexplored.trans (emit hallowed _)) List.mem_cons_self hposition
        hfollows
  | false =>
      obtain ⟨hexplored, hfollows⟩ :=
        hexplore (marked.emit state) (by simp [marked, Found.emit])
      exact of_marked ((emit hallowed _).trans hexplored)
        (hexplored.states List.mem_cons_self) hposition hfollows

theorem closed (hexplored : Explored follows allowed Found.nothing next) :
    ∀ key ∈ next.seen, (∃ state ∈ next.states, state.position = key.2) ∧
      ∀ other, follows key other → other ∈ next.seen :=
  fun key hkey => hexplored.fresh key hkey (by simp [Found.nothing])

theorem allowed_of_mem_result (hexplored : Explored follows allowed Found.nothing next)
    {state : State} (hstate : state ∈ next.result) : allowed state := by
  have hfound := List.mem_reverse.mp (mem_of_mem_distinct hstate)
  exact (hexplored.made state hfound).resolve_left (by simp [Found.nothing])

end Explored

theorem Found.exists_mem_result {found : Found} {state : State}
    (hstate : state ∈ found.states) :
    ∃ kept ∈ found.result, kept.position = state.position :=
  exists_mem_distinct (List.mem_reverse.mpr hstate)

end EdgeGateway.Regex
