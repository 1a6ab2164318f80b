/-!
# What a run tells

A run is a fold of events over a state, and each step may tell something.  The
chronicle of a run is all of that in order.  It grows at its end as the run does,
so a run and its chronicle are followed by induction from the right.
-/

namespace EdgeGateway

variable {State Event Told View : Type}

/-- What the steps of a run tell, oldest first. -/
def chronicle (step : State → Event → State) (told : State → Event → List Told)
    (state : State) : List Event → List Told
  | [] => []
  | event :: events =>
      told state event ++ chronicle step told (step state event) events

theorem chronicle_concat (step : State → Event → State)
    (told : State → Event → List Told) (state : State) (events : List Event)
    (event : Event) :
    chronicle step told state (events ++ [event]) =
      chronicle step told state events ++ told (events.foldl step state) event := by
  induction events generalizing state with
  | nil => simp [chronicle]
  | cons first events ih =>
      rw [List.cons_append, chronicle, chronicle, ih, List.append_assoc]
      rfl

theorem filterMap_chronicle {Shown : Type} (step : State → Event → State)
    (told : State → Event → List Told) (show? : Told → Option Shown) (state : State)
    (events : List Event) :
    (chronicle step told state events).filterMap show? =
      chronicle step (fun state event => (told state event).filterMap show?) state
        events := by
  induction events generalizing state with
  | nil => rfl
  | cons event events ih => rw [chronicle, chronicle, List.filterMap_append, ih]

/-- Whatever a run tells is told by one of its events. -/
theorem split_of_chronicle_eq {step : State → Event → State}
    {told : State → Event → List Told} {state : State} {events : List Event}
    {before after : List Told} {item : Told}
    (hsplit : chronicle step told state events = before ++ item :: after) :
    ∃ earlier event later, events = earlier ++ event :: later ∧
      ∃ first rest, told (earlier.foldl step state) event = first ++ item :: rest ∧
        before = chronicle step told state earlier ++ first := by
  induction events generalizing state before with
  | nil => simp [chronicle] at hsplit
  | cons event events ih =>
      -- The event tells the item itself, or the item comes later.
      have hcases : (∃ first rest, told state event = first ++ item :: rest ∧
            before = first) ∨
          ∃ others, before = told state event ++ others ∧
            chronicle step told (step state event) events =
              others ++ item :: after := by
        rw [chronicle] at hsplit
        rcases List.append_eq_append_iff.mp hsplit with
          ⟨others, hbefore, hrest⟩ | ⟨others, htold, hrest⟩
        · exact Or.inr ⟨others, hbefore, hrest⟩
        · cases others with
          | nil =>
              exact Or.inr ⟨[], by simpa using htold.symm, by simpa using hrest.symm⟩
          | cons first rest =>
              obtain ⟨rfl, -⟩ := List.cons.inj hrest
              exact Or.inl ⟨before, rest, htold, rfl⟩
      rcases hcases with ⟨first, rest, htold, rfl⟩ | ⟨others, rfl, hlater⟩
      · exact ⟨[], event, events, rfl, before, rest, htold, by simp [chronicle]⟩
      · obtain ⟨earlier, told', later, rfl, first, rest, htold, rfl⟩ := ih hlater
        refine ⟨event :: earlier, told', later, rfl, first, rest, htold, ?_⟩
        rw [chronicle, List.append_assoc]

theorem chronicle_sublist {step : State → Event → State}
    {told others : State → Event → List Told}
    (hstep : ∀ state event, (told state event).Sublist (others state event))
    (state : State) (events : List Event) :
    (chronicle step told state events).Sublist
      (chronicle step others state events) := by
  induction events generalizing state with
  | nil => exact List.Sublist.refl _
  | cons event events ih => exact (hstep state event).append (ih _)

/-- What no step changes no run changes. -/
theorem foldl_unchanged {step : State → Event → State} {view : State → View}
    (hstep : ∀ state event, view (step state event) = view state) (state : State)
    (events : List Event) : view (events.foldl step state) = view state := by
  induction events generalizing state with
  | nil => rfl
  | cons event events ih => rw [List.foldl_cons, ih, hstep]

end EdgeGateway
