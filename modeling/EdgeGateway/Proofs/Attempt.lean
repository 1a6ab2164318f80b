/-!
# Attempts

An attempt gives a value or an error.  Of two attempts in a row each has to
succeed for the whole to succeed, so a success is taken apart from its end.
-/

namespace EdgeGateway

variable {Fault Value Result : Type}

theorem bind_eq_ok_iff {attempt : Except Fault Value}
    {next : Value → Except Fault Result} {result : Result} :
    attempt >>= next = .ok result ↔
      ∃ value, attempt = .ok value ∧ next value = .ok result := by
  cases attempt with
  | error fault => simp [bind, Except.bind]
  | ok value => simp [bind, Except.bind]

theorem bind_eq_error_iff {attempt : Except Fault Value}
    {next : Value → Except Fault Result} {fault : Fault} :
    attempt >>= next = .error fault ↔
      attempt = .error fault ∨ ∃ value, attempt = .ok value ∧ next value = .error fault := by
  cases attempt with
  | error other => simp [bind, Except.bind]
  | ok value => simp [bind, Except.bind]

theorem map_eq_ok_iff {attempt : Except Fault Value} {change : Value → Result}
    {result : Result} :
    attempt.map change = .ok result ↔
      ∃ value, attempt = .ok value ∧ change value = result := by
  cases attempt with
  | error fault => simp [Except.map]
  | ok value => simp [Except.map]

theorem pure_eq_ok_iff {value result : Value} :
    (pure value : Except Fault Value) = .ok result ↔ value = result := by
  simp [pure, Except.pure]

theorem throw_ne_ok {fault : Fault} {result : Value} :
    (throw fault : Except Fault Value) ≠ .ok result := by
  simp [throw, throwThe, MonadExceptOf.throw]

theorem exists_ok_of_any {attempt : Except Fault Value} {test : Value → Bool}
    (htest : attempt.toOption.any test = true) :
    ∃ value, attempt = .ok value ∧ test value = true := by
  cases attempt with
  | error fault => simp [Except.toOption] at htest
  | ok value => exact ⟨value, rfl, htest⟩

theorem eq_error_of_test [DecidableEq Fault] {attempt : Except Fault Value} {fault : Fault}
    (htest : (match attempt with
      | .ok _ => false
      | .error other => decide (other = fault)) = true) : attempt = .error fault := by
  cases attempt with
  | ok value => simp at htest
  | error other => exact congrArg Except.error (of_decide_eq_true htest)

/-- A list passes a check if all its members do. -/
theorem forM_eq_ok_iff {Item : Type} {check : Item → Except Fault Unit}
    {items : List Item} :
    items.forM check = .ok () ↔ ∀ item ∈ items, check item = .ok () := by
  induction items with
  | nil => simp [pure, Except.pure]
  | cons item items ih =>
      have hcons : (item :: items).forM check =
          check item >>= fun _ => items.forM check := rfl
      rw [hcons, bind_eq_ok_iff, List.forall_mem_cons, ← ih]
      constructor
      · rintro ⟨⟨⟩, hcheck, hrest⟩
        exact ⟨hcheck, hrest⟩
      · rintro ⟨hcheck, hrest⟩
        exact ⟨(), hcheck, hrest⟩

/-- The fault that a check of a list meets is that of a member. -/
theorem exists_of_forM_eq_error {Item : Type} {check : Item → Except Fault Unit}
    {items : List Item} {fault : Fault} (hfault : items.forM check = .error fault) :
    ∃ item ∈ items, check item = .error fault := by
  induction items with
  | nil => simp [pure, Except.pure] at hfault
  | cons item items ih =>
      have hcons : (item :: items).forM check =
          check item >>= fun _ => items.forM check := rfl
      rw [hcons, bind_eq_error_iff] at hfault
      rcases hfault with hfirst | ⟨⟨⟩, -, hrest⟩
      · exact ⟨item, List.mem_cons_self, hfirst⟩
      · obtain ⟨other, hother, hcheck⟩ := ih hrest
        exact ⟨other, List.mem_cons_of_mem _ hother, hcheck⟩

/-- A list is taken in by a function if all its members are, in order. -/
theorem mem_of_mapM_eq_ok {Item : Type} {convert : Item → Except Fault Value}
    {items : List Item} {values : List Value}
    (hvalues : items.mapM convert = .ok values) {value : Value}
    (hvalue : value ∈ values) : ∃ item ∈ items, convert item = .ok value := by
  induction items generalizing values with
  | nil =>
      rw [List.mapM_nil, pure_eq_ok_iff] at hvalues
      simp [← hvalues] at hvalue
  | cons item items ih =>
      rw [List.mapM_cons, bind_eq_ok_iff] at hvalues
      obtain ⟨first, hfirst, hmore⟩ := hvalues
      obtain ⟨rest, hrest, hresult⟩ := bind_eq_ok_iff.mp hmore
      obtain rfl := pure_eq_ok_iff.mp hresult
      rcases List.mem_cons.mp hvalue with rfl | hvalue
      · exact ⟨item, List.mem_cons_self, hfirst⟩
      · obtain ⟨other, hother, hconvert⟩ := ih hrest hvalue
        exact ⟨other, List.mem_cons_of_mem _ hother, hconvert⟩

end EdgeGateway
