import EdgeGateway.Proofs.Gateway.Writers

/-!
# Header filters in their order

The filters of a route stand in a list, and each of them could act on the header
fields when its turn comes.  A route collects its removals and its additions
instead and carries out all removals before the first addition.  For most lists
this is the same.  It is not for a name that is set and taken back later: the
removal comes too early then, and the value stays.
-/

namespace EdgeGateway

open Http (Headers)
open Http.Headers (lastWriter? setAll values_setAll writes)

namespace Route.Filter

/-- What a filter does to header fields when its turn comes. -/
def turn (headers : Headers) : Filter → Headers
  | addHeader name value => headers.set name value
  | removeHeader name => headers.erase name
  | _ => headers

/-- The header fields after every filter has had its turn. -/
def inTurn (filters : List Filter) (headers : Headers) : Headers :=
  filters.foldl turn headers

/-- The field that a filter sets under a name. -/
def setting? (name : String) (filter : Filter) : Option (String × String) :=
  (addition? filter).filter (writes name)

/-- Whether a filter removes the fields of a name. -/
def removes (name : String) (filter : Filter) : Bool :=
  (removal? filter).any (Text.equalIgnoringCase · name)

/-- A filter gives a name its last value, and a later one removes the name. -/
def TakenBack (filters : List Filter) (name value : String) : Prop :=
  ∃ before added after,
    filters = before ++ addHeader added value :: after ∧
      writes name (added, value) = true ∧
      (∀ filter ∈ after, filter.setting? name = none) ∧
      ∃ filter ∈ after, filter.removes name = true

theorem setting?_eq_some_iff {name : String} {filter : Filter} {field : String × String} :
    filter.setting? name = some field ↔
      filter = addHeader field.1 field.2 ∧ writes name field = true := by
  unfold setting?
  rw [Option.filter_eq_some_iff]
  refine and_congr_left fun _ => ?_
  obtain ⟨known, value⟩ := field
  cases filter <;> simp [addition?]

/-- Of the filters that set a name the last one leaves its field. -/
theorem lastWriter?_additions (filters : List Filter) (name : String) :
    lastWriter? (filters.filterMap addition?) name =
      (filters.filterMap (setting? name)).getLast? := by
  rw [lastWriter?, List.filter_filterMap]
  rfl

/-! ## One turn after the other -/

/-- A filter that does not set a name removes its values or keeps them. -/
theorem values_turn {name : String} {filter : Filter}
    (hkeeps : filter.setting? name = none) (headers : Headers) :
    (turn headers filter).values name =
      if filter.removes name then [] else headers.values name := by
  cases filter with
  | addHeader known value =>
      have hother : writes name (known, value) = false := by
        simpa [setting?, addition?] using hkeeps
      rw [turn, Headers.values_set headers (known, value) name, hother]
      simp [removes, removal?]
  | removeHeader known =>
      have hremoves : (removeHeader known).removes name =
          Text.equalIgnoringCase known name := rfl
      rw [turn, Headers.values_erase, hremoves]
  | _ => simp [turn, removes, removal?]

theorem values_inTurn {name : String} {filters : List Filter}
    (hkeep : ∀ filter ∈ filters, filter.setting? name = none) (headers : Headers) :
    (inTurn filters headers).values name =
      if filters.any (removes name) then [] else headers.values name := by
  induction filters generalizing headers with
  | nil => rfl
  | cons filter filters ih =>
      obtain ⟨hfilter, hfilters⟩ := List.forall_mem_cons.mp hkeep
      rw [inTurn, List.foldl_cons, ← inTurn, ih hfilters, values_turn hfilter,
        List.any_cons]
      cases filter.removes name <;> cases filters.any (removes name) <;> rfl

theorem values_inTurn_of_last {name added value : String}
    (hwrites : writes name (added, value) = true) (before : List Filter)
    {after : List Filter} (hafter : ∀ filter ∈ after, filter.setting? name = none)
    (headers : Headers) :
    (inTurn (before ++ addHeader added value :: after) headers).values name =
      if after.any (removes name) then [] else [value] := by
  have hset := Headers.values_set (inTurn before headers) (added, value) name
  rw [hwrites, if_pos rfl] at hset
  rw [inTurn, List.foldl_append, List.foldl_cons, ← inTurn, ← inTurn,
    values_inTurn hafter, turn, hset]

/-! ## Removals before additions -/

/-- All removals, and then all additions. -/
def collected (filters : List Filter) (headers : Headers) : Headers :=
  (((filters.filterMap removal?).map Text.lowerAscii).foldl Headers.erase headers).setAll
    (filters.filterMap addition?)

theorem any_removes (filters : List Filter) (name : String) :
    ((filters.filterMap removal?).map Text.lowerAscii).any
        (Text.equalIgnoringCase · name) = filters.any (removes name) := by
  induction filters with
  | nil => rfl
  | cons filter filters ih =>
      cases filter <;>
        simp [removal?, removes, Text.equalIgnoringCase] at ih ⊢ <;> simp [ih]

theorem values_collected (filters : List Filter) (headers : Headers) (name : String) :
    (collected filters headers).values name =
      match (filters.filterMap (setting? name)).getLast? with
      | some field => [field.2]
      | none => if filters.any (removes name) then [] else headers.values name := by
  rw [collected, values_setAll, lastWriter?_additions]
  cases (filters.filterMap (setting? name)).getLast? with
  | some field => rfl
  | none =>
      dsimp only
      rw [Headers.values_eraseAll, any_removes]

/-- A name has a last setting, or it has none. -/
theorem setting_cases (filters : List Filter) (name : String) :
    (∀ filter ∈ filters, filter.setting? name = none) ∨
      ∃ before added value after,
        filters = before ++ addHeader added value :: after ∧
          writes name (added, value) = true ∧
          ∀ filter ∈ after, filter.setting? name = none := by
  rcases List.eq_nil_or_concat (filters.filterMap (setting? name)) with
    hnone | ⟨earlier, ⟨added, value⟩, hlast⟩
  · exact Or.inl (List.filterMap_eq_nil_iff.mp hnone)
  · obtain ⟨before, rest, rfl, -, hrest⟩ := List.filterMap_eq_append_iff.mp (hlast.trans List.concat_eq_append)
    obtain ⟨between, filter, after, rfl, -, hfilter, hafter⟩ :=
      List.filterMap_eq_cons_iff.mp hrest
    obtain ⟨rfl, hwrites⟩ := setting?_eq_some_iff.mp hfilter
    exact Or.inr ⟨before ++ between, added, value, after, by simp, hwrites,
      List.filterMap_eq_nil_iff.mp hafter⟩

theorem getLast?_settings {name added value : String}
    (hwrites : writes name (added, value) = true) (before : List Filter)
    {after : List Filter} (hafter : ∀ filter ∈ after, filter.setting? name = none) :
    ((before ++ addHeader added value :: after).filterMap (setting? name)).getLast? =
      some (added, value) := by
  have hsetting : (addHeader added value).setting? name = some (added, value) :=
    setting?_eq_some_iff.mpr ⟨rfl, hwrites⟩
  rw [List.filterMap_append, List.filterMap_cons_some hsetting,
    List.filterMap_eq_nil_iff.mpr hafter, List.getLast?_append]
  rfl

/-- What was taken back in turn is still there if removals come first. -/
theorem TakenBack.values {filters : List Filter} {name value : String}
    (htaken : TakenBack filters name value) (headers : Headers) :
    (collected filters headers).values name = [value] ∧
      (inTurn filters headers).values name = [] := by
  obtain ⟨before, added, after, rfl, hwrites, hafter, hremoved⟩ := htaken
  have hany : after.any (removes name) = true := List.any_eq_true.mpr hremoved
  constructor
  · rw [values_collected, getLast?_settings hwrites before hafter]
  · rw [values_inTurn_of_last hwrites before hafter, if_pos hany]

/-- Without that both orders leave the same values. -/
theorem values_collected_of_kept {filters : List Filter} {name : String}
    (hkept : ∀ value, ¬ TakenBack filters name value) (headers : Headers) :
    (collected filters headers).values name = (inTurn filters headers).values name := by
  rcases setting_cases filters name with
    hnone | ⟨before, added, value, after, rfl, hwrites, hafter⟩
  · rw [values_collected, values_inTurn hnone, List.filterMap_eq_nil_iff.mpr hnone]
    rfl
  · have hany : ¬ after.any (removes name) = true := fun hany =>
      hkept value ⟨before, added, after, rfl, hwrites, hafter, List.any_eq_true.mp hany⟩
    rw [values_collected, getLast?_settings hwrites before hafter,
      values_inTurn_of_last hwrites before hafter, if_neg hany]

end Route.Filter

namespace Gateway

open Route.Filter (TakenBack collected inTurn)

/-- The names that go to no backend. -/
def isStopped (name : String) : Bool :=
  Http.isHopByHop name || Text.equalIgnoringCase "host" name ||
    Text.equalIgnoringCase "content-length" name

/-- All fields of the headers may go to a backend. -/
def Forwardable (headers : Headers) : Prop :=
  ∀ name, isStopped name = true → headers.values name = []

theorem isStopped_lowerAscii (name : String) :
    isStopped (Text.lowerAscii name) = isStopped name := by
  rw [isStopped, Http.isHopByHop_congr (Text.lowerAscii_lowerAscii name)]
  simp [isStopped, Text.equalIgnoringCase]

theorem forwardable_of_fields {headers : Headers}
    (hfields : ∀ field ∈ headers.fields, isStopped field.1 = false) :
    Forwardable headers := by
  intro name hstopped
  apply List.filterMap_eq_nil_iff.mpr
  rintro ⟨known, value⟩ hfield
  apply if_neg
  rintro rfl
  have hother := hfields _ hfield
  rw [isStopped_lowerAscii, hstopped] at hother
  exact Bool.noConfusion hother

theorem values_forwardable_of_forwardable {headers : Headers}
    (hforwardable : Forwardable headers) (name : String) :
    (forwardable headers).values name = headers.values name := by
  rw [values_forwardable, ← isStopped]
  split
  next hstopped => exact (hforwardable name hstopped).symm
  next => rfl

theorem editHeaders_ofSelection (request : Http.Request) (route : Route.Resolved)
    (selection : Route.Selection) (headers : Headers) :
    editHeaders (.ofSelection request route selection) headers =
      collected route.filters headers := by
  have hadds : (Route.Match.ofSelection request route selection).addHeaders =
      route.filters.filterMap Route.Filter.addition? :=
    Route.Filter.addHeaders_applyAll _ _ _
  have hremoves : (Route.Match.ofSelection request route selection).removeHeaders =
      (route.filters.filterMap Route.Filter.removal?).map Text.lowerAscii :=
    Route.Filter.removeHeaders_applyAll _ _ _
  rw [editHeaders, hadds, hremoves, collected]
  rfl

/-- Before the gateway sets its own fields, a name has the values that the header
filters leave one after the other, unless one of them sets the name and a later
one takes it back: the backend then still sees what was set. -/
theorem header_filters_in_turn (settings : Settings) (context : Http.Context)
    (request : Http.Request) (hrequest : Forwardable request.headers)
    (route : Route.Resolved) (selection : Route.Selection) :
    let found := Route.Match.ofSelection request route selection
    let edited := editHeaders found (forwardable request.headers)
    let expected := inTurn route.filters request.headers
    (forwardRequest settings context request found).headers =
        setContext settings context edited ∧
      (∀ name, edited.values name = expected.values name ↔
        ∀ value, ¬ TakenBack route.filters name value) ∧
      ∀ name value, TakenBack route.filters name value →
        edited.values name = [value] ∧ expected.values name = [] := by
  intro found edited expected
  have hedited : ∀ name,
      edited.values name = (collected route.filters request.headers).values name := by
    intro name
    simp only [edited, found, editHeaders_ofSelection, Route.Filter.values_collected,
      values_forwardable_of_forwardable hrequest]
  refine ⟨rfl, fun name => ⟨?_, ?_⟩, fun name value htaken => ?_⟩
  · intro hsame value htaken
    obtain ⟨hstays, hgone⟩ := htaken.values request.headers
    rw [hedited, hstays, hgone] at hsame
    exact List.cons_ne_nil _ _ hsame
  · intro hkept
    rw [hedited, Route.Filter.values_collected_of_kept hkept]
  · rw [hedited]
    exact htaken.values request.headers

/-! ## A mark that is taken back -/

/-- A route that replaces the cookie of a client, marks the request and takes the
mark back. -/
def cookieRoute : Route.Resolved where
  definition :=
    { id := "orders", predicates := [], filters := [], uri := some "http://orders:8080",
      pathPattern := none, enabled := true, version := 0, createdAt := none,
      updatedAt := none, metadata := none, rawMetadata := none }
  target := .fixed "http://orders:8080"
  predicates := []
  filters :=
    [.removeHeader "Cookie", .addHeader "X-Debug" "1", .addHeader "cookie" "none",
      .removeHeader "x-debug"]
  attributes := []

/-- A client that sends a cookie and a mark of its own. -/
def markingRequest : Http.Request :=
  .ofTarget "GET" "/orders" <| .ofList [("cookie", "session"), ("x-debug", "client")]

theorem forwardable_markingRequest : Forwardable markingRequest.headers :=
  forwardable_of_fields (by decide +kernel)

/-- The cookie is replaced as listed; the mark stays, though it was taken back. -/
theorem cookie_replaced_in_turn :
    Forwardable markingRequest.headers ∧
      TakenBack cookieRoute.filters "x-debug" "1" ∧
      let found := Route.Match.ofSelection markingRequest cookieRoute
        ⟨"http://orders:8080", none⟩
      let edited := editHeaders found (forwardable markingRequest.headers)
      edited.values "Cookie" = ["none"] ∧
        (inTurn cookieRoute.filters markingRequest.headers).values "Cookie" = ["none"] ∧
        edited.values "x-debug" = ["1"] := by
  have htaken : TakenBack cookieRoute.filters "x-debug" "1" :=
    ⟨[.removeHeader "Cookie"], "X-Debug",
      [.addHeader "cookie" "none", .removeHeader "x-debug"], rfl, by decide +kernel,
      by simp only [List.forall_mem_cons]; decide +kernel,
      .removeHeader "x-debug", by simp, by decide +kernel⟩
  obtain ⟨-, -, hstays⟩ := header_filters_in_turn (.ofConfig {}) ⟨"r1", none, none, none⟩
    markingRequest forwardable_markingRequest cookieRoute ⟨"http://orders:8080", none⟩
  exact ⟨forwardable_markingRequest, htaken, by decide +kernel, by decide +kernel,
    (hstays _ _ htaken).1⟩

def markedRow : Route.Row :=
  { id := "orders"
    uri := some "http://orders:8080"
    filters := .array
      [.string "AddRequestHeader=X-Debug,1", .string "RemoveRequestHeader=X-Debug"] }

def markedState : State := .initial {} (.ofRows [markedRow] [])

/-- A backend sees a mark that a later filter of the route removes. -/
theorem mark_survives_removal :
    Forwardable markingRequest.headers ∧
      ∃ handled sent route selection,
        handle (.ofConfig {}) "fresh" (fun _ => 0) markingRequest markedState =
          .ok handled ∧
        handled.decision = .forward sent ∧
        Along (fun _ => 0) markingRequest markedState route selection ∧
        sent.headers.values "x-debug" = ["1"] ∧
        (inTurn route.filters markingRequest.headers).values "x-debug" = [] := by
  have hchecked : (handle (.ofConfig {}) "fresh" (fun _ => 0) markingRequest
      markedState).toOption.any (fun handled => handled.decision.forwarded?.any
        fun sent => sent.headers.values "x-debug" = ["1"]) = true := by
    decide +kernel
  have hroutes : ∀ route ∈ (markedState.cache.list markedState.now
      markedState.store).routes,
      (inTurn route.filters markingRequest.headers).values "x-debug" = [] := by
    decide +kernel
  obtain ⟨handled, hhandle, htest⟩ := exists_ok_of_any hchecked
  obtain ⟨sent, hsent, hmark⟩ := (Option.any_eq_true _ _).mp htest
  have hforward := Decision.forwarded?_eq_some_iff.mp hsent
  obtain ⟨route, selection, halong, -⟩ := match_of_forward hhandle hforward
  obtain ⟨count, hlisted⟩ := halong.listed
  exact ⟨forwardable_markingRequest, handled, sent, route, selection, hhandle, hforward,
    halong, of_decide_eq_true hmark, hroutes route hlisted⟩

end Gateway

end EdgeGateway
