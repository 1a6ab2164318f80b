import EdgeGateway.Proofs.Route.Serving

/-!
# The route of a request

A row offers its route to a request if it is enabled, can be converted, has a
target and applies to the request.  A request takes the first route that is
offered to it, so rows without an offer play no part.  The search cannot fall
through an offered route, since a split among variants has weight: each variant
that conversion keeps has some.
-/

namespace EdgeGateway.Route

namespace Target

/-- Where a target can send a request: to its address, or to one of its
variants. -/
def Leads : Target → Selection → Prop
  | fixed uri, selection => selection = ⟨uri, none⟩
  | weighted variants, selection =>
      ∃ variant ∈ variants, selection = ⟨variant.uri, some variant.variantId⟩

/-- A split has a variant, and every variant has weight. -/
def Weighty : Target → Prop
  | fixed _ => True
  | weighted variants =>
      variants ≠ [] ∧ ∀ variant ∈ variants, 0 < variant.weight

def weightSum : List Variant → Nat
  | [] => 0
  | variant :: variants => variant.weight + weightSum variants

/-- A roll below the weights that are left falls into the share of a variant. -/
theorem pick_of_lt {roll before : Nat} {variants : List Variant}
    (hbefore : before ≤ roll) (hroll : roll < before + weightSum variants) :
    ∃ selection, pick roll before variants = some selection ∧
      (weighted variants).Leads selection := by
  induction variants generalizing before with
  | nil =>
      rw [weightSum, Nat.add_zero] at hroll
      exact absurd hroll (Nat.not_lt.mpr hbefore)
  | cons variant variants ih =>
      unfold pick
      split
      next => exact ⟨_, rfl, variant, List.mem_cons_self, rfl⟩
      next hpast =>
        have hrest : roll < before + variant.weight + weightSum variants := by
          simpa [weightSum, Nat.add_assoc] using hroll
        obtain ⟨selection, hpick, other, hother, hselection⟩ :=
          ih (Nat.not_lt.mp hpast) hrest
        exact ⟨selection, hpick, other, List.mem_cons_of_mem _ hother, hselection⟩

theorem foldl_saturating (variants : List Variant) (total : Nat)
    (htotal : total ≤ Text.limit32) :
    variants.foldl
        (fun total variant => min Text.limit32 (total + variant.weight)) total =
      min Text.limit32 (total + weightSum variants) := by
  induction variants generalizing total with
  | nil => simp [weightSum, htotal]
  | cons variant variants ih =>
      rw [List.foldl_cons, ih _ (Nat.min_le_left _ _)]
      rw [weightSum]
      omega

theorem totalWeight_weighted (variants : List Variant) :
    (weighted variants).totalWeight = min Text.limit32 (weightSum variants) := by
  rw [totalWeight, foldl_saturating variants 0 (Nat.zero_le _), Nat.zero_add]

theorem weightSum_pos {variants : List Variant}
    (hweighty : (weighted variants).Weighty) : 0 < weightSum variants := by
  obtain ⟨hsome, hweight⟩ := hweighty
  cases variants with
  | nil => exact absurd rfl hsome
  | cons variant variants =>
      have := hweight variant List.mem_cons_self
      rw [weightSum]
      omega

/-- Whatever is rolled, a target with weight selects an address of its own. -/
theorem select_of_weighty {target : Target} (hweighty : target.Weighty)
    {rollBelow : Nat → Nat} (hroll : ∀ total, 0 < total → rollBelow total < total) :
    ∃ selection, target.select rollBelow = some selection ∧
      target.Leads selection := by
  cases target with
  | fixed uri => exact ⟨⟨uri, none⟩, rfl, rfl⟩
  | weighted variants =>
      have hsum := weightSum_pos hweighty
      have htotal := totalWeight_weighted variants
      have hpositive : 0 < (weighted variants).totalWeight := by
        rw [htotal]
        exact Nat.lt_min.mpr ⟨by decide, hsum⟩
      have hbelow : rollBelow (weighted variants).totalWeight <
          0 + weightSum variants :=
        calc rollBelow (weighted variants).totalWeight
            < (weighted variants).totalWeight := hroll _ hpositive
          _ ≤ 0 + weightSum variants := by
              rw [htotal, Nat.zero_add]
              exact Nat.min_le_right _ _
      simpa [select, Nat.ne_of_gt hpositive, selectWith] using
        pick_of_lt (Nat.zero_le _) hbelow

theorem weight_pos_of_mem_variantsOf {metadata : Metadata} {variant : Variant}
    (hmem : variant ∈ variantsOf metadata) : 0 < variant.weight := by
  obtain ⟨split, -, hvariant⟩ := List.mem_filterMap.mp hmem
  obtain ⟨uri, -, hkept⟩ := Option.bind_eq_some_iff.mp hvariant
  split at hkept
  next hweight =>
    obtain rfl := Option.some.inj hkept
    exact hweight
  next => simp at hkept

/-- Conversion makes no split without weight. -/
theorem weighty_ofDefinition? {definition : Definition} {target : Target}
    (htarget : ofDefinition? definition = some target) : target.Weighty := by
  have hfixed : ∀ text : Option String,
      text.map fixed = some target → target.Weighty := by
    intro text htext
    obtain ⟨uri, -, rfl⟩ := Option.map_eq_some_iff.mp htext
    trivial
  unfold ofDefinition? at htarget
  simp only at htarget
  split at htarget
  next => exact hfixed _ htarget
  next metadata =>
    split at htarget
    next =>
      split at htarget
      next uri _ =>
        obtain rfl := Option.some.inj htarget
        trivial
      next => exact hfixed _ htarget
    next variants hsome =>
      obtain rfl := Option.some.inj htarget
      exact ⟨hsome, fun variant => weight_pos_of_mem_variantsOf⟩

end Target

/-! ## Rows that offer a route -/

theorem Definition.id_ofRow {row : Row} {definition : Definition}
    (hconverts : ofRow row = .ok definition) : definition.id = row.id := by
  simp only [ofRow, bind, Except.bind] at hconverts
  split at hconverts
  next => simp at hconverts
  split at hconverts
  next => simp at hconverts
  split at hconverts
  next =>
    split at hconverts
    next => simp at hconverts
    next =>
      obtain rfl := Except.ok.inj hconverts
      rfl
  next =>
    obtain rfl := Except.ok.inj hconverts
    rfl

namespace Resolved

/-- A resolved route keeps its definition, from which it has its target. -/
theorem ofDefinition_ok {definition : Definition} {route : Resolved}
    (hresolves : ofDefinition definition = .ok (some route)) :
    route.definition = definition ∧
      Target.ofDefinition? definition = some route.target := by
  simp only [ofDefinition, bind, Except.bind] at hresolves
  split at hresolves
  next => simp at hresolves
  split at hresolves
  next => simp at hresolves
  split at hresolves
  next => simp [pure, Except.pure] at hresolves
  next target htarget =>
    split at hresolves
    next => simp at hresolves
    obtain rfl := Option.some.inj (Except.ok.inj hresolves)
    exact ⟨rfl, htarget⟩

theorem ofRow_ok_iff {row : Row} {route : Resolved} :
    ofRow row = .ok (some route) ↔
      Definition.ofRow row = .ok route.definition ∧
        ofDefinition route.definition = .ok (some route) := by
  simp only [ofRow, bind, Except.bind]
  cases hconverts : Definition.ofRow row with
  | error error => simp
  | ok definition =>
      constructor
      · intro hresolves
        obtain ⟨hdefinition, -⟩ := ofDefinition_ok hresolves
        rw [hdefinition]
        exact ⟨rfl, hresolves⟩
      · rintro ⟨hdefinition, hresolves⟩
        obtain rfl := Except.ok.inj hdefinition
        exact hresolves

end Resolved

namespace Row

/-- A row offers a route to a request: it is enabled, it converts without an
error, it has a target, and all that the route asks for holds. -/
structure Offers (row : Row) (request : Http.Request) (route : Resolved) :
    Prop where
  enabled : row.enabled = true
  converts : Definition.ofRow row = .ok route.definition
  resolves : Resolved.ofDefinition route.definition = .ok (some route)
  applies : ∀ predicate ∈ route.predicates, predicate.holds request = true

/-- The route that a row offers to a request. -/
def offer? (request : Http.Request) (row : Row) : Option Resolved :=
  match row.enabled, Resolved.ofRow row with
  | true, .ok (some route) => if route.applies request then some route else none
  | _, _ => none

theorem offer?_eq_some_iff {request : Http.Request} {row : Row}
    {route : Resolved} :
    row.offer? request = some route ↔ row.Offers request route := by
  constructor
  · intro hoffer
    unfold offer? at hoffer
    split at hoffer
    next found henabled hresolved =>
      split at hoffer
      next happlies =>
        obtain rfl := Option.some.inj hoffer
        obtain ⟨hconverts, hresolves⟩ := Resolved.ofRow_ok_iff.mp hresolved
        exact ⟨henabled, hconverts, hresolves, List.all_eq_true.mp happlies⟩
      next => simp at hoffer
    next => simp at hoffer
  · rintro ⟨henabled, hconverts, hresolves, happlies⟩
    have hresolved := Resolved.ofRow_ok_iff.mpr ⟨hconverts, hresolves⟩
    have hholds : route.applies request = true := List.all_eq_true.mpr happlies
    simp [offer?, henabled, hresolved, hholds]

theorem offer?_eq_none_iff {request : Http.Request} {row : Row} :
    row.offer? request = none ↔ ∀ route, ¬ row.Offers request route := by
  simp only [← offer?_eq_some_iff, Option.eq_none_iff_forall_ne_some]

end Row

theorem filter_resolveRows (request : Http.Request) (rows : List Row) :
    (resolveRows rows).1.filter (fun route => route.applies request) =
      rows.filterMap (Row.offer? request) := by
  induction rows with
  | nil => rfl
  | cons row rows ih =>
      rw [List.filterMap_cons, ← ih]
      simp only [resolveRows, Row.offer?]
      cases row.enabled with
      | false => simp
      | true =>
          cases hresolved : Resolved.ofRow row with
          | error error => simp
          | ok found =>
              cases found with
              | none => simp
              | some route =>
                  by_cases happlies : route.applies request <;> simp [happlies]

theorem filterMap_offer?_enabled (request : Http.Request) (rows : List Row) :
    (rows.filter Row.enabled).filterMap (Row.offer? request) =
      rows.filterMap (Row.offer? request) := by
  rw [List.filterMap_filter]
  congr 1
  funext row
  cases henabled : row.enabled with
  | true => rfl
  | false => simp [Row.offer?, henabled]

/-! ## The first offer -/

namespace Match

variable {request : Http.Request} {rollBelow : Nat → Nat}

theorem select_of_offers
    (hroll : ∀ total, 0 < total → rollBelow total < total) {row : Row}
    {route : Resolved} (hoffers : row.Offers request route) :
    ∃ selection, route.target.select rollBelow = some selection ∧
      route.target.Leads selection := by
  obtain ⟨-, htarget⟩ := Resolved.ofDefinition_ok hoffers.resolves
  exact Target.select_of_weighty (Target.weighty_ofDefinition? htarget) hroll

theorem select_of_filterMap_eq_cons
    (hroll : ∀ total, 0 < total → rollBelow total < total) {rows : List Row}
    {route : Resolved} {routes : List Resolved}
    (hoffers : rows.filterMap (Row.offer? request) = route :: routes) :
    ∃ selection, route.target.select rollBelow = some selection := by
  have hmem : route ∈ rows.filterMap (Row.offer? request) := by simp [hoffers]
  obtain ⟨row, -, hoffer⟩ := List.mem_filterMap.mp hmem
  obtain ⟨selection, hselect, -⟩ :=
    select_of_offers hroll (Row.offer?_eq_some_iff.mp hoffer)
  exact ⟨selection, hselect⟩

/-- The search looks at the first offer only. -/
theorem find?_of_rows (hroll : ∀ total, 0 < total → rollBelow total < total)
    (rows : List Row) :
    find? request rollBelow (resolveRows (rows.filter Row.enabled)).1 =
      (rows.filterMap (Row.offer? request)).head?.bind fun route =>
        (route.target.select rollBelow).map (ofSelection request route) := by
  rw [find?, filter_resolveRows, filterMap_offer?_enabled]
  cases hoffers : rows.filterMap (Row.offer? request) with
  | nil => rfl
  | cons route routes =>
      obtain ⟨selection, hselect⟩ := select_of_filterMap_eq_cons hroll hoffers
      simp [hselect]

/-- What a request finds in rows: nothing if no row offers it a route, and else
the match with the route of the first row that does, at one of the addresses to
which that route leads. -/
structure IsFirstOffer (request : Http.Request) (rows : List Row)
    (found : Option Match) : Prop where
  eq_none_iff : found = none ↔
    ∀ row ∈ rows, ∀ route, ¬ row.Offers request route
  eq_some_of_first : ∀ before row after route, rows = before ++ row :: after →
    (∀ earlier ∈ before, ∀ other, ¬ earlier.Offers request other) →
      row.Offers request route →
        ∃ selection, route.target.Leads selection ∧
          found = some (ofSelection request route selection) ∧
          (ofSelection request route selection).routeId = row.id

theorem isFirstOffer_find?
    (hroll : ∀ total, 0 < total → rollBelow total < total) (rows : List Row) :
    IsFirstOffer request rows
      (find? request rollBelow (resolveRows (rows.filter Row.enabled)).1) := by
  have hnothing : ∀ rows : List Row,
      rows.filterMap (Row.offer? request) = [] ↔
        ∀ row ∈ rows, ∀ route, ¬ row.Offers request route := by
    intro rows
    simp only [List.filterMap_eq_nil_iff, Row.offer?_eq_none_iff]
  rw [find?_of_rows hroll]
  constructor
  · rw [← hnothing]
    cases hoffers : rows.filterMap (Row.offer? request) with
    | nil => simp
    | cons route routes =>
        obtain ⟨selection, hselect⟩ := select_of_filterMap_eq_cons hroll hoffers
        simp [hselect]
  · rintro before row after route rfl hbefore hoffers
    obtain ⟨selection, hselect, hleads⟩ := select_of_offers hroll hoffers
    refine ⟨selection, hleads, ?_, Definition.id_ofRow hoffers.converts⟩
    rw [List.filterMap_append, (hnothing before).mpr hbefore, List.nil_append,
      List.filterMap_cons, Row.offer?_eq_some_iff.mpr hoffers]
    simp [hselect]

/-- Rows that offer nothing play no part. -/
theorem find?_congr (hroll : ∀ total, 0 < total → rollBelow total < total)
    {rows others : List Row}
    (hsame : others.filter (fun row => (row.offer? request).isSome) =
      rows.filter fun row => (row.offer? request).isSome) :
    find? request rollBelow (resolveRows (others.filter Row.enabled)).1 =
      find? request rollBelow (resolveRows (rows.filter Row.enabled)).1 := by
  have hkept : ∀ rows : List Row,
      (rows.filter fun row => (row.offer? request).isSome).filterMap
        (Row.offer? request) = rows.filterMap (Row.offer? request) := by
    intro rows
    rw [List.filterMap_filter]
    congr 1
    funext row
    cases row.offer? request <;> rfl
  rw [find?_of_rows hroll, find?_of_rows hroll, ← hkept others, hsame, hkept]

end Match

namespace Calls

theorem routes_store_run {calls : Calls} {events : List Event}
    (hkept : ∀ rows, .replaceRows rows ∉ events) :
    (calls.run events).store.routes = calls.store.routes := by
  induction events generalizing calls with
  | nil => rfl
  | cons event events ih =>
      have hrest : ((calls.step event).run events).store.routes =
          (calls.step event).store.routes :=
        ih fun rows hrows => hkept rows (List.mem_cons_of_mem _ hrows)
      refine hrest.trans ?_
      cases event with
      | arrive =>
          rcases calls.arrive_cases with ⟨_, _, -, -, -, h⟩ | ⟨-, h⟩ <;>
            rw [step, h]
          rfl
      | finish slot => rw [step, store_finish]
      | collect position => rw [step, store_collect]
      | replaceRows rows => exact absurd List.mem_cons_self (hkept rows)
      | _ => rfl

/-- The rows from which the routes of a call are made. -/
theorem rows_of_list (now : Instant) (ttl : Duration) (store : Store.Memory)
    (events : List Event)
    (havailable : ((opened now ttl store).run events).store.routesUnavailable = false) :
    let start := opened now ttl store
    let calls := start.run events
    ∃ rows,
      (∃ earlier later, events = earlier ++ later ∧
        rows = (start.run earlier).store.routes) ∧
      (calls.cache.living? calls.now = none ∨
          (∀ replaced, .replaceRows replaced ∉ events) →
        rows = calls.store.routes) ∧
      calls.list.1 = (resolveRows (rows.filter Row.enabled)).1 := by
  intro start calls
  have hsound : calls.Sound := sound_run (sound_opened now ttl store) events
  have horderly : calls.Orderly := orderly_run (orderly_opened now ttl store) events
  rcases list_cases hsound horderly havailable with
    ⟨slot, created, hliving, hslot⟩ | hlist
  · rcases outcome_run events hslot with hold | ⟨earlier, later, hevents, -, hread⟩
    · simp [start, opened] at hold
    · refine ⟨_, ⟨earlier, _, hevents, rfl⟩, ?_,
        eq_resolveRows_of_outcomeNow hread.symm⟩
      rintro (hdead | hkept)
      · simp [hliving] at hdead
      · rw [routes_store_run hkept, routes_store_run fun rows hrows =>
          hkept rows (hevents ▸ List.mem_append_left _ hrows)]
  · exact ⟨_, ⟨events, [], by simp, rfl⟩, fun _ => rfl, hlist⟩

theorem find_fst (request : Http.Request) (rollBelow : Nat → Nat)
    (calls : Calls) :
    (calls.find request rollBelow).1 =
      Match.find? request rollBelow calls.list.1 := by
  simp only [find]

/-- A cache that nobody has called yet gets its routes from the rows as they are. -/
theorem list_opened (now : Instant) (ttl : Duration) {store : Store.Memory}
    (havailable : store.routesUnavailable = false) :
    (opened now ttl store).list.1 =
      (resolveRows (store.routes.filter Row.enabled)).1 := by
  obtain ⟨rows, -, hrows, hlist⟩ := rows_of_list now ttl store [] havailable
  obtain rfl : rows = store.routes := hrows (Or.inr (by simp))
  exact hlist

/-- A request finds the first route that the rows of the store offer to it, and
nothing if they offer none: the rows as they are if no slot lives or none was
ever replaced, and else those that the living slot was loaded from.  Rows without
an offer can be put in or taken out at any places. -/
theorem find_takes_first_offer (now : Instant) (ttl : Duration)
    (store : Store.Memory) (request : Http.Request) (rollBelow : Nat → Nat)
    (hroll : ∀ total, 0 < total → rollBelow total < total) (events : List Event)
    (havailable : ((opened now ttl store).run events).store.routesUnavailable = false) :
    let start := opened now ttl store
    let calls := start.run events
    let found := (calls.find request rollBelow).1
    ∃ rows,
      (∃ earlier later, events = earlier ++ later ∧
        rows = (start.run earlier).store.routes) ∧
      (calls.cache.living? calls.now = none ∨
          (∀ replaced, .replaceRows replaced ∉ events) →
        rows = calls.store.routes) ∧
      Match.IsFirstOffer request rows found ∧
      ∀ others : List Row,
        others.filter (fun row => (row.offer? request).isSome) =
            rows.filter (fun row => (row.offer? request).isSome) →
          ((opened now ttl (.ofRows others [])).find request rollBelow).1 = found := by
  intro start calls found
  obtain ⟨rows, hread, hcurrent, hlist⟩ :=
    rows_of_list now ttl store events havailable
  have hfound : found = Match.find? request rollBelow
      (resolveRows (rows.filter Row.enabled)).1 :=
    (find_fst request rollBelow calls).trans (congrArg _ hlist)
  refine ⟨rows, hread, hcurrent, ?_, ?_⟩
  · rw [hfound]
    exact Match.isFirstOffer_find? hroll rows
  · intro others hsame
    have hothers : (opened now ttl (.ofRows others [])).list.1 =
        (resolveRows (others.filter Row.enabled)).1 := list_opened now ttl rfl
    rw [hfound, ← Match.find?_congr hroll hsame, find_fst, hothers]

def pausedRow : Row :=
  { id := "paused", uri := some "http://paused:8080", enabled := false }

def addresslessRow : Row := { id := "addressless" }

/-- A split whose first variant has no weight. -/
def canaryRow : Row :=
  { id := "canary"
    pathPattern := some "/orders/**"
    metadata := some <| .object
      [("trafficSplits", .array
        [.object [("variantId", .string "off"), ("weight", .ofNat 0),
            ("uri", .string "http://off:80")],
          .object [("variantId", .string "on"), ("weight", .ofNat 5),
            ("uri", .string "http://on:80")]])] }

def getOrders : Http.Request := .ofTarget "GET" "/orders/7" {}

theorem canary_found_behind_idle_rows :
    let rows := [pausedRow, addresslessRow, canaryRow]
    (∀ total, 0 < total → total - 1 < total) ∧
      (((opened .start (.ofMinutes 5) (.ofRows rows [])).find getOrders
        (· - 1)).1.map Match.routeId) = some "canary" := by
  intro rows
  have hroll : ∀ total, 0 < total → total - 1 < total :=
    fun total hpositive => Nat.sub_lt hpositive Nat.one_pos
  obtain ⟨found, -, hcurrent, hfirst, -⟩ := find_takes_first_offer .start
    (.ofMinutes 5) (.ofRows rows []) getOrders (· - 1) hroll [] rfl
  obtain rfl : found = rows := hcurrent (Or.inl rfl)
  obtain ⟨route, hroute⟩ : ∃ route, canaryRow.offer? getOrders = some route :=
    Option.isSome_iff_exists.mp (by decide +kernel)
  have hidle : ∀ row ∈ [pausedRow, addresslessRow], ∀ other,
      ¬ row.Offers getOrders other := by
    intro row hrow
    rw [← Row.offer?_eq_none_iff]
    have hcases : row = pausedRow ∨ row = addresslessRow := by simpa using hrow
    rcases hcases with rfl | rfl <;> rfl
  obtain ⟨selection, -, hfound, hid⟩ := hfirst.eq_some_of_first
    [pausedRow, addresslessRow] canaryRow [] route rfl hidle
    (Row.offer?_eq_some_iff.mp hroute)
  refine ⟨hroll, ?_⟩
  change Option.map _ (((opened .start (.ofMinutes 5) (.ofRows rows [])).run
    []).find getOrders (· - 1)).1 = _
  rw [hfound, Option.map_some, hid]
  rfl

end Calls

end EdgeGateway.Route
