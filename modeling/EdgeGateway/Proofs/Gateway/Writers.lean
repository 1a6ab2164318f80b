import EdgeGateway.Gateway.Traffic
import EdgeGateway.Proofs.Gateway.Handling
import EdgeGateway.Proofs.Http.Fields
import EdgeGateway.Proofs.Route.Edits

/-!
# Who writes a header field

The fields of a forwarded request have writers: the additions of the route in
their order, and after them the gateway with what it knows about the request.
The last legal writer of a name leaves its value, and a name without one keeps
the values that came in, unless it is withheld.

What the gateway knows about a request is fixed when the request comes in.  The
response is tagged with it, whatever has happened to the region until then.
-/

namespace EdgeGateway.Gateway

open Http (Headers)
open Http.Headers (lastWriter? setAll values_setAll)

/-! ## Writers -/

def optionalField (name : String) (value : Option String) :
    List (String × String) :=
  (value.map fun value => (name, value)).toList

/-- What the gateway writes on a request. -/
def contextFields (settings : Settings) (context : Http.Context) :
    List (String × String) :=
  optionalField settings.regionHeader context.region ++
    optionalField settings.versionHeader context.effectiveVersion ++
    optionalField settings.tenantHeader context.tenantId ++
    [(requestIdHeader, context.correlationId)]

/-- What the gateway writes on a response. -/
def tags (settings : Settings) (context : Http.Context) :
    List (String × String) :=
  optionalField settings.regionHeader context.region ++
    [(requestIdHeader, context.correlationId)]

def writers (settings : Settings) (context : Http.Context)
    (route : Route.Resolved) : List (String × String) :=
  route.filters.filterMap Route.Filter.addition? ++ contextFields settings context

/-- The names that do not go along a route. -/
def isWithheld (route : Route.Resolved) (name : String) : Bool :=
  Http.isHopByHop name || Text.equalIgnoringCase "host" name ||
    Text.equalIgnoringCase "content-length" name ||
    (route.filters.filterMap Route.Filter.removal?).any
      (Text.equalIgnoringCase · name)

theorem setAll_append (headers : Headers) (first second : List (String × String)) :
    headers.setAll (first ++ second) = (headers.setAll first).setAll second :=
  List.foldl_append

theorem setOptional_eq (name : String) (value : Option String) (headers : Headers) :
    setOptional name value headers = headers.setAll (optionalField name value) := by
  cases value <;> rfl

theorem setContext_eq (settings : Settings) (context : Http.Context)
    (headers : Headers) :
    setContext settings context headers =
      headers.setAll (contextFields settings context) := by
  simp only [setContext, contextFields, setOptional_eq, setAll_append]
  rfl

theorem tagResponse_eq (settings : Settings) (context : Http.Context)
    (headers : Headers) :
    tagResponse settings context headers = headers.setAll (tags settings context) := by
  simp only [tagResponse, tags, setOptional_eq, setAll_append]
  rfl

/-! ## The request that is sent -/

theorem values_forwardable (headers : Headers) (name : String) :
    (forwardable headers).values name =
      if Http.isHopByHop name || Text.equalIgnoringCase "host" name ||
          Text.equalIgnoringCase "content-length" name
      then [] else headers.values name := by
  simp only [forwardable, Headers.values_erase, Headers.values_withoutHopByHop]
  cases Http.isHopByHop name <;> cases Text.equalIgnoringCase "host" name <;>
    cases Text.equalIgnoringCase "content-length" name <;> rfl

theorem values_forwardRequest (settings : Settings) (context : Http.Context)
    (request : Http.Request) (route : Route.Resolved)
    (selection : Route.Selection) (name : String) :
    (forwardRequest settings context request
        (.ofSelection request route selection)).headers.values name =
      match lastWriter? (writers settings context route) name with
      | some field => [field.2]
      | none =>
          if isWithheld route name then [] else request.headers.values name := by
  let found := Route.Match.ofSelection request route selection
  have hadds : found.addHeaders = route.filters.filterMap Route.Filter.addition? :=
    Route.Filter.addHeaders_applyAll _ _ _
  have hremoves : found.removeHeaders =
      (route.filters.filterMap Route.Filter.removal?).map Text.lowerAscii :=
    Route.Filter.removeHeaders_applyAll _ _ _
  have hheaders : (forwardRequest settings context request found).headers =
      (found.removeHeaders.foldl Headers.erase (forwardable request.headers)).setAll
        (writers settings context route) := by
    rw [writers, setAll_append, ← setContext_eq, ← hadds]
    rfl
  rw [hheaders, values_setAll]
  cases lastWriter? (writers settings context route) name with
  | some field => rfl
  | none =>
      have hsame : (Text.equalIgnoringCase · name) ∘ Text.lowerAscii =
          (Text.equalIgnoringCase · name) := by
        funext removed
        simp [Text.equalIgnoringCase]
      dsimp only
      rw [Headers.values_eraseAll, hremoves, List.any_map, hsame,
        values_forwardable, isWithheld]
      cases (route.filters.filterMap Route.Filter.removal?).any
        (Text.equalIgnoringCase · name) <;> simp

/-! ## The response -/

/-- The length is stated beside what is there already. -/
theorem values_withLength {response : Http.Response} {name : String}
    (hsome : response.headers.values name ≠ []) :
    response.withLength.headers.values name = response.headers.values name := by
  unfold Http.Response.withLength
  split
  next length _ =>
    split
    next => rfl
    next habsent =>
      have hother : Text.equalIgnoringCase "content-length" name = false := by
        rw [Bool.eq_false_iff]
        intro hlength
        rw [Text.equalIgnoringCase_iff] at hlength
        rw [Headers.contains_eq, Headers.values, hlength, ← Headers.values] at habsent
        exact habsent (by simpa using hsome)
      simp [Headers.values_append, hother]
  next => rfl

/-- Whether a response carries the tags of a request. -/
def CarriesTags (settings : Settings) (context : Http.Context)
    (response : Http.Response) : Prop :=
  ∀ name field, lastWriter? (tags settings context) name = some field →
    response.headers.values name = [field.2]

theorem carriesTags_routedAnswer (service : Service) (context : Http.Context)
    (response : Http.Response) :
    CarriesTags service.plan.settings context
      (service.routedAnswer context response) := by
  intro name field hlast
  have htagged :
      (tagResponse service.plan.settings context response.headers).values name =
        [field.2] := by
    rw [tagResponse_eq, values_setAll, hlast]
  rw [Service.routedAnswer, values_withLength] <;> simp [htagged]

/-! ## Requests that wait -/

/-- A request of the routes is answered, or its call begins; both with the tags
that it was given when it came in. -/
theorem beginRouted_cases {service : Service} {surroundings : Surroundings}
    {inbound : Inbound} {state : ServiceState} {begun : Begun}
    (hbegin : service.beginRouted surroundings inbound state = .ok begun) :
    ∃ handled, handle service.plan surroundings.freshId surroundings.rollBelow
        inbound.request state.gateway = .ok handled ∧
      ((∃ response, begun = .answered ⟨{ state with gateway := handled.state },
          service.routedAnswer handled.context response, handled.counted⟩) ∨
        ∃ outbound body, handled.decision = .forward outbound ∧
          begun = .waiting ⟨handled.context, outbound, body⟩
            { state with gateway := handled.state } handled.counted) := by
  unfold Service.beginRouted at hbegin
  obtain ⟨handled, hhandle, hbegin⟩ := bind_eq_ok_iff.mp hbegin
  refine ⟨handled, hhandle, ?_⟩
  simp only at hbegin
  split at hbegin
  next preflight _ =>
    exact Or.inl ⟨_, (pure_eq_ok_iff.mp hbegin).symm⟩
  next error _ =>
    exact Or.inl ⟨_, (pure_eq_ok_iff.mp hbegin).symm⟩
  next outbound hforward =>
    split at hbegin
    next body _ _ =>
      exact Or.inr ⟨outbound, body, hforward, (pure_eq_ok_iff.mp hbegin).symm⟩
    next =>
      exact Or.inl ⟨_, (pure_eq_ok_iff.mp hbegin).symm⟩

namespace Traffic

/-- Whether an event ends the wait of the request at a place. -/
def Event.ends (place : Nat) : Event → Bool
  | reply other _ | leave other => other = place
  | _ => false

variable {traffic next : Traffic} {place : Nat}

/-- A request that comes in takes the next place. -/
theorem arrive_cases {surroundings : Surroundings} {inbound : Inbound}
    {response : Option Http.Response}
    (harrive : traffic.arrive surroundings inbound = .ok (next, response)) :
    next.service = traffic.service ∧
      ∃ begun, traffic.service.begin surroundings inbound traffic.state = .ok begun ∧
        match begun with
        | .answered served =>
            next.waiting = traffic.waiting ++ [none] ∧
              response = some served.response
        | .waiting pending _ _ =>
            next.waiting = traffic.waiting ++ [some pending] ∧ response = none := by
  unfold arrive at harrive
  obtain ⟨begun, hbegin, hnext⟩ := bind_eq_ok_iff.mp harrive
  cases begun <;>
    · obtain ⟨rfl, rfl⟩ : _ ∧ _ := by simpa using pure_eq_ok_iff.mp hnext
      exact ⟨rfl, _, hbegin, rfl, rfl⟩

/-- A request waits until an event ends its wait. -/
theorem pending_step {event : Event} {response : Option Http.Response}
    (hstep : traffic.step event = .ok (next, response))
    (hother : event.ends place = false) {pending : Pending}
    (hpending : traffic.pending? place = some pending) :
    next.service = traffic.service ∧ next.pending? place = some pending := by
  cases event with
  | arrive surroundings inbound =>
      obtain ⟨hservice, begun, -, hbegun⟩ := arrive_cases hstep
      refine ⟨hservice, ?_⟩
      have hplace : place < traffic.waiting.length := by
        by_contra houtside
        simp [pending?, List.getElem?_eq_none (Nat.not_lt.mp houtside)] at hpending
      cases begun <;>
        · rw [pending?, hbegun.1, List.getElem?_append_left hplace]
          exact hpending
  | reply other reply =>
      obtain rfl : (traffic.reply other reply).1 = next :=
        congrArg Prod.fst (Except.ok.inj hstep)
      have hne : other ≠ place := by simpa [Event.ends] using hother
      unfold Traffic.reply
      split
      · exact ⟨rfl, by rwa [pending?, List.getElem?_set_ne hne]⟩
      · exact ⟨rfl, hpending⟩
  | leave other =>
      obtain ⟨rfl, -⟩ : _ ∧ _ := by simpa [step] using hstep
      have hne : other ≠ place := by simpa [Event.ends] using hother
      unfold Traffic.leave
      split
      · exact ⟨rfl, by rwa [pending?, List.getElem?_set_ne hne]⟩
      · exact ⟨rfl, hpending⟩
  | listen =>
      obtain ⟨rfl, -⟩ : _ ∧ _ := by simpa [step] using hstep
      exact ⟨rfl, hpending⟩
  | wait span =>
      obtain ⟨rfl, -⟩ : _ ∧ _ := by simpa [step] using hstep
      exact ⟨rfl, hpending⟩

theorem pending_run {final : Traffic} {events : List Event}
    {responses : List Http.Response}
    (hrun : traffic.run events = .ok (final, responses))
    (hothers : ∀ event ∈ events, event.ends place = false) {pending : Pending}
    (hpending : traffic.pending? place = some pending) :
    final.service = traffic.service ∧ final.pending? place = some pending := by
  induction events generalizing traffic responses with
  | nil =>
      obtain ⟨rfl, -⟩ : _ ∧ _ := by simpa [run] using hrun
      exact ⟨rfl, hpending⟩
  | cons event events ih =>
      obtain ⟨hother, hothers⟩ := List.forall_mem_cons.mp hothers
      obtain ⟨⟨next, response⟩, hstep, hrest⟩ := bind_eq_ok_iff.mp hrun
      obtain ⟨⟨last, more⟩, hmore, hfinal⟩ := bind_eq_ok_iff.mp hrest
      obtain ⟨rfl, -⟩ : _ ∧ _ := by simpa using pure_eq_ok_iff.mp hfinal
      obtain ⟨hservice, hnext⟩ := pending_step hstep hother hpending
      obtain ⟨hkept, hwaits⟩ := ih hmore hothers hnext
      exact ⟨hkept.trans hservice, hwaits⟩

/-- The request at a place is answered with its tags, whatever comes before. -/
def KeepsTags (settings : Settings) (context : Http.Context) (place : Nat)
    (traffic : Traffic) : Prop :=
  ∀ (events : List Event) (final : Traffic) (responses : List Http.Response),
    traffic.run events = .ok (final, responses) →
    (∀ event ∈ events, event.ends place = false) →
    ∀ reply, ∃ response, (final.reply place reply).2 = some response ∧
      CarriesTags settings context response

theorem carriesTags_reply {pending : Pending}
    (hpending : traffic.pending? place = some pending) (reply : Reply) :
    ∃ response, (traffic.reply place reply).2 = some response ∧
      CarriesTags traffic.service.plan.settings pending.context response := by
  unfold Traffic.reply
  rw [hpending]
  exact ⟨_, rfl, carriesTags_routedAnswer _ _ _⟩

theorem keepsTags_of_pending {pending : Pending}
    (hpending : traffic.pending? place = some pending) :
    KeepsTags traffic.service.plan.settings pending.context place traffic := by
  intro events final responses hrun hothers reply
  obtain ⟨hkept, hwaits⟩ := pending_run hrun hothers hpending
  rw [← hkept]
  exact carriesTags_reply hwaits reply

end Traffic

/-- The last legal writer of a name leaves the one value that a backend sees; a
name without a writer is withheld, or keeps the values that came in.  The tags of
a request are fixed when it comes in: its response carries them, at once or after
whatever else has happened while it waits. -/
theorem last_writer_leaves_its_value :
    (∀ (settings : Settings) (context : Http.Context) (request : Http.Request)
        (route : Route.Resolved) (selection : Route.Selection) (name : String),
      (forwardRequest settings context request
          (.ofSelection request route selection)).headers.values name =
        match lastWriter? (writers settings context route) name with
        | some field => [field.2]
        | none =>
            if isWithheld route name then [] else request.headers.values name) ∧
    ∀ (traffic next : Traffic) (surroundings : Surroundings) (inbound : Inbound)
        (answer : Option Http.Response),
      traffic.arrive surroundings inbound = .ok (next, answer) →
      Endpoint.ofPath? traffic.service.adminEnabled inbound.request.path = none →
      let plan := traffic.service.plan
      let place := traffic.waiting.length
      ∃ resolved, lookUpVersion plan surroundings.freshId inbound.request
          traffic.state.gateway = .ok resolved ∧
        let context := taggedContext plan surroundings.freshId inbound.request
          traffic.state.gateway resolved
        (∀ response, answer = some response →
          CarriesTags plan.settings context response) ∧
        (answer = none →
          (∃ route selection body,
            Along surroundings.rollBelow inbound.request traffic.state.gateway
              route selection ∧
            next.pending? place =
              some ⟨context, forwardRequest plan.settings context inbound.request
                (.ofSelection inbound.request route selection), body⟩) ∧
          next.KeepsTags plan.settings context place) := by
  refine ⟨values_forwardRequest, ?_⟩
  intro traffic next surroundings inbound answer harrive hrouted plan place
  obtain ⟨hservice, begun, hbegin, hbegun⟩ := Traffic.arrive_cases harrive
  rw [Service.begin, hrouted] at hbegin
  obtain ⟨handled, hhandle, hcases⟩ := beginRouted_cases hbegin
  obtain ⟨resolved, hresolve, hcontext⟩ := context_of_handle hhandle
  refine ⟨resolved, hresolve, ?_⟩
  dsimp only
  rw [← hcontext]
  rcases hcases with ⟨response, rfl⟩ | ⟨outbound, body, hforward, rfl⟩
  · obtain ⟨-, rfl⟩ := hbegun
    refine ⟨?_, nofun⟩
    rintro _ ⟨⟩
    exact carriesTags_routedAnswer traffic.service handled.context response
  · obtain ⟨hwaiting, rfl⟩ := hbegun
    have hpending :
        next.pending? place = some ⟨handled.context, outbound, body⟩ := by
      rw [Traffic.pending?, hwaiting, List.getElem?_concat_length]
      rfl
    obtain ⟨route, selection, halong, rfl⟩ := match_of_forward hhandle hforward
    refine ⟨nofun, fun _ => ⟨⟨route, selection, body, halong, hpending⟩, ?_⟩⟩
    have hkeeps := Traffic.keepsTags_of_pending hpending
    rwa [hservice] at hkeeps

/-- A gateway that leaves its primary region at the first failure, with one route
that sets a region and a debug mark. -/
def edgeTraffic : Traffic :=
  let config : Config.Gateway :=
    { failover :=
        { enabled := true, primaryRegion := "eu-west",
          backupRegions := ["eu-central"], failureThreshold := 1 } }
  let row : Route.Row :=
    { id := "orders"
      uri := some "http://orders:8080"
      filters := .array
        [.string "AddRequestHeader=X-Gateway-Region,nowhere",
          .string "RemoveRequestHeader=X-Debug"] }
  ⟨.ofConfig config false, { gateway := .initial config (.ofRows [row] []) }, [], []⟩

def quietSurroundings : Surroundings := ⟨"fresh", "", fun _ => 0⟩

def debugRequest : Inbound :=
  ⟨"GET", "/orders", .ofList [("x-debug", "1"), ("accept", "*/*")], .ok .empty⟩

/-- Another client comes and leaves, and its failure moves the region. -/
def departure : List Traffic.Event :=
  [.arrive quietSurroundings debugRequest, .leave 1]

/-- What the backend saw is what the client is told, though the region has
changed in between. -/
theorem region_of_arrival_on_response :
    ∃ next final responses response,
      edgeTraffic.arrive quietSurroundings debugRequest = .ok (next, none) ∧
      Endpoint.ofPath? edgeTraffic.service.adminEnabled
        debugRequest.request.path = none ∧
      next.run departure = .ok (final, responses) ∧
      (∀ event ∈ departure, event.ends 0 = false) ∧
      final.state.gateway.failover.activeRegion = "eu-central" ∧
      (∃ pending, final.pending? 0 = some pending ∧
        pending.outbound.headers.values "x-gateway-region" = ["eu-west"] ∧
        pending.outbound.headers.values "X-Debug" = [] ∧
        pending.outbound.headers.values "Accept" = ["*/*"]) ∧
      (final.reply 0 .timedOut).2 = some response ∧
      response.headers.values "X-Gateway-Region" = ["eu-west"] := by
  let events := Traffic.Event.arrive quietSurroundings debugRequest :: departure
  have hchecked : (edgeTraffic.run events).toOption.any
      (fun outcome => outcome.2.isEmpty &&
        outcome.1.state.gateway.failover.activeRegion = "eu-central" &&
        (outcome.1.pending? 0).map (fun pending =>
          ["x-gateway-region", "X-Debug", "Accept"].map
            pending.outbound.headers.values) =
          some [["eu-west"], [], ["*/*"]]) = true := by
    decide +kernel
  have hrouted : Endpoint.ofPath? edgeTraffic.service.adminEnabled
      debugRequest.request.path = none := by decide +kernel
  rcases hrun : edgeTraffic.run events with fault | ⟨final, responses⟩
  · simp [hrun, Except.toOption] at hchecked
  obtain ⟨⟨next, answer⟩, harrive, hrest⟩ := bind_eq_ok_iff.mp hrun
  obtain ⟨⟨last, more⟩, hmore, hfinal⟩ := bind_eq_ok_iff.mp hrest
  obtain ⟨rfl, rfl⟩ : _ ∧ _ := by simpa using pure_eq_ok_iff.mp hfinal
  obtain ⟨⟨⟨hanswer, -⟩, hregion⟩, hsent⟩ :
      ((answer = none ∧ more = []) ∧
        last.state.gateway.failover.activeRegion = "eu-central") ∧ _ := by
    simpa [hrun, Except.toOption] using hchecked
  subst hanswer
  obtain ⟨resolved, -, -, hwaits⟩ := last_writer_leaves_its_value.2 edgeTraffic next
    quietSurroundings debugRequest none harrive hrouted
  have hothers : ∀ event ∈ departure, event.ends 0 = false := by
    simp [departure, Traffic.Event.ends]
  obtain ⟨response, hreply, hcarries⟩ :=
    (hwaits rfl).2 departure last more hmore hothers .timedOut
  have htags : tags edgeTraffic.service.plan.settings
      (taggedContext edgeTraffic.service.plan quietSurroundings.freshId
        debugRequest.request edgeTraffic.state.gateway resolved) =
        [("x-gateway-region", "eu-west"), ("x-request-id", "fresh")] := rfl
  have hlast := hcarries "X-Gateway-Region" ("x-gateway-region", "eu-west")
    (by rw [htags]; decide)
  exact ⟨next, last, more, response, harrive, hrouted, hmore, hothers, hregion, hsent,
    hreply, hlast⟩

end EdgeGateway.Gateway
