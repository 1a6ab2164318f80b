import EdgeGateway.Proofs.Gateway.Writers

/-!
# Answers that are passed on

The answer of a backend goes to the client with its status and its body.  Of its
fields those of the connection stay behind, and all values of any other name are
passed on in their order, except under the names that the gateway writes itself: the
id of the request, and the region that was active when the request came in.  What
the backend has put there is not seen.
-/

namespace EdgeGateway

namespace Http

/-! ## Ids are legal values -/

theorem isHeaderValue_of_text? {headers : Headers} {name value : String}
    (hread : headers.text? name = some value) : isHeaderValue value = true := by
  obtain ⟨first, -, hfirst⟩ := Option.bind_eq_some_iff.mp hread
  obtain ⟨hvisible, rfl⟩ : first.toList.all isVisible = true ∧ first = value := by
    simpa [readableValue?] using hfirst
  apply List.all_eq_true.mpr
  intro char hchar
  have hlegal := List.all_eq_true.mp hvisible char hchar
  simp only [isVisible, Bool.or_eq_true, Bool.and_eq_true, decide_eq_true_eq] at hlegal ⊢
  exact hlegal.imp_right fun hcode => ⟨hcode.1, by omega⟩

theorem isHeaderValue_idOfBytes (bytes : List Nat) :
    isHeaderValue (idOfBytes bytes) = true := by
  have hdigits : ∀ digit < 16, '0' ≤ Nat.digitChar digit ∧ Nat.digitChar digit ≤ 'f' := by
    decide
  have hbyte : ∀ byte, ∀ char ∈ hexByte byte, '0' ≤ char ∧ char ≤ 'f' := by
    intro byte char hchar
    rw [hexByte, List.mem_pair] at hchar
    rcases hchar with rfl | rfl <;> exact hdigits _ (Nat.mod_lt _ (by decide))
  apply List.all_eq_true.mpr
  intro char hchar
  have hcode : char = '-' ∨ '0' ≤ char ∧ char ≤ 'f' := by
    rw [idOfBytes, Text.join, String.toList_ofList] at hchar
    rcases Text.mem_glue hchar with hdash | ⟨piece, hpiece, hmem⟩
    · exact Or.inl hdash
    · obtain ⟨octets, rfl⟩ : ∃ octets : List Nat, piece = octets.flatMap hexByte := by
        simp only [List.map_cons, List.map_nil, List.mem_cons, List.not_mem_nil, or_false,
          String.toList_ofList] at hpiece
        rcases hpiece with rfl | rfl | rfl | rfl | rfl <;> exact ⟨_, rfl⟩
      obtain ⟨byte, -, hdigit⟩ := List.mem_flatMap.mp hmem
      exact Or.inr (hbyte byte char hdigit)
  rcases hcode with rfl | ⟨hlow, hhigh⟩
  · rfl
  · have hcodes : 48 ≤ char.toNat ∧ char.toNat ≤ 102 := ⟨hlow, hhigh⟩
    simp only [Bool.or_eq_true, Bool.and_eq_true, decide_eq_true_eq]
    omega

/-- A request goes by the id that its client has chosen or by a fresh one. -/
theorem isHeaderValue_correlationId {freshId : String}
    (hfresh : isHeaderValue freshId = true) (request : Request) (tenantHeader : String) :
    isHeaderValue (Context.ofRequest request tenantHeader freshId).correlationId = true := by
  unfold Context.ofRequest
  split
  next id hread =>
    split
    next => exact hfresh
    next => exact isHeaderValue_of_text? hread
  next => exact hfresh

end Http

namespace Gateway

open Http (Headers)

/-! ## The response to one answer -/

theorem values_tagResponse {settings : Settings} {context : Http.Context} {region : String}
    (hregion : context.region = some region)
    (hid : Http.isHeaderValue context.correlationId = true) (headers : Headers)
    {name : String} (hname : Http.isHeaderName name = true) :
    (tagResponse settings context headers).values name =
      if Text.equalIgnoringCase requestIdHeader name then [context.correlationId]
      else if Text.equalIgnoringCase settings.regionHeader name && Http.isHeaderValue region
      then [region] else headers.values name := by
  have htag : tagResponse settings context headers =
      (headers.set settings.regionHeader region).set requestIdHeader
        context.correlationId := by
    rw [tagResponse, hregion]
    rfl
  have hwritesId : Headers.writes name (requestIdHeader, context.correlationId) =
      Text.equalIgnoringCase requestIdHeader name := by
    have hlegal : Http.isHeaderName requestIdHeader = true := by decide
    simp only [Headers.writes, hlegal, hid, Bool.true_and]
  have hwritesRegion : Headers.writes name (settings.regionHeader, region) =
      (Text.equalIgnoringCase settings.regionHeader name && Http.isHeaderValue region) := by
    cases hsame : Text.equalIgnoringCase settings.regionHeader name with
    | false => simp [Headers.writes, hsame]
    | true =>
        have hlegal := Http.isHeaderName_congr (Text.equalIgnoringCase_iff.mp hsame)
        simp [Headers.writes, hsame, hlegal, hname]
  rw [htag, Headers.values_set _ (requestIdHeader, context.correlationId), hwritesId,
    Headers.values_set _ (settings.regionHeader, region), hwritesRegion]

/-- Nothing is stated about the length of a body that is passed on. -/
theorem routedAnswer_passedOn (service : Service) (context : Http.Context) (status : Nat)
    (headers : Headers) (body : ByteArray) :
    service.routedAnswer context
        ((Reply.answered status headers body).response service.backendTimeout) =
      ⟨status, tagResponse service.plan.settings context headers.withoutHopByHop,
        .passedOn body⟩ := rfl

/-! ## A request that waits -/

theorem Traffic.reply_answered {traffic : Traffic} {place : Nat} {pending : Pending}
    (hpending : traffic.pending? place = some pending) (status : Nat) (headers : Headers)
    (body : ByteArray) :
    (traffic.reply place (.answered status headers body)).2 =
      some ⟨status, tagResponse traffic.service.plan.settings pending.context
        headers.withoutHopByHop, .passedOn body⟩ := by
  rw [Traffic.reply, hpending]
  exact congrArg some (routedAnswer_passedOn traffic.service pending.context _ _ _)

/-- A request that is not answered at once waits with what was known of it when it
came in. -/
theorem Traffic.pending_of_arrive {traffic next : Traffic} {surroundings : Surroundings}
    {inbound : Inbound} (harrive : traffic.arrive surroundings inbound = .ok (next, none)) :
    let plan := traffic.service.plan
    next.service = traffic.service ∧
      ∃ pending, next.pending? traffic.waiting.length = some pending ∧
        pending.context.region =
          some (traffic.state.gateway.failover.currentRegion plan.failover) ∧
        pending.context.correlationId =
          (Http.Context.ofRequest inbound.request plan.settings.tenantHeader
            surroundings.freshId).correlationId := by
  intro plan
  obtain ⟨hservice, begun, hbegin, hbegun⟩ := Traffic.arrive_cases harrive
  refine ⟨hservice, ?_⟩
  cases begun with
  | answered served => simp at hbegun
  | waiting pending state counted =>
      refine ⟨pending, by simp [Traffic.pending?, hbegun.1], ?_⟩
      rw [Service.begin] at hbegin
      split at hbegin
      next => simp at hbegin
      next =>
        obtain ⟨handled, hhandle, ⟨response, hanswered⟩ | ⟨outbound, body, -, hwaits⟩⟩ :=
          beginRouted_cases hbegin
        · cases hanswered
        · obtain ⟨rfl, -, -⟩ := Begun.waiting.inj hwaits
          obtain ⟨resolved, -, hcontext⟩ := context_of_handle hhandle
          dsimp only
          rw [hcontext]
          exact ⟨rfl, rfl⟩

/-- A backend answers a request that was forwarded, at once or after whatever else
has happened, with any status and any fields.  The client gets that status and that
body.  Under the name of the id it sees the id of its request, under that of the
region the region that was active when the request came in, if that can be written,
under the names of the connection nothing, and under any other name all values of the
backend in their order. -/
theorem answer_passed_on {traffic next final : Traffic} {surroundings : Surroundings}
    {inbound : Inbound} {events : List Traffic.Event} {responses : List Http.Response}
    (hfresh : Http.isHeaderValue surroundings.freshId = true)
    (harrive : traffic.arrive surroundings inbound = .ok (next, none))
    (hrun : next.run events = .ok (final, responses))
    (hothers : ∀ event ∈ events, event.ends traffic.waiting.length = false)
    (status : Nat) (headers : Headers) (body : ByteArray) :
    let plan := traffic.service.plan
    let id := (Http.Context.ofRequest inbound.request plan.settings.tenantHeader
      surroundings.freshId).correlationId
    let region := traffic.state.gateway.failover.currentRegion plan.failover
    ∃ response,
      (final.reply traffic.waiting.length (.answered status headers body)).2 =
          some response ∧
        response.status = status ∧ response.body = .passedOn body ∧
        ∀ name, Http.isHeaderName name = true →
          response.headers.values name =
            if Text.equalIgnoringCase requestIdHeader name then [id]
            else if Text.equalIgnoringCase plan.settings.regionHeader name &&
              Http.isHeaderValue region then [region]
            else if Http.isHopByHop name then []
            else headers.values name := by
  intro plan id region
  obtain ⟨hservice, pending, hpending, hregion, hid⟩ := Traffic.pending_of_arrive harrive
  obtain ⟨hkept, hwaits⟩ := Traffic.pending_run hrun hothers hpending
  have hlegal : Http.isHeaderValue pending.context.correlationId = true := by
    rw [hid]
    exact Http.isHeaderValue_correlationId hfresh _ _
  refine ⟨_, Traffic.reply_answered hwaits status headers body, rfl, rfl, ?_⟩
  intro name hname
  dsimp only
  rw [hkept, hservice, values_tagResponse hregion hlegal _ hname, hid,
    Headers.values_withoutHopByHop]

def numberedSurroundings : Surroundings := ⟨Http.idOfBytes (List.range 16), "", fun _ => 0⟩

/-- A backend that sets two cookies and claims an id and a region of its own. -/
def shopFields : Headers := .ofList
  [("Set-Cookie", "a=1"), ("Connection", "keep-alive"), ("X-Gateway-Region", "shop"),
    ("set-cookie", "b=2"), ("X-Request-Id", "theirs")]

/-- The answer comes when another client has left and the region has changed. -/
theorem both_cookies_passed_on :
    ∃ next final responses response,
      Http.isHeaderValue numberedSurroundings.freshId = true ∧
      edgeTraffic.arrive numberedSurroundings debugRequest = .ok (next, none) ∧
      next.run departure = .ok (final, responses) ∧
      (∀ event ∈ departure, event.ends 0 = false) ∧
      final.state.gateway.failover.activeRegion = "eu-central" ∧
      (final.reply 0 (.answered 503 shopFields .empty)).2 = some response ∧
      response.status = 503 ∧
      response.headers.values "Set-Cookie" = ["a=1", "b=2"] ∧
      response.headers.values "Connection" = [] ∧
      response.headers.values "X-Gateway-Region" = ["eu-west"] ∧
      response.headers.values "X-Request-Id" = ["00010203-0405-4607-8809-0a0b0c0d0e0f"] := by
  let events := Traffic.Event.arrive numberedSurroundings debugRequest :: departure
  have hchecked : (edgeTraffic.run events).toOption.any
      (fun outcome => outcome.2.isEmpty &&
        outcome.1.state.gateway.failover.activeRegion = "eu-central") = true := by
    decide +kernel
  obtain ⟨⟨final, answers⟩, hrun, htests⟩ := exists_ok_of_any hchecked
  obtain ⟨hquiet, hregion⟩ : answers = [] ∧
      final.state.gateway.failover.activeRegion = "eu-central" := by simpa using htests
  obtain ⟨⟨next, answer⟩, harrive, hrest⟩ := bind_eq_ok_iff.mp hrun
  obtain ⟨⟨last, responses⟩, hmore, hfinal⟩ := bind_eq_ok_iff.mp hrest
  obtain ⟨rfl, rfl⟩ : last = final ∧ answer.toList ++ responses = answers := by
    simpa using pure_eq_ok_iff.mp hfinal
  obtain ⟨rfl, rfl⟩ : answer = none ∧ responses = [] := by simpa using hquiet
  have hfresh := Http.isHeaderValue_idOfBytes (List.range 16)
  have hothers : ∀ event ∈ departure, event.ends 0 = false := by
    simp [departure, Traffic.Event.ends]
  obtain ⟨response, hreply, hstatus, -, hvalues⟩ :=
    answer_passed_on hfresh harrive hmore hothers 503 shopFields .empty
  refine ⟨next, last, [], response, hfresh, harrive, hmore, hothers, hregion, hreply,
    hstatus, ?_, ?_, ?_, ?_⟩ <;>
    · rw [hvalues _ (by decide +kernel)]
      decide +kernel

end Gateway

end EdgeGateway
