import EdgeGateway.Proofs.Attempt
import EdgeGateway.Proofs.Cors.Origins

/-!
# Which preflights are allowed

A preflight is allowed exactly if its origin is admitted by an entry, its method
is listed and its headers are, or any header is welcome.  Each of the three looks
for some entry of one list.  So a list that has more never allows less, and what
matters of a list is which entries it has, up to the case of ASCII letters, and
not how often or in which order.
-/

namespace EdgeGateway.Cors

namespace Policy

/-- The answer that a policy gives once a rule covers the origin. -/
def allowance (policy : Policy) (rule : OriginRule) (origin : String)
    (headers : Option String) : Allowance :=
  let wildcard := rule = .any && !policy.allowCredentials
  { allowOrigin := if wildcard then "*" else origin
    varyOrigin := !wildcard
    allowMethods := Text.join ", " policy.methods
    allowHeaders := headers
    allowCredentials := policy.allowCredentials
    exposeHeaders := policy.exposed
    maxAge := policy.maxAge }

variable {policy : Policy} {origin method : String} {requested : List String}

theorem evaluate_eq_ok_iff {answer : Allowance} :
    policy.evaluate origin method requested = .ok answer ↔
      ∃ rule headers,
        policy.origins.find? (OriginRule.covers (normalizeOrigin origin)) = some rule ∧
        Text.upperAscii (Text.trim method) ∈ policy.methods ∧
        policy.allowHeaders requested = .ok headers ∧
        policy.allowance rule (normalizeOrigin origin) headers = answer := by
  unfold evaluate
  cases hrule : policy.origins.find? (OriginRule.covers (normalizeOrigin origin)) with
  | none => simp [hrule, bind, Except.bind, throw, throwThe, MonadExceptOf.throw]
  | some rule =>
      by_cases hmethod : Text.upperAscii (Text.trim method) ∈ policy.methods
      · cases policy.allowHeaders requested with
        | error rejection =>
            simp [hrule, hmethod, bind, Except.bind, pure, Except.pure]
        | ok headers =>
            simp [hrule, hmethod, bind, Except.bind, pure, Except.pure, allowance]
      · simp [hrule, hmethod, bind, Except.bind, pure, Except.pure, throw, throwThe,
          MonadExceptOf.throw]

theorem exists_allowHeaders_iff :
    (∃ headers, policy.allowHeaders requested = .ok headers) ↔
      ∀ allowed ∈ policy.headers, ∀ name ∈ requested, name ∈ allowed := by
  unfold allowHeaders
  cases policy.headers with
  | none => simp
  | some allowed =>
      dsimp only
      split
      next denied hdenied =>
        have hmissing : denied ∉ allowed := by simpa using List.find?_some hdenied
        simpa using ⟨denied, List.mem_of_find?_eq_some hdenied, hmissing⟩
      next hnone => simpa using hnone

end Policy

/-! ## Entries of the configuration -/

/-- Everything that a preflight asks for is in the lists of the configuration. -/
structure Listed (config : Config.Cors) (origin method : String)
    (requested : List String) : Prop where
  origin : ∃ entry ∈ config.allowedOrigins, Admits entry origin
  method : ∃ entry ∈ config.allowedMethods,
    Text.upperAscii (Text.trim method) = Text.upperAscii (Text.trim entry)
  headers :
    (∃ entry ∈ config.allowedHeaders, Text.trim entry = "*") ∨
      ∀ name ∈ requested, ∃ entry ∈ config.allowedHeaders,
        Text.trim entry ≠ "" ∧ name = Text.lowerAscii (Text.trim entry)

/-- Whether the policy of a configuration allows a preflight. -/
def Allows (config : Config.Cors) (origin method : String)
    (requested : List String) : Prop :=
  ∃ allowance, (Policy.ofConfig config).evaluate origin method requested = .ok allowance

theorem find?_origins_isSome_iff (config : Config.Cors) (origin : String) :
    ((Policy.ofConfig config).origins.find?
        (OriginRule.covers (normalizeOrigin origin))).isSome = true ↔
      ∃ entry ∈ config.allowedOrigins, Admits entry origin := by
  simp [Policy.ofConfig, covers_ofText_iff]

theorem mem_headers_ofConfig {config : Config.Cors} {allowed : List String}
    (hallowed : allowed ∈ (Policy.ofConfig config).headers) (name : String) :
    name ∈ allowed ↔ ∃ entry ∈ config.allowedHeaders,
      Text.trim entry ≠ "" ∧ name = Text.lowerAscii (Text.trim entry) := by
  have hnames : allowed = (config.allowedHeaders.map fun name =>
      Text.lowerAscii (Text.trim name)).filter (· ≠ "") := by
    simp only [Policy.ofConfig] at hallowed
    split at hallowed
    next => simp at hallowed
    next => exact (Option.mem_some.mp hallowed).symm
  rw [hnames, List.mem_filter, List.mem_map, decide_eq_true_iff]
  constructor
  · rintro ⟨⟨entry, hentry, rfl⟩, hsome⟩
    exact ⟨entry, hentry, fun hempty => hsome (by rw [hempty]; rfl), rfl⟩
  · rintro ⟨entry, hentry, hsome, rfl⟩
    exact ⟨⟨entry, hentry, rfl⟩, fun hempty => hsome ((Text.lowerAscii_eq_iff (by simp)).mp hempty)⟩

theorem headers_ofConfig_eq_none_iff (config : Config.Cors) :
    (Policy.ofConfig config).headers = none ↔
      ∃ entry ∈ config.allowedHeaders, Text.trim entry = "*" := by
  simp [Policy.ofConfig]

theorem allows_iff_listed (config : Config.Cors) (origin method : String)
    (requested : List String) :
    Allows config origin method requested ↔ Listed config origin method requested := by
  have hmethods : Text.upperAscii (Text.trim method) ∈ (Policy.ofConfig config).methods ↔
      ∃ entry ∈ config.allowedMethods,
        Text.upperAscii (Text.trim method) = Text.upperAscii (Text.trim entry) := by
    rw [Policy.ofConfig, List.mem_map]
    exact exists_congr fun entry => and_congr_right fun _ => eq_comm
  have hheaders :
      (∃ headers, (Policy.ofConfig config).allowHeaders requested = .ok headers) ↔
        (∃ entry ∈ config.allowedHeaders, Text.trim entry = "*") ∨
          ∀ name ∈ requested, ∃ entry ∈ config.allowedHeaders,
            Text.trim entry ≠ "" ∧ name = Text.lowerAscii (Text.trim entry) := by
    rw [Policy.exists_allowHeaders_iff, ← headers_ofConfig_eq_none_iff]
    cases hallowed : (Policy.ofConfig config).headers with
    | none => simp
    | some allowed => simp [mem_headers_ofConfig (Option.mem_def.mpr hallowed)]
  constructor
  · rintro ⟨allowance, hallowance⟩
    obtain ⟨rule, headers, hrule, hmethod, hanswer, -⟩ :=
      Policy.evaluate_eq_ok_iff.mp hallowance
    exact ⟨(find?_origins_isSome_iff config origin).mp (by rw [hrule]; rfl),
      hmethods.mp hmethod, hheaders.mp ⟨headers, hanswer⟩⟩
  · rintro ⟨horigin, hmethod, hlisted⟩
    obtain ⟨rule, hrule⟩ :=
      Option.isSome_iff_exists.mp ((find?_origins_isSome_iff config origin).mpr horigin)
    obtain ⟨headers, hanswer⟩ := hheaders.mpr hlisted
    exact ⟨_, Policy.evaluate_eq_ok_iff.mpr
      ⟨rule, headers, hrule, hmethods.mpr hmethod, hanswer, rfl⟩⟩

/-! ## Longer lists -/

/-- Every entry of one list is an entry of the other, up to the case of letters. -/
def ListedIn (entries others : List String) : Prop :=
  ∀ entry ∈ entries, ∃ other ∈ others, Text.lowerAscii entry = Text.lowerAscii other

instance (entries others : List String) : Decidable (ListedIn entries others) :=
  inferInstanceAs (Decidable (∀ entry ∈ entries, ∃ other ∈ others, _))

/-- Each of the three lists is listed in its counterpart. -/
structure Extends (config other : Config.Cors) : Prop where
  origins : ListedIn config.allowedOrigins other.allowedOrigins
  methods : ListedIn config.allowedMethods other.allowedMethods
  headers : ListedIn config.allowedHeaders other.allowedHeaders

theorem ListedIn.of_subset {entries others : List String} (hsubset : entries ⊆ others) :
    ListedIn entries others :=
  fun entry hentry => ⟨entry, hsubset hentry, rfl⟩

/-- A property of entries that letter case does not change goes over to lists
that have more. -/
theorem ListedIn.exists {entries others : List String} (hlisted : ListedIn entries others)
    {test : String → Prop}
    (htest : ∀ {left right}, Text.lowerAscii left = Text.lowerAscii right →
      test left → test right) (hsome : ∃ entry ∈ entries, test entry) :
    ∃ other ∈ others, test other := by
  obtain ⟨entry, hentry, hholds⟩ := hsome
  obtain ⟨other, hother, hsame⟩ := hlisted entry hentry
  exact ⟨other, hother, htest hsame hholds⟩

theorem Listed.extend {config other : Config.Cors} (hextends : Extends config other)
    {origin method : String} {requested : List String}
    (hlisted : Listed config origin method requested) :
    Listed other origin method requested := by
  have htrim : ∀ {left right mark : String}, (∀ char ∈ mark.toList, char.toNat < 65) →
      Text.lowerAscii left = Text.lowerAscii right →
        (Text.trim left = mark ↔ Text.trim right = mark) := by
    intro left right mark hmark hsame
    rw [← Text.lowerAscii_eq_iff hmark, Text.lowerAscii_trim_congr hsame,
      Text.lowerAscii_eq_iff hmark]
  refine ⟨?_, ?_, ?_⟩
  · exact hextends.origins.exists (fun hsame hadmits => hadmits.congr hsame) hlisted.origin
  · refine hextends.methods.exists ?_ hlisted.method
    intro left right hsame hmethod
    rw [hmethod, Text.upperAscii_congr (Text.lowerAscii_trim_congr hsame)]
  · rcases hlisted.headers with hany | hall
    · left
      exact hextends.headers.exists (fun hsame => (htrim (by simp) hsame).mp) hany
    · right
      intro name hname
      refine hextends.headers.exists ?_ (hall name hname)
      rintro left right hsame ⟨hsome, hheader⟩
      refine ⟨fun hempty => hsome ((htrim (by simp) hsame).mpr hempty), ?_⟩
      rw [hheader, Text.lowerAscii_trim_congr hsame]

/-- A preflight is allowed exactly if what it asks for is listed.  So it stays
allowed if lists are replaced by ones with more entries, for instance by more
entries at their ends, and lists with the same entries, in any order, any number
and any case of letters, allow the same. -/
theorem allows_what_is_listed (config : Config.Cors) (origin method : String)
    (requested : List String) :
    (Allows config origin method requested ↔ Listed config origin method requested) ∧
    (∀ other, Extends config other →
      Allows config origin method requested → Allows other origin method requested) ∧
    (∀ origins methods headers, Allows config origin method requested →
      Allows { config with
          allowedOrigins := config.allowedOrigins ++ origins
          allowedMethods := config.allowedMethods ++ methods
          allowedHeaders := config.allowedHeaders ++ headers } origin method requested) ∧
    (∀ other, Extends config other → Extends other config →
      (Allows config origin method requested ↔ Allows other origin method requested)) := by
  have hextend : ∀ left right, Extends left right →
      Allows left origin method requested → Allows right origin method requested := by
    intro left right hextends hallows
    rw [allows_iff_listed] at hallows ⊢
    exact hallows.extend hextends
  refine ⟨allows_iff_listed config origin method requested, hextend config, ?_, ?_⟩
  · intro origins methods headers
    apply hextend config
    exact ⟨.of_subset (List.subset_append_left _ _), .of_subset (List.subset_append_left _ _),
      .of_subset (List.subset_append_left _ _)⟩
  · exact fun other hmore hless => ⟨hextend config other hmore, hextend other config hless⟩

/-- One application, and whatever a tenant calls its own. -/
def tenantLists : Config.Cors where
  allowedOrigins := ["https://app.example.com", "https://*.tenant.io"]
  allowedMethods := ["GET", "POST"]
  allowedHeaders := ["content-type", "x-tenant-id"]

/-- The same lists in another order and another hand. -/
def tenantListsAgain : Config.Cors where
  allowedOrigins := ["HTTPS://*.Tenant.io", "https://APP.example.com", "https://*.TENANT.io"]
  allowedMethods := ["post", "Post", "get"]
  allowedHeaders := ["X-Tenant-Id", "Content-Type"]

theorem tenant_allowed_by_either_list :
    Extends tenantLists tenantListsAgain ∧ Extends tenantListsAgain tenantLists ∧
      Listed tenantLists "https://Acme.tenant.io/" "post" ["content-type"] ∧
      Allows tenantListsAgain "https://Acme.tenant.io/" "post" ["content-type"] := by
  obtain ⟨hlisted, hextend, -, hsame⟩ :=
    allows_what_is_listed tenantLists "https://Acme.tenant.io/" "post" ["content-type"]
  have hallows : Allows tenantLists "https://Acme.tenant.io/" "post" ["content-type"] :=
    ⟨_, rfl⟩
  have hmore : Extends tenantLists tenantListsAgain := ⟨by decide, by decide, by decide⟩
  have hless : Extends tenantListsAgain tenantLists := ⟨by decide, by decide, by decide⟩
  exact ⟨hmore, hless, hlisted.mp hallows, (hsame tenantListsAgain hmore hless).mp hallows⟩

end EdgeGateway.Cors
