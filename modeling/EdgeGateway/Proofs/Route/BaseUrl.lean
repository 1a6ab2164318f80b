import EdgeGateway.Proofs.Net.Site
import EdgeGateway.Proofs.Route.Edits
import EdgeGateway.Proofs.Route.Selection

/-!
# The base of a target

An address that has been checked names a host, and so does the base that is made
of it: another scheme may stand before the host, and the slashes at the end are
gone.  Paths that begin with a slash are glued to it, so they lie behind the host.
-/

namespace EdgeGateway.Route

open Net.Url (NamesSite clean isSchemeChar isKept lead read siteOf)

/-! ## Checked addresses -/

namespace Target

theorem leads_of_pick {roll before : Nat} {variants : List Variant}
    {selection : Selection} (hpick : pick roll before variants = some selection) :
    (weighted variants).Leads selection := by
  induction variants generalizing before with
  | nil => simp [pick] at hpick
  | cons variant variants ih =>
      unfold pick at hpick
      split at hpick
      next =>
        obtain rfl := Option.some.inj hpick
        exact ⟨variant, List.mem_cons_self, rfl⟩
      next =>
        obtain ⟨other, hother, hselection⟩ := ih hpick
        exact ⟨other, List.mem_cons_of_mem _ hother, hselection⟩

theorem leads_of_select {target : Target} {rollBelow : Nat → Nat}
    {selection : Selection} (hselect : target.select rollBelow = some selection) :
    target.Leads selection := by
  cases target with
  | fixed uri => exact (Option.some.inj hselect).symm
  | weighted variants =>
      simp only [select] at hselect
      split at hselect
      next => simp at hselect
      next => exact leads_of_pick hselect

theorem checkUri_of_leads {target : Target} {selection : Selection}
    (hchecked : target.checkUris = .ok ()) (hleads : target.Leads selection) :
    checkUri selection.uri = .ok () := by
  apply forM_eq_ok_iff.mp hchecked
  cases target with
  | fixed uri =>
      obtain rfl := hleads
      exact List.mem_singleton_self _
  | weighted variants =>
      obtain ⟨variant, hvariant, rfl⟩ := hleads
      exact List.mem_map_of_mem hvariant

end Target

/-- Everything of a route is compiled and checked. -/
theorem Resolved.compiled_of_ofDefinition {definition : Definition} {route : Resolved}
    (hresolves : ofDefinition definition = .ok (some route)) :
    definition.predicates.mapM Predicate.compile = .ok route.predicates ∧
      definition.filters.mapM Filter.compile = .ok route.filters ∧
      route.target.checkUris = .ok () := by
  obtain ⟨predicates, hpredicates, hresolves⟩ := bind_eq_ok_iff.mp hresolves
  obtain ⟨filters, hfilters, hresolves⟩ := bind_eq_ok_iff.mp hresolves
  split at hresolves
  next => simp [pure, Except.pure] at hresolves
  next target _ =>
    obtain ⟨⟨⟩, hchecked, hroute⟩ := bind_eq_ok_iff.mp hresolves
    obtain rfl := Option.some.inj (pure_eq_ok_iff.mp hroute)
    exact ⟨hpredicates, hfilters, hchecked⟩

theorem Resolved.checked_of_ofDefinition {definition : Definition} {route : Resolved}
    (hresolves : ofDefinition definition = .ok (some route)) :
    (∀ filter ∈ route.filters, filter.Proper) ∧
      route.target.checkUris = .ok () := by
  obtain ⟨-, hfilters, hchecked⟩ := compiled_of_ofDefinition hresolves
  refine ⟨fun filter hfilter => ?_, hchecked⟩
  obtain ⟨entry, -, hcompile⟩ := mem_of_mapM_eq_ok hfilters hfilter
  exact Filter.proper_of_compile hcompile

/-! ## The site of a base -/

theorem read_of_checkUri {uri : String} (hchecked : Target.checkUri uri = .ok ()) :
    ∃ url, read uri = .ok url ∧ url.host.getD "" ≠ "" := by
  unfold Target.checkUri at hchecked
  split at hchecked
  next => simp at hchecked
  next url hread =>
    refine ⟨url, hread, fun hempty => ?_⟩
    rw [if_pos hempty] at hchecked
    split at hchecked <;> simp at hchecked

/-- A logical service is reached by its name. -/
theorem namesSite_http {name : List Char}
    (hnames : NamesSite (lead ("lb://".toList ++ name))) :
    NamesSite (lead ("http://".toList ++ name)) := by
  have hlead : lead ("lb://".toList ++ name) =
      ['l', 'b'] ++ ':' :: ('/' :: '/' :: name.filter isKept) := rfl
  obtain ⟨first, scheme, after, htext, hall, ⟨char, hchar, hslash⟩, -⟩ := hnames
  rw [hlead] at htext
  have hscheme : ['l', 'b'] = first :: scheme := by
    have htake := congrArg (List.takeWhile isSchemeChar) htext
    rwa [Net.Url.takeWhile_scheme (by decide), Net.Url.takeWhile_scheme hall] at htake
  obtain rfl : after = '/' :: '/' :: name.filter isKept := by
    rw [← hscheme] at htext
    simpa using htext.symm
  exact ⟨'h', ['t', 't', 'p'], _, rfl, by decide, ⟨char, hchar, hslash⟩,
    fun _ => ⟨_, rfl⟩⟩

/-- A base is an address, or a logical service by its name, without the slashes at
the end. -/
theorem baseUrl_cases (uri : String) :
    ∃ full, (Match.baseUrl uri).toList = Text.dropEndWhile (· = '/') full ∧
      (full = uri.toList ∨ ∃ name, uri.toList = "lb://".toList ++ name ∧
        full = "http://".toList ++ name) := by
  unfold Match.baseUrl
  cases hstrip : Text.stripPrefix? "lb://" uri with
  | none => exact ⟨uri.toList, by simp, Or.inl rfl⟩
  | some name =>
      obtain ⟨chars, hdrop, rfl⟩ := Option.map_eq_some_iff.mp hstrip
      exact ⟨"http://".toList ++ chars, by simp,
        Or.inr ⟨chars, Text.eq_append_of_dropPiece? hdrop, rfl⟩⟩

theorem namesSite_baseUrl {uri : String} (hchecked : Target.checkUri uri = .ok ()) :
    NamesSite (lead (Match.baseUrl uri).toList) := by
  obtain ⟨url, hread, hhost⟩ := read_of_checkUri hchecked
  have hnames := Net.Url.namesSite_of_read hread hhost
  obtain ⟨full, hbase, hcases⟩ := baseUrl_cases uri
  have hfull : NamesSite (lead full) := by
    rcases hcases with rfl | ⟨name, huri, rfl⟩
    · exact hnames
    · rw [huri] at hnames
      exact namesSite_http hnames
  obtain ⟨slashes, hsplit, hslashes⟩ := Text.exists_dropEndWhile_append (· = '/') full
  have hall : ∀ char ∈ slashes, char = '/' := by simpa using hslashes
  rw [hsplit, Net.Url.lead_append_slashes hall] at hfull
  rw [hbase]
  exact hfull.of_append hall

/-- What is glued to a checked base behind a slash leaves the site as it is. -/
theorem siteOf_baseUrl_append {uri : String}
    (hchecked : Target.checkUri uri = .ok ()) {path : String}
    (hrooted : IsRooted path) (rest : String) :
    siteOf (Match.baseUrl uri ++ path ++ rest) = siteOf (Match.baseUrl uri ++ "/") := by
  obtain ⟨chars, hchars⟩ := isRooted_iff.mp hrooted
  have hnames := namesSite_baseUrl hchecked
  obtain ⟨tail, htail⟩ :=
    Net.Url.clean_append_slash (Match.baseUrl uri).toList (chars ++ rest.toList)
  obtain ⟨root, hroot⟩ :=
    Net.Url.clean_append_slash (Match.baseUrl uri).toList []
  have hfull : clean (Match.baseUrl uri ++ path ++ rest).toList =
      lead (Match.baseUrl uri).toList ++ '/' :: tail := by
    rw [← htail]
    simp [hchars]
  have hbare : clean (Match.baseUrl uri ++ "/").toList =
      lead (Match.baseUrl uri).toList ++ '/' :: root := by
    rw [← hroot]
    simp
  exact Net.Url.siteOf_congr hnames hfull hbare

end EdgeGateway.Route
