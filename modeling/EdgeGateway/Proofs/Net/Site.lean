import EdgeGateway.Net.Url
import EdgeGateway.Proofs.Attempt
import EdgeGateway.Proofs.Text.Pieces
import Mathlib.Data.List.TakeWhile

/-!
# The site of a URL

A URL names a site, that is a scheme, a host and a number, and something at that
site.  The site ends at the first slash behind the host, so whatever follows a
slash there does not change it.
-/

namespace EdgeGateway.Net.Url

/-- A URL without what follows its host and number. -/
def site (url : Url) : Url := { url with rest := "" }

/-- The site that a text names, or why it names none. -/
def siteOf (text : String) : Except UrlError Url := (read text).map site

/-! ## Blanks -/

def isControl (char : Char) : Bool := char.toNat ≤ 0x20

def isKept (char : Char) : Bool := char ≠ '\t' && char ≠ '\n' && char ≠ '\r'

/-- A text that goes on, without what is not part of a URL. -/
def lead (text : List Char) : List Char :=
  (text.dropWhile isControl).filter isKept

theorem clean_eq (text : List Char) :
    clean text = (((text.dropWhile isControl).reverse.dropWhile
      isControl).reverse).filter isKept :=
  rfl

theorem dropWhile_append_of_head {p : Char → Bool} {char : Char}
    (hchar : p char = false) (front rest : List Char) :
    (front ++ char :: rest).dropWhile p = front.dropWhile p ++ char :: rest := by
  rw [List.dropWhile_append]
  split
  next hempty => simp_all
  next => rfl

theorem clean_append_slash (front rest : List Char) :
    ∃ tail, clean (front ++ '/' :: rest) = lead front ++ '/' :: tail := by
  have hslash : isControl '/' = false := rfl
  rw [clean_eq, dropWhile_append_of_head hslash, List.reverse_append,
    List.reverse_cons, List.append_assoc, List.singleton_append,
    dropWhile_append_of_head hslash]
  simp only [List.reverse_append, List.reverse_cons, List.reverse_reverse,
    List.append_assoc, List.singleton_append, List.filter_append]
  exact ⟨_, rfl⟩

/-- Cleaning a text at its end too takes some of its lead away. -/
theorem clean_prefix_lead (text : List Char) : clean text <+: lead text := by
  rw [clean_eq, lead]
  refine List.IsPrefix.filter _ ?_
  rw [← List.reverse_suffix, List.reverse_reverse]
  exact List.dropWhile_suffix _

/-! ## What follows the host -/

def endsAuthority (web : Bool) (char : Char) : Bool :=
  char = '/' || char = '?' || char = '#' || (web && char = '\\')

theorem takeWhile_append_of_head {p : Char → Bool} {char : Char}
    (hchar : p char = false) (front rest : List Char) :
    (front ++ char :: rest).takeWhile p = front.takeWhile p := by
  rw [List.takeWhile_append]
  split
  next hall =>
    have hsame : front.takeWhile p = front :=
      (List.takeWhile_prefix p).eq_of_length hall
    simp [hsame, hchar]
  next => rfl

theorem site_readAuthority (scheme : String) (web : Bool)
    (front rest other : List Char) :
    (readAuthority scheme web (front ++ '/' :: rest)).map site =
      (readAuthority scheme web (front ++ '/' :: other)).map site := by
  let authority := front.takeWhile fun char => !endsAuthority web char
  have htake : ∀ tail, (front ++ '/' :: tail).takeWhile
      (fun char => !endsAuthority web char) = authority :=
    takeWhile_append_of_head rfl front
  have hdrop : ∀ tail, (front ++ '/' :: tail).drop authority.length ≠ [] := by
    intro tail
    have hshort : authority.length ≤ front.length :=
      (List.takeWhile_prefix _).length_le
    simp [List.drop_eq_nil_iff]
    omega
  have hsome : ∀ tail, ((front ++ '/' :: tail).drop authority.length = []) = False := by
    simpa using hdrop
  unfold endsAuthority at htake
  unfold readAuthority
  simp only [htake, ne_eq, hsome, not_false_eq_true, true_or, and_true]
  by_cases huser : (splitUserinfo authority).1.isSome = true ∧
      (splitUserinfo authority).2 = []
  · simp only [if_pos huser]
    rfl
  · simp only [if_neg huser]
    obtain ⟨hostText, numberText⟩ := splitHost false (splitUserinfo authority).2
    by_cases hempty : hostText = [] ∧ (web = true ∨ numberText.isSome = true)
    · simp only [if_pos hempty]
      rfl
    · simp only [if_neg hempty]
      cases web with
      | true =>
          cases readWebHost hostText with
          | error error => rfl
          | ok host =>
              cases numberText with
              | none => rfl
              | some digits =>
                  dsimp only
                  cases readNumber scheme digits <;> rfl
      | false =>
          cases readOtherHost hostText with
          | error error => rfl
          | ok host =>
              cases numberText with
              | none => rfl
              | some digits =>
                  dsimp only
                  cases readNumber scheme digits <;> rfl

/-- A text that names a site as far as it goes: behind its scheme there is more
than slashes. -/
def NamesSite (text : List Char) : Prop :=
  ∃ first scheme after, text = first :: scheme ++ ':' :: after ∧
    (first :: scheme).all isSchemeChar = true ∧
    (∃ char ∈ after, char ≠ '/' ∧ char ≠ '\\') ∧
    (isWebScheme (String.ofList ((first :: scheme).map Text.lowerAsciiChar)) =
        false → ∃ authority, after = '/' :: '/' :: authority)

theorem takeWhile_scheme {scheme : List Char}
    (hscheme : scheme.all isSchemeChar = true) (after : List Char) :
    (scheme ++ ':' :: after).takeWhile isSchemeChar = scheme := by
  rw [takeWhile_append_of_head rfl]
  exact List.takeWhile_eq_self_iff.mpr (List.all_eq_true.mp hscheme)

theorem dropWhile_slashes_ne_nil_iff {after : List Char} :
    after.dropWhile (fun char => char = '/' || char = '\\') ≠ [] ↔
      ∃ char ∈ after, char ≠ '/' ∧ char ≠ '\\' := by
  simp [List.dropWhile_eq_nil_iff]

/-- What is read behind a scheme. -/
def readBehind (scheme : String) (after : List Char) : Except UrlError Url :=
  if isWebScheme scheme then
    readAuthority scheme true (after.dropWhile fun char => char = '/' || char = '\\')
  else if scheme = "file" then
    .ok ⟨scheme, none, none, none, String.ofList after⟩
  else
    match after with
    | '/' :: '/' :: authority => readAuthority scheme false authority
    | _ => .ok ⟨scheme, none, none, none, String.ofList after⟩

theorem read_of_clean {text : String} {first : Char} {scheme after : List Char}
    (hscheme : (first :: scheme).all isSchemeChar = true)
    (hclean : clean text.toList = first :: scheme ++ ':' :: after) :
    read text =
      if !Text.isAsciiLetter first then .error .relativeWithoutBase
      else
        readBehind (String.ofList ((first :: scheme).map Text.lowerAsciiChar))
          after := by
  simp only [read, hclean, takeWhile_scheme hscheme, List.drop_left]
  rfl

theorem site_readBehind {scheme : String} {after : List Char}
    (hmore : ∃ char ∈ after, char ≠ '/' ∧ char ≠ '\\')
    (hother : isWebScheme scheme = false →
      ∃ authority, after = '/' :: '/' :: authority)
    (tail rest : List Char) :
    (readBehind scheme (after ++ '/' :: tail)).map site =
      (readBehind scheme (after ++ '/' :: rest)).map site := by
  cases hweb : isWebScheme scheme with
  | true =>
      have hkept := dropWhile_slashes_ne_nil_iff.mpr hmore
      simp only [readBehind, hweb, if_true, List.dropWhile_append,
        List.isEmpty_iff, hkept, if_false]
      exact site_readAuthority _ true _ _ _
  | false =>
      obtain ⟨authority, rfl⟩ := hother hweb
      by_cases hfile : scheme = "file"
      · simp only [readBehind, hweb, if_pos hfile]
        rfl
      · simp only [readBehind, hweb, if_neg hfile]
        exact site_readAuthority _ false _ _ _

/-- Texts that go on with a slash behind the same site name that site. -/
theorem siteOf_congr {text other : String} {front tail rest : List Char}
    (hnames : NamesSite front)
    (htext : clean text.toList = front ++ '/' :: tail)
    (hother : clean other.toList = front ++ '/' :: rest) :
    siteOf text = siteOf other := by
  obtain ⟨first, scheme, after, rfl, hscheme, hmore, hweb⟩ := hnames
  rw [List.append_assoc, List.cons_append] at htext hother
  rw [siteOf, siteOf, read_of_clean hscheme htext, read_of_clean hscheme hother]
  split
  · rfl
  · exact site_readBehind hmore hweb tail rest

/-! ## A text that has been read -/

theorem mem_of_mem_splitHost {inside : Bool} {text : List Char} {char : Char}
    (hchar : char ∈ (splitHost inside text).1) : char ∈ text := by
  induction text generalizing inside with
  | nil => simp [splitHost] at hchar
  | cons first text ih =>
      unfold splitHost at hchar
      split at hchar
      next => simp at hchar
      next =>
        rcases List.mem_cons.mp hchar with rfl | hrest
        · exact List.mem_cons_self
        · exact List.mem_cons_of_mem _ (ih hrest)

theorem mem_of_mem_splitUserinfo {text : List Char} {char : Char}
    (hchar : char ∈ (splitUserinfo text).2) : char ∈ text := by
  unfold splitUserinfo at hchar
  split at hchar
  next host user hsplit =>
    have hstarts := List.prefix_append host ('@' :: user)
    rw [← (Text.splitAtFirst?_eq_some_iff.mp hsplit).2] at hstarts
    exact List.mem_reverse.mp (hstarts.subset (List.mem_reverse.mp hchar))
  next => exact hchar

/-- A host that is not empty is more than slashes. -/
theorem exists_of_readOtherHost {text : List Char} {host : String}
    (hread : readOtherHost text = .ok host) (hsome : host ≠ "") :
    ∃ char ∈ text, char ≠ '/' ∧ char ≠ '\\' := by
  unfold readOtherHost at hread
  split at hread
  next inner => exact ⟨'[', List.mem_cons_self, by decide, by decide⟩
  next =>
    split at hread
    next => simp at hread
    next hallowed =>
      obtain rfl := Except.ok.inj hread
      obtain ⟨char, hchar⟩ : ∃ char, char ∈ text := by
        cases text with
        | nil => simp at hsome
        | cons first rest => exact ⟨first, List.mem_cons_self⟩
      have hfine : isForbiddenInHost char = false := by
        simpa using List.any_eq_false.mp (Bool.eq_false_iff.mpr hallowed) char hchar
      refine ⟨char, hchar, ?_, ?_⟩ <;> rintro rfl <;> exact absurd hfine (by decide)

theorem host_of_readAuthority {scheme : String} {web : Bool} {text : List Char}
    {url : Url} (hread : readAuthority scheme web text = .ok url) :
    ∃ hostText host, (∀ char ∈ hostText, char ∈ text) ∧
      (if web then readWebHost hostText else readOtherHost hostText) = .ok host ∧
      url.host = some host ∧ (web = true → hostText ≠ []) := by
  unfold readAuthority at hread
  simp only at hread
  split at hread
  next => exact absurd (bind_eq_ok_iff.mp hread) (by simp [throw_ne_ok])
  split at hread
  next => exact absurd (bind_eq_ok_iff.mp hread) (by simp [throw_ne_ok])
  next hsome =>
    have hinside : ∀ {inside : Bool} {p : Char → Bool} {char : Char},
        char ∈ (splitHost inside (splitUserinfo (text.takeWhile p)).2).1 →
          char ∈ text := by
      intro inside p char hchar
      exact (List.takeWhile_prefix p).subset
        (mem_of_mem_splitUserinfo (mem_of_mem_splitHost hchar))
    cases web
    all_goals
      obtain ⟨host, hhost, hrest⟩ := bind_eq_ok_iff.mp hread
      refine ⟨_, host, fun char => hinside, hhost, ?_,
        fun hweb hnone => hsome ⟨hnone, Or.inl hweb⟩⟩
      split at hrest <;>
        · obtain ⟨number, -, hurl⟩ := bind_eq_ok_iff.mp hrest
          rw [← pure_eq_ok_iff.mp hurl]

/-- Behind a scheme with a host there is more than slashes. -/
theorem more_of_readBehind {scheme : String} {after : List Char} {url : Url}
    (hread : readBehind scheme after = .ok url) (hhost : url.host.getD "" ≠ "") :
    (∃ char ∈ after, char ≠ '/' ∧ char ≠ '\\') ∧
      (isWebScheme scheme = false →
        ∃ authority, after = '/' :: '/' :: authority) := by
  unfold readBehind at hread
  split at hread
  next hweb =>
    obtain ⟨hostText, -, hinside, -, -, hsome⟩ := host_of_readAuthority hread
    have hkept : after.dropWhile (fun char => char = '/' || char = '\\') ≠ [] := by
      intro hempty
      obtain ⟨char, hchar⟩ := List.exists_mem_of_ne_nil _ (hsome rfl)
      simpa [hempty] using hinside char hchar
    exact ⟨dropWhile_slashes_ne_nil_iff.mp hkept, by simp [hweb]⟩
  split at hread
  next =>
    obtain rfl := Except.ok.inj hread
    simp at hhost
  split at hread
  next authority =>
    obtain ⟨hostText, host, hinside, hreadHost, hurl, -⟩ :=
      host_of_readAuthority hread
    obtain ⟨char, hchar, hslash⟩ :=
      exists_of_readOtherHost hreadHost (by simpa [hurl] using hhost)
    exact ⟨⟨char, by simp [hinside char hchar], hslash⟩,
      fun _ => ⟨authority, rfl⟩⟩
  next =>
    obtain rfl := Except.ok.inj hread
    simp at hhost

theorem readBehind_of_read {text : String} {url : Url} (hread : read text = .ok url) :
    ∃ first scheme after, clean text.toList = first :: scheme ++ ':' :: after ∧
      (first :: scheme).all isSchemeChar = true ∧
      readBehind (String.ofList ((first :: scheme).map Text.lowerAsciiChar)) after =
        .ok url := by
  have hcut := List.prefix_iff_eq_append.mp
    (List.takeWhile_prefix isSchemeChar (l := clean text.toList))
  have hcopy := hread
  unfold read at hcopy
  simp only at hcopy
  split at hcopy
  case h_2 => simp at hcopy
  case h_1 first scheme after hscheme hafter =>
    rw [hafter, hscheme] at hcut
    have hall : (first :: scheme).all isSchemeChar = true := by
      rw [← hscheme]
      exact List.all_eq_true.mpr fun char => List.mem_takeWhile_imp
    rw [read_of_clean hall hcut.symm] at hread
    split at hread
    next => simp at hread
    next => exact ⟨first, scheme, after, hcut.symm, hall, hread⟩

/-- A text with a host names a site before its end. -/
theorem namesSite_of_read {text : String} {url : Url}
    (hread : read text = .ok url) (hhost : url.host.getD "" ≠ "") :
    NamesSite (lead text.toList) := by
  obtain ⟨first, scheme, after, hclean, hall, hbehind⟩ := readBehind_of_read hread
  obtain ⟨⟨char, hchar, hslash⟩, hother⟩ := more_of_readBehind hbehind hhost
  obtain ⟨extra, hextra⟩ := clean_prefix_lead text.toList
  refine ⟨first, scheme, after ++ extra, by simp [← hextra, hclean], hall,
    ⟨char, List.mem_append_left _ hchar, hslash⟩, fun hweb => ?_⟩
  obtain ⟨authority, rfl⟩ := hother hweb
  exact ⟨authority ++ extra, rfl⟩

/-! ## Slashes at the end -/

/-- A site is named before the slashes at the end. -/
theorem NamesSite.of_append {front slashes : List Char}
    (hslashes : ∀ char ∈ slashes, char = '/')
    (hnames : NamesSite (front ++ slashes)) : NamesSite front := by
  obtain ⟨first, scheme, after, htext, hall, ⟨char, hchar, hslash, hback⟩, hother⟩ :=
    hnames
  obtain ⟨before, rest, rfl⟩ := List.append_of_mem hchar
  -- The character is not one of the slashes, so the cut is behind it.
  obtain ⟨kept, hfront, hrest⟩ : ∃ kept,
      front = first :: scheme ++ ':' :: (before ++ [char]) ++ kept ∧
        rest = kept ++ slashes := by
    have hsplit : front ++ slashes =
        (first :: scheme ++ ':' :: (before ++ [char])) ++ rest := by
      rw [htext]
      simp
    rcases List.append_eq_append_iff.mp hsplit with
      ⟨more, hmore, hslashes'⟩ | ⟨kept, hfront, hrest⟩
    · rcases List.eq_nil_or_concat more with rfl | ⟨others, last, rfl⟩
      · exact ⟨[], by simpa using hmore.symm, by simpa using hslashes'.symm⟩
      · have hends : (first :: scheme ++ ':' :: before) ++ [char] =
            (front ++ others) ++ [last] := by simpa using hmore
        obtain rfl : char = last := by simpa using (List.append_inj' hends rfl).2
        exact absurd (hslashes char (by simp [hslashes'])) hslash
    · exact ⟨kept, hfront, hrest⟩
  refine ⟨first, scheme, before ++ [char] ++ kept, by simp [hfront], hall,
    ⟨char, by simp, hslash, hback⟩, fun hweb => ?_⟩
  obtain ⟨authority, hauthority⟩ := hother hweb
  rcases before with _ | ⟨one, _ | ⟨two, before⟩⟩ <;>
    simp only [List.nil_append, List.cons_append, List.cons.injEq] at hauthority
  · exact absurd hauthority.1 hslash
  · exact absurd hauthority.2.1 hslash
  · obtain ⟨rfl, rfl, -⟩ := hauthority
    exact ⟨before ++ [char] ++ kept, rfl⟩

theorem lead_append_slashes {front slashes : List Char}
    (hslashes : ∀ char ∈ slashes, char = '/') :
    lead (front ++ slashes) = lead front ++ slashes := by
  cases slashes with
  | nil => simp
  | cons first slashes =>
      obtain ⟨rfl, hrest⟩ := List.forall_mem_cons.mp hslashes
      have hkept : ('/' :: slashes).filter isKept = '/' :: slashes := by
        rw [List.filter_eq_self]
        intro char hchar
        rw [hslashes char hchar]
        rfl
      rw [lead, dropWhile_append_of_head rfl, List.filter_append, hkept, lead]

end EdgeGateway.Net.Url
