import EdgeGateway.Proofs.Route.Numbered
import EdgeGateway.Proofs.Text.Letters
import EdgeGateway.Route.Filter
import EdgeGateway.Route.Predicate

/-!
# The two ways to write an entry

In `Name=first,second` the arguments are numbered, and in an object they stand
under names.  An entry reads its arguments in one of two forms: as a list, or each
by its name or else its number.  For both forms the two ways of writing say the
same, and since compiling an entry asks for nothing but its name and its
arguments in the form of that name, they compile alike.
-/

namespace EdgeGateway.Route

namespace Entry

variable {name text : String} {values : List String} {kind : EntryKind}

/-! ## The short form -/

/-- A text in the short form: what stands before its first `=` is its name. -/
structure IsShort (text name arguments : String) : Prop where
  text_eq : text = name ++ "=" ++ arguments
  first : '=' ∉ name.toList
  named : Text.trim name ≠ ""

/-- The arguments in a text of the short form. -/
def shortArguments (arguments : String) : List String :=
  (Text.split ',' arguments).map Text.trim

theorem foldl_insert_numbered (entry : Entry) (arguments : List String) :
    arguments.zipIdx.foldl (fun entry (argument, index) =>
      entry.insert (positionalKey index) (Text.trim argument)) entry =
        (numbered (arguments.map Text.trim)).foldl
          (fun entry argument => entry.insert argument.1 argument.2) entry := by
  rw [numbered, List.zipIdx_map, List.foldl_map, List.foldl_map]
  rfl

/-- Exactly the texts in the short form are read. -/
theorem ofShorthand_eq_ok_iff {entry : Entry} :
    ofShorthand kind text = .ok entry ↔
      ∃ name arguments, IsShort text name arguments ∧
        entry = ofArguments (Text.trim name) (numbered (shortArguments arguments)) := by
  have hparts : ∀ name arguments, IsShort text name arguments ↔
      Text.splitFirst? '=' text = some (name, arguments) ∧ Text.trim name ≠ "" := by
    intro name arguments
    rw [Text.splitFirst?_eq_some_iff]
    exact ⟨fun ⟨htext, hfirst, hnamed⟩ => ⟨⟨hfirst, htext⟩, hnamed⟩,
      fun ⟨⟨hfirst, htext⟩, hnamed⟩ => ⟨htext, hfirst, hnamed⟩⟩
  unfold ofShorthand
  cases hsplit : Text.splitFirst? '=' text with
  | none => simp [hparts, hsplit]
  | some parts =>
      obtain ⟨name, arguments⟩ := parts
      dsimp only
      rw [foldl_insert_numbered]
      split
      next hempty => simp [hparts, hsplit, hempty]
      next hnamed =>
        simp only [hparts, hsplit, Except.ok.injEq]
        constructor
        · rintro rfl
          exact ⟨name, arguments, ⟨rfl, hnamed⟩, rfl⟩
        · rintro ⟨other, others, ⟨hsame, -⟩, rfl⟩
          obtain ⟨rfl, rfl⟩ := Prod.mk.inj (Option.some.inj hsame)
          rfl

/-! ## The long form -/

/-- The argument of an object says the same as a text. -/
def Says (kind : EntryKind) (argument : String × Json) (text : String × String) : Prop :=
  argument.1 = text.1 ∧ argumentText kind argument.1 argument.2 = .ok text.2

theorem withArguments_eq_ok {entry : Entry} {arguments : List (String × Json)}
    {texts : List (String × String)} (htexts : List.Forall₂ (Says kind) arguments texts) :
    withArguments kind entry arguments =
      .ok (texts.foldl (fun entry argument => entry.insert argument.1 argument.2) entry) := by
  induction htexts generalizing entry with
  | nil => rfl
  | @cons argument text arguments texts hargument _ ih =>
      obtain ⟨key, value⟩ := argument
      obtain ⟨rfl, hvalue⟩ := hargument
      dsimp only at hvalue
      rw [withArguments, hvalue]
      exact ih

/-- An object with a name and with arguments that say the same as some texts. -/
structure IsLong (kind : EntryKind) (members : List (String × Json)) (name : String)
    (texts : List (String × String)) : Prop where
  name_eq : (Json.object members).member? "name" = some (.string name)
  args : ∃ arguments, (Json.object members).member? "args" = some (.object arguments) ∧
    List.Forall₂ (Says kind) arguments texts

theorem IsLong.ofObject {members : List (String × Json)} {texts : List (String × String)}
    (hlong : IsLong kind members name texts) (hnamed : Text.trim name ≠ "") :
    ofObject kind members = .ok (ofArguments (Text.trim name) texts) := by
  obtain ⟨arguments, hargs, htexts⟩ := hlong.args
  have hblank : ¬ Text.isBlankText name = true := fun hblank =>
    hnamed (Text.trim_eq_empty_iff.mpr hblank)
  simp only [Entry.ofObject, hlong.name_eq, hargs, if_neg hblank]
  exact withArguments_eq_ok htexts

end Entry

/-! ## Forms of arguments -/

/-- How an entry takes its arguments: all as one list, which may also be written
between commas under one of some keys, or each under its own key. -/
inductive Form where
  | listed (keys : List String)
  | named (keys : List String)
  deriving Repr, DecidableEq

namespace Form

open Entry

variable {name : String} {values : List String}

/-- The keys that a form knows. -/
def keys : Form → List String
  | listed keys => keys
  | named keys => keys

/-- The values are the arguments under the keys of the form.  Values beyond the
keys may stand under any other names or be left out. -/
def Names (values : List String) (arguments : List (String × String)) : Form → Prop
  | listed keys => ∃ key ∈ keys, arguments = [(key, Text.join "," values)]
  | named keys => ∃ others, (keys ++ others).Nodup ∧ (∀ key ∈ others, IsNamed key) ∧
      arguments.Perm ((keys ++ others).zip values)

/-- The entries have the same arguments in this form. -/
def Alike (left right : Entry) : Form → Prop
  | listed keys => left.list keys = right.list keys
  | named keys => ∀ index key, keys[index]? = some key →
      left.find? key index = right.find? key index

/-- Different keys, none of which is a number. -/
def WellFormed (form : Form) : Prop :=
  form.keys.Nodup ∧ ∀ key ∈ form.keys, IsNamed key

instance : DecidablePred WellFormed := fun _ => inferInstanceAs (Decidable (_ ∧ _))

/-- Names that can stand before `=`, each with the form of its arguments. -/
def Table (forms : List (String × Form)) : Prop :=
  ∀ row ∈ forms, Text.trim row.1 = row.1 ∧ row.1 ≠ "" ∧ '=' ∉ row.1.toList ∧ row.2.WellFormed

instance : DecidablePred Table := fun _ => inferInstanceAs (Decidable (∀ row ∈ _, _))

/-- Numbered values are the same arguments as values under the keys of a form.  Only a
list is read back by its numbers, which have 64 bits. -/
theorem alike_numbered {form : Form} {arguments : List (String × String)}
    (hform : form.WellFormed) (hplain : Plain values)
    (hlength : ∀ keys, form = .listed keys → values.length ≤ Text.limit64 + 1)
    (hnames : form.Names values arguments) :
    form.Alike (ofArguments name (numbered values)) (ofArguments name arguments) := by
  obtain ⟨hnodup, hnamed⟩ := hform
  cases form with
  | listed keys =>
      obtain ⟨key, hkey, rfl⟩ := hnames
      exact (list_numbered hplain.nonempty (hlength keys rfl)).trans
        (list_joined hnodup hkey (hnamed key hkey) hplain).symm
  | named keys =>
      obtain ⟨others, hdistinct, hothers, hperm⟩ := hnames
      have hall : ∀ key ∈ keys ++ others, IsNamed key := fun key hkey =>
        (List.mem_append.mp hkey).elim (hnamed key) (hothers key)
      intro index key hkey
      have hplace : (keys ++ others)[index]? = some key := by
        obtain ⟨hbound, -⟩ := List.getElem?_eq_some_iff.mp hkey
        rwa [List.getElem?_append_left hbound]
      have hunused : (ofArguments name (numbered values)).argument? key = none := by
        refine argument?_ofArguments_eq_none (nodup_keys_numbered values) ?_
        rw [keys_numbered]
        intro hmem
        obtain ⟨number, -, hnumber⟩ := List.mem_map.mp hmem
        exact (hnamed key (List.mem_of_getElem? hkey)).ne_positionalKey number hnumber.symm
      rw [find?_numbered hunused, find?_named hdistinct hall hperm hplace]

/-- A name of a table can be written before `=`, whatever the case of its letters. -/
theorem Table.writable {forms : List (String × Form)} {form : Form}
    (htable : Table forms) (hrow : (Text.lowerAscii name, form) ∈ forms) :
    '=' ∉ name.toList ∧ Text.trim name ≠ "" ∧
      Text.lowerAscii (Text.trim name) = Text.lowerAscii name := by
  obtain ⟨htrim, hsome, hequals, -⟩ := htable _ hrow
  have hlower : Text.lowerAscii (Text.trim name) = Text.lowerAscii name := by
    rw [← Text.trim_lowerAscii, htrim]
  refine ⟨fun hmem => hequals ?_, fun hempty => hsome ?_, hlower⟩
  · rw [Text.lowerAscii, String.toList_ofList]
    exact List.mem_map.mpr ⟨'=', hmem, by decide⟩
  · rw [← hlower, hempty]
    rfl

end Form

namespace Entry

variable {name key : String} {values : List String} {kind : EntryKind}

/-- The values as a text in the short form. -/
def shorthand (name : String) (values : List String) : String :=
  name ++ "=" ++ Text.join "," values

/-- Both ways of writing are read, with the same name and the same arguments. -/
theorem exists_alike {form : Form} {members : List (String × Json)}
    {arguments : List (String × String)} (hfirst : '=' ∉ name.toList)
    (hnamed : Text.trim name ≠ "") (hform : form.WellFormed) (hplain : Plain values)
    (hlength : ∀ keys, form = .listed keys → values.length ≤ Text.limit64 + 1)
    (hlong : IsLong kind members name arguments) (hnames : form.Names values arguments) :
    ∃ short long, ofJson kind (.string (shorthand name values)) = .ok short ∧
      ofJson kind (.object members) = .ok long ∧
      short.name = Text.trim name ∧ long.name = Text.trim name ∧ form.Alike short long := by
  have hshort : IsShort (shorthand name values) name (Text.join "," values) :=
    ⟨rfl, hfirst, hnamed⟩
  have hvalues : shortArguments (Text.join "," values) = values := by
    rw [shortArguments, hplain.split_join, hplain.map_trim]
  refine ⟨_, _, ofShorthand_eq_ok_iff.mpr ⟨_, _, hshort, rfl⟩, hlong.ofObject hnamed,
    name_ofArguments _ _, name_ofArguments _ _, ?_⟩
  rw [hvalues]
  exact Form.alike_numbered hform hplain hlength hnames

/-- An object in which the values stand under the names that a table gives them. -/
def SpellsOut (kind : EntryKind) (forms : List (String × Form))
    (members : List (String × Json)) (name : String) (values : List String) : Prop :=
  ∃ form arguments, (Text.lowerAscii name, form) ∈ forms ∧
    IsLong kind members name arguments ∧ form.Names values arguments

/-- If compiling asks for nothing but the name and the arguments in the form of that
name, then both ways of writing compile alike. -/
theorem bind_compile_eq {Compiled : Type} {compile : Entry → Except Error Compiled}
    {forms : List (String × Form)} {members : List (String × Json)}
    (htable : Form.Table forms)
    (hcongr : ∀ (form : Form) (left right : Entry), left.name = right.name →
      (Text.lowerAscii left.name, form) ∈ forms → form.Alike left right →
        compile left = compile right)
    (hplain : Plain values)
    (hlength : ∀ keys, (Text.lowerAscii name, .listed keys) ∈ forms →
      values.length ≤ Text.limit64 + 1)
    (hobject : SpellsOut kind forms members name values) :
    ofJson kind (.string (shorthand name values)) >>= compile =
      ofJson kind (.object members) >>= compile := by
  obtain ⟨form, arguments, hrow, hlong, hnames⟩ := hobject
  obtain ⟨hfirst, hnamed, hlower⟩ := htable.writable hrow
  obtain ⟨-, -, -, hform⟩ := htable _ hrow
  obtain ⟨short, long, hshort, hobject, hshortName, hlongName, halike⟩ :=
    exists_alike hfirst hnamed hform hplain (fun keys hlisted => hlength keys (hlisted ▸ hrow))
      hlong hnames
  rw [hshort, hobject]
  refine hcongr form short long (hshortName.trans hlongName.symm) ?_ halike
  rwa [hshortName, hlower]

/-- What is read from the short form has its arguments at their places. -/
theorem IsShort.exists_entry {arguments : String} (hshort : IsShort text name arguments) :
    ∃ entry, ofJson kind (.string text) = .ok entry ∧ entry.name = Text.trim name ∧
      ((shortArguments arguments).length ≤ Text.limit64 + 1 →
        entry.positional = shortArguments arguments) ∧
      ∀ key index, entry.argument? key = none →
        entry.find? key index = given (shortArguments arguments)[index]? :=
  ⟨_, ofShorthand_eq_ok_iff.mpr ⟨_, _, hshort, rfl⟩, name_ofArguments _ _,
    positional_numbered, fun _ _ => find?_numbered⟩

theorem required_congr {left right : Entry} {index : Nat} (hname : left.name = right.name)
    (hfind : left.find? key index = right.find? key index) :
    left.required kind key index = right.required kind key index := by
  rw [required, required, hname, hfind]

end Entry

namespace Predicate

open Entry

/-- The names of predicates and how each takes its arguments. -/
def forms : List (String × Form) :=
  [("path", .listed ["patterns", "pattern"]),
    ("method", .listed ["methods", "method"]),
    ("header", .named ["header", "regexp"]),
    ("host", .listed ["patterns", "pattern"]),
    ("query", .named ["param", "regexp"])]

theorem table_forms : Form.Table forms := by decide

theorem requiredList_congr {left right : Entry} {keys : List String} {reported : String}
    (hname : left.name = right.name) (hlist : left.list keys = right.list keys) :
    requiredList left keys reported = requiredList right keys reported := by
  rw [requiredList, requiredList, hname, hlist]

/-- Compiling asks for nothing but the name and the arguments in its form. -/
theorem compile_congr {left right : Entry} {form : Form} (hname : left.name = right.name)
    (hrow : (Text.lowerAscii left.name, form) ∈ forms) (halike : form.Alike left right) :
    compile left = compile right := by
  simp only [forms, List.mem_cons, List.not_mem_nil, or_false, Prod.mk.injEq] at hrow
  unfold compile
  rw [← hname]
  rcases hrow with ⟨hlower, rfl⟩ | ⟨hlower, rfl⟩ | ⟨hlower, rfl⟩ | ⟨hlower, rfl⟩ | ⟨hlower, rfl⟩
  · simp only [hlower, requiredList_congr hname halike]
  · simp only [hlower, requiredList_congr hname halike]
  · simp only [hlower, required_congr hname (halike 0 "header" rfl), halike 1 "regexp" rfl]
  · simp only [hlower, requiredList_congr hname halike]
  · simp only [hlower, required_congr hname (halike 0 "param" rfl), halike 1 "regexp" rfl]

/-- No other names are known. -/
theorem compile_of_not_mem_forms {entry : Entry}
    (hname : Text.lowerAscii entry.name ∉ forms.map Prod.fst) :
    compile entry = .error (.unknownName .predicate entry.name) := by
  unfold compile
  split
  -- Every name with a branch of its own is in the table.
  all_goals first | rfl | simp_all [forms]

end Predicate

namespace Filter

open Entry

/-- The names of filters and how each takes its arguments. -/
def forms : List (String × Form) :=
  [("stripprefix", .named ["parts"]),
    ("prefixpath", .named ["prefix"]),
    ("rewritepath", .named ["regexp", "replacement"]),
    ("setpath", .named ["template"]),
    ("addrequestheader", .named ["name", "value"]),
    ("removerequestheader", .named ["name"])]

theorem table_forms : Form.Table forms := by decide

/-- Compiling asks for nothing but the name and the arguments in its form. -/
theorem compile_congr {left right : Entry} {form : Form} (hname : left.name = right.name)
    (hrow : (Text.lowerAscii left.name, form) ∈ forms) (halike : form.Alike left right) :
    compile left = compile right := by
  simp only [forms, List.mem_cons, List.not_mem_nil, or_false, Prod.mk.injEq] at hrow
  unfold compile
  rw [← hname]
  rcases hrow with ⟨hlower, rfl⟩ | ⟨hlower, rfl⟩ | ⟨hlower, rfl⟩ | ⟨hlower, rfl⟩ |
    ⟨hlower, rfl⟩ | ⟨hlower, rfl⟩
  · simp only [hlower, required_congr hname (halike 0 "parts" rfl)]
  · simp only [hlower, required_congr hname (halike 0 "prefix" rfl)]
  · simp only [hlower, required_congr hname (halike 0 "regexp" rfl),
      halike 1 "replacement" rfl]
  · simp only [hlower, required_congr hname (halike 0 "template" rfl)]
  · simp only [hlower, required_congr hname (halike 0 "name" rfl), halike 1 "value" rfl]
  · simp only [hlower, required_congr hname (halike 0 "name" rfl)]

/-- No other names are known. -/
theorem compile_of_not_mem_forms {entry : Entry}
    (hname : Text.lowerAscii entry.name ∉ forms.map Prod.fst) :
    compile entry = .error (.unknownName .filter entry.name) := by
  unfold compile
  split
  -- Every name with a branch of its own is in the table.
  all_goals first | rfl | simp_all [forms]

end Filter

open Entry

/-- Both ways of writing compile alike, for every known name and any arguments that
can stand between commas.  A text in the short form is read as its arguments in
their order.  Positions are 64-bit numbers, so a list ends with the last of them. -/
theorem shorthand_and_object_agree :
    (∀ name values members, Plain values → values.length ≤ Text.limit64 + 1 →
      SpellsOut .predicate Predicate.forms members name values →
        ofJson .predicate (.string (shorthand name values)) >>= Predicate.compile =
          ofJson .predicate (.object members) >>= Predicate.compile) ∧
    (∀ name values members, Plain values →
      SpellsOut .filter Filter.forms members name values →
        ofJson .filter (.string (shorthand name values)) >>= Filter.compile =
          ofJson .filter (.object members) >>= Filter.compile) ∧
    (∀ entry : Entry, Text.lowerAscii entry.name ∉ Predicate.forms.map Prod.fst →
      Predicate.compile entry = .error (.unknownName .predicate entry.name)) ∧
    (∀ entry : Entry, Text.lowerAscii entry.name ∉ Filter.forms.map Prod.fst →
      Filter.compile entry = .error (.unknownName .filter entry.name)) ∧
    ∀ kind text,
      (∀ entry, ofJson kind (.string text) = .ok entry →
        ∃ name arguments, IsShort text name arguments) ∧
      ∀ name arguments, IsShort text name arguments →
        ∃ entry, ofJson kind (.string text) = .ok entry ∧ entry.name = Text.trim name ∧
          ((shortArguments arguments).length ≤ Text.limit64 + 1 →
            entry.positional = shortArguments arguments) ∧
          ∀ key index, entry.argument? key = none →
            entry.find? key index = (shortArguments arguments)[index]?.filter (· ≠ "") := by
  refine ⟨fun name values members hplain hlength => ?_,
    fun name values members hplain => ?_,
    fun _ => Predicate.compile_of_not_mem_forms, fun _ => Filter.compile_of_not_mem_forms,
    fun kind text => ⟨fun entry hread => ?_, fun name arguments hshort => ?_⟩⟩
  · exact bind_compile_eq Predicate.table_forms (fun _ _ _ => Predicate.compile_congr) hplain
      fun _ _ => hlength
  · -- No filter takes a list, so nothing is read back by its number.
    have hnone : ∀ keys, (Text.lowerAscii name, Form.listed keys) ∉ Filter.forms := by
      simp [Filter.forms]
    exact bind_compile_eq Filter.table_forms (fun _ _ _ => Filter.compile_congr) hplain
      fun keys hlisted => absurd hlisted (hnone keys)
  · obtain ⟨name, arguments, hshort, -⟩ := ofShorthand_eq_ok_iff.mp hread
    exact ⟨name, arguments, hshort⟩
  · exact hshort.exists_entry

/-- Twelve patterns in a text and in an object, and a replacement in both. -/
theorem twelve_patterns_in_order :
    let patterns := "/p0,/p1,/p2,/p3,/p4,/p5,/p6,/p7,/p8,/p9,/p10,/p11"
    ofJson .predicate (.string ("Path=" ++ patterns)) >>= Predicate.compile =
        ofJson .predicate (.object [("name", .string "Path"),
          ("args", .object [("patterns", .string patterns)])]) >>= Predicate.compile ∧
      ofJson .filter (.string "RewritePath=/red/(.*),/$1") >>= Filter.compile =
        ofJson .filter (.object [("name", .string "RewritePath"),
          ("args", .object [("regexp", .string "/red/(.*)"),
            ("replacement", .string "/$1")])]) >>= Filter.compile ∧
      Filter.compile ⟨"Path", []⟩ = .error (.unknownName .filter "Path") ∧
      ∃ entry, ofJson .predicate (.string ("Path=" ++ patterns)) = .ok entry ∧
        entry.positional = ["/p0", "/p1", "/p2", "/p3", "/p4", "/p5", "/p6", "/p7", "/p8",
          "/p9", "/p10", "/p11"] ∧
        entry.find? "pattern" 10 = some "/p10" ∧ entry.find? "pattern" 12 = none := by
  obtain ⟨hpredicates, hfilters, -, hunknown, htexts⟩ := shorthand_and_object_agree
  refine ⟨?_, ?_, hunknown _ (by decide), ?_⟩
  · refine hpredicates "Path" ["/p0", "/p1", "/p2", "/p3", "/p4", "/p5", "/p6", "/p7", "/p8",
      "/p9", "/p10", "/p11"] _ ⟨by decide, by decide, by decide⟩ (by decide) ?_
    refine ⟨.listed ["patterns", "pattern"], _, by decide,
      ⟨rfl, _, rfl, .cons ⟨rfl, rfl⟩ .nil⟩, "patterns", by decide, rfl⟩
  · refine hfilters "RewritePath" ["/red/(.*)", "/$1"] _ ⟨by decide, by decide, by decide⟩ ?_
    refine ⟨.named ["regexp", "replacement"], _, by decide,
      ⟨rfl, _, rfl, .cons ⟨rfl, rfl⟩ (.cons ⟨rfl, rfl⟩ .nil)⟩, [], by decide, by decide,
      .refl _⟩
  · obtain ⟨-, hread⟩ := htexts .predicate
      "Path=/p0,/p1,/p2,/p3,/p4,/p5,/p6,/p7,/p8,/p9,/p10,/p11"
    obtain ⟨entry, hentry, -, hpositional, hfind⟩ := hread "Path"
      "/p0,/p1,/p2,/p3,/p4,/p5,/p6,/p7,/p8,/p9,/p10,/p11" ⟨by decide, by decide, by decide⟩
    have hunused : entry.argument? "pattern" = none := by
      cases hentry
      rfl
    exact ⟨entry, hentry, hpositional (by decide), hfind _ _ hunused, hfind _ _ hunused⟩

end EdgeGateway.Route
