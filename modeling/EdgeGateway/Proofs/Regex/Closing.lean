import EdgeGateway.Proofs.Attempt
import EdgeGateway.Regex.Parser

/-!
# Reading before a closing parenthesis

A pattern that stands in parentheses is followed by more text than one that stands
alone.  A reader is tame if this changes little: it leaves the same text, with what
follows behind it, unless a comment has swallowed what follows; and where it fails
alone it fails again, or goes on into what follows.  Tame readers in a row are tame.
-/

namespace EdgeGateway.Regex

open Reader

/-- What follows a pattern in parentheses. -/
structure Closing (tail : List Char) : Prop where
  head : tail.head? = some ')'
  plain : ∀ char ∈ tail, char = ')' ∨ char = '$'

theorem Closing.exists_cons {tail : List Char} (hclosing : Closing tail) :
    ∃ more, tail = ')' :: more := List.head?_eq_some_iff.mp hclosing.head

theorem Closing.not_mem {tail : List Char} (hclosing : Closing tail) {char : Char}
    (hparenthesis : char ≠ ')') (hdollar : char ≠ '$') : char ∉ tail := fun hmem => by
  rcases hclosing.plain char hmem with hsame | hsame
  · exact hparenthesis hsame
  · exact hdollar hsame

theorem Closing.head?_append {tail : List Char} (hclosing : Closing tail) {text : List Char}
    {char : Char} (hchar : char ≠ ')') :
    (text ++ tail).head? = some char ↔ text.head? = some char := by
  cases text with
  | nil => simp [hclosing.head, hchar.symm]
  | cons first text => simp

theorem Closing.head?_append_ne {tail : List Char} (hclosing : Closing tail)
    {text : List Char} {char : Char} (hchar : char ≠ ')') (hhead : text.head? ≠ some char) :
    (text ++ tail).head? ≠ some char := mt (hclosing.head?_append hchar).mp hhead

/-- The same scan with more text behind. -/
def Scan.followedBy (scan : Scan) (tail : List Char) : Scan :=
  { scan with rest := scan.rest ++ tail }

@[simp]
theorem Scan.followedBy_rest (scan : Scan) (tail : List Char) :
    (scan.followedBy tail).rest = scan.rest ++ tail := rfl

@[simp]
theorem Scan.followedBy_flags (scan : Scan) (tail : List Char) :
    (scan.followedBy tail).flags = scan.flags := rfl

/-- What a reader comes to. -/
abbrev Outcome (Value : Type) := Except SyntaxError (Value × Scan)

/-- What may come of a reader with text behind it where it fails without. -/
abbrev Excess (Value : Type) := List Char → Value → Scan → Prop

section Runs

variable {Value Other : Type} {reader : Reader Value} {next : Value → Reader Other}
  {scan middle final : Scan}

theorem run_bind_eq_ok_iff {other : Other} :
    (reader >>= next).run scan = .ok (other, final) ↔
      ∃ value middle, reader.run scan = .ok (value, middle) ∧
        (next value).run middle = .ok (other, final) := by
  rw [StateT.run_bind, bind_eq_ok_iff]
  simp

theorem run_bind_of_ok {value : Value} (hreader : reader.run scan = .ok (value, middle)) :
    (reader >>= next).run scan = (next value).run middle := by
  rw [StateT.run_bind, hreader]
  rfl

theorem run_bind_of_error {error : SyntaxError} (hreader : reader.run scan = .error error) :
    (reader >>= next).run scan = .error error := by
  rw [StateT.run_bind, hreader]
  rfl

theorem run_peek (scan : Scan) : peek.run scan = .ok (scan.rest.head?, scan) := rfl

theorem run_get (scan : Scan) : (get : Reader Scan).run scan = .ok (scan, scan) := rfl

theorem run_rest (scan : Scan) : rest.run scan = .ok (scan.rest, scan) := rfl

theorem run_advance (scan : Scan) :
    advance.run scan = .ok ((), { scan with rest := scan.rest.tail }) := rfl

theorem run_skipSpace (scan : Scan) :
    skipSpace.run scan = .ok ((), { scan with rest := afterSpace scan.flags scan.rest }) := rfl

theorem run_setRest (left : List Char) (scan : Scan) :
    (setRest left).run scan = .ok ((), { scan with rest := left }) := rfl

theorem run_pure (value : Value) (scan : Scan) :
    (pure value : Reader Value).run scan = .ok (value, scan) := rfl

theorem run_pure_eq_ok_iff {value found : Value} :
    (pure value : Reader Value).run scan = .ok (found, final) ↔
      value = found ∧ scan = final := by
  rw [run_pure]
  simp

theorem run_setRest_bind (left : List Char) (next : Reader Value) (scan : Scan) :
    (setRest left >>= fun _ => next).run scan = next.run { scan with rest := left } :=
  run_bind_of_ok (run_setRest left scan)

end Runs

/-! ## Tame readers -/

section Tame

variable {Value Other : Type} {excess : Excess Value} {excess' : Excess Other}

/-- What text behind changes for an outcome. -/
inductive Beyond (excess : Excess Value) (alone : Outcome Value)
    (onward : List Char → Outcome Value) : Prop
  | kept {value : Value} {final : Scan} (halone : alone = .ok (value, final))
      (honward : ∀ tail, Closing tail → onward tail = .ok (value, final.followedBy tail))
  | swallowed {value : Value} {final : Scan} (halone : alone = .ok (value, final))
      (hrest : final.rest = [])
      (honward : ∀ tail, Closing tail → onward tail = .ok (value, final))
  | failed {error : SyntaxError} (halone : alone = .error error)
      (honward : ∀ tail, Closing tail → ∀ value final, onward tail = .ok (value, final) →
        excess tail value final)

/-- Nothing comes of it. -/
def Never : Excess Value := fun _ _ _ => False

/-- The closing parenthesis has been passed. -/
def Past : Excess Value := fun tail _ final => final.rest <:+ tail.tail

/-- The closing parenthesis has been reached. -/
def Reached : Excess Value := fun tail _ final => final.rest <:+ tail

/-- A reader changes little if it is followed by more text, from one scan on. -/
structure TameAt (excess : Excess Value) (scan : Scan) (alone : Reader Value)
    (onward : List Char → Reader Value) : Prop where
  shrinks : ∀ value final, alone.run scan = .ok (value, final) → final.rest <:+ scan.rest
  beyond : Beyond excess (alone.run scan) fun tail => (onward tail).run (scan.followedBy tail)

def Anywhere (_ : Scan) : Prop := True

/-- Before a certain character. -/
def Before (char : Char) (scan : Scan) : Prop := scan.rest.head? = some char

def AtEnd (scan : Scan) : Prop := scan.rest = []

def TameOn (on : Scan → Prop) (excess : Excess Value) (reader : Reader Value) : Prop :=
  ∀ scan, on scan → TameAt excess scan reader fun _ => reader

abbrev Tame (excess : Excess Value) (reader : Reader Value) : Prop :=
  TameOn Anywhere excess reader

/-- A reader never puts text back. -/
theorem Tame.shrinks {reader : Reader Value} (htame : Tame excess reader) {scan : Scan}
    {value : Value} {final : Scan} (hok : reader.run scan = .ok (value, final)) :
    final.rest <:+ scan.rest :=
  (htame scan trivial).shrinks value final hok

namespace TameAt

variable {scan : Scan} {alone : Reader Value} {onward : List Char → Reader Value}
  {next : Value → Reader Other}

theorem of_run {other : Reader Value} {scan' : Scan} {further : List Char → Reader Value}
    (hscan : scan'.rest <:+ scan.rest) (halone : alone.run scan = other.run scan')
    (honward : ∀ tail, Closing tail →
      (onward tail).run (scan.followedBy tail) = (further tail).run (scan'.followedBy tail))
    (htame : TameAt excess scan' other further) : TameAt excess scan alone onward := by
  refine ⟨fun value final hok => ?_, ?_⟩
  · exact (htame.shrinks value final (halone ▸ hok)).trans hscan
  · rw [halone]
    rcases htame.beyond with ⟨hok, hkept⟩ | ⟨hok, hrest, hkept⟩ | ⟨herror, hover⟩
    · exact .kept hok fun tail hclosing => (honward tail hclosing).trans (hkept tail hclosing)
    · exact .swallowed hok hrest fun tail hclosing =>
        (honward tail hclosing).trans (hkept tail hclosing)
    · exact .failed herror fun tail hclosing value final hfound =>
        hover tail hclosing value final ((honward tail hclosing).symm.trans hfound)

theorem congr {other : Reader Value} {further : List Char → Reader Value}
    (htame : TameAt excess scan other further) (halone : alone = other)
    (honward : ∀ tail, Closing tail → onward tail = further tail) :
    TameAt excess scan alone onward :=
  .of_run (List.suffix_refl _) (by rw [halone])
    (fun tail hclosing => by rw [honward tail hclosing]) htame

theorem of_error {error : SyntaxError} (halone : alone.run scan = .error error)
    (hover : ∀ tail, Closing tail → ∀ value final,
      (onward tail).run (scan.followedBy tail) = .ok (value, final) →
        excess tail value final) : TameAt excess scan alone onward :=
  ⟨fun value final hok => by simp [halone] at hok, .failed halone hover⟩

theorem mono {wider : Excess Value}
    (hwider : ∀ tail value final, excess tail value final → wider tail value final)
    (htame : TameAt excess scan alone onward) : TameAt wider scan alone onward := by
  refine ⟨htame.shrinks, ?_⟩
  rcases htame.beyond with ⟨hok, hkept⟩ | ⟨hok, hrest, hkept⟩ | ⟨herror, hover⟩
  · exact .kept hok hkept
  · exact .swallowed hok hrest hkept
  · exact .failed herror fun tail hclosing value final hfound =>
      hwider tail value final (hover tail hclosing value final hfound)

/-- Readers in a row, where the second one may depend on what follows if that makes
no difference at the end of the text. -/
theorem bindAt {further : List Char → Value → Reader Other}
    (hreader : TameAt excess scan alone onward)
    (hnext : ∀ value middle, alone.run scan = .ok (value, middle) →
      TameAt excess' middle (next value) fun tail => further tail value)
    (hend : ∀ value middle, alone.run scan = .ok (value, middle) → middle.rest = [] →
      ∀ tail, Closing tail → (further tail value).run middle = (next value).run middle)
    (hover : ∀ tail, Closing tail → ∀ value middle, excess tail value middle →
      ∀ other final, (further tail value).run middle = .ok (other, final) →
        excess' tail other final) :
    TameAt excess' scan (alone >>= next) fun tail => onward tail >>= further tail := by
  refine ⟨fun other final hok => ?_, ?_⟩
  · obtain ⟨value, middle, hfirst, hsecond⟩ := run_bind_eq_ok_iff.mp hok
    exact ((hnext value middle hfirst).shrinks other final hsecond).trans
      (hreader.shrinks value middle hfirst)
  rcases hreader.beyond with ⟨halone, honward⟩ | ⟨halone, hrest, honward⟩ | ⟨halone, honward⟩
  case kept value middle =>
    rw [run_bind_of_ok halone]
    rcases (hnext value middle halone).beyond with
      ⟨hok, hkept⟩ | ⟨hok, hrest, hkept⟩ | ⟨herror, hover'⟩
    · exact .kept hok fun tail hclosing =>
        (run_bind_of_ok (honward tail hclosing)).trans (hkept tail hclosing)
    · exact .swallowed hok hrest fun tail hclosing =>
        (run_bind_of_ok (honward tail hclosing)).trans (hkept tail hclosing)
    · exact .failed herror fun tail hclosing other final hfound =>
        hover' tail hclosing other final
          ((run_bind_of_ok (honward tail hclosing)).symm.trans hfound)
  case swallowed value middle =>
    have hsame : ∀ tail, Closing tail → (onward tail >>= further tail).run
        (scan.followedBy tail) = (next value).run middle := fun tail hclosing =>
      (run_bind_of_ok (honward tail hclosing)).trans
        (hend value middle halone hrest tail hclosing)
    rw [run_bind_of_ok halone]
    cases hsecond : (next value).run middle with
    | error error =>
        refine .failed rfl fun tail hclosing other final hfound => ?_
        rw [hsame tail hclosing, hsecond] at hfound
        cases hfound
    | ok found =>
        have hshrinks := (hnext value middle halone).shrinks found.1 found.2 hsecond
        rw [hrest] at hshrinks
        exact .swallowed rfl (List.suffix_nil.mp hshrinks) fun tail hclosing =>
          (hsame tail hclosing).trans hsecond
  case failed =>
    refine .failed (run_bind_of_error halone) fun tail hclosing other final hfound => ?_
    obtain ⟨value, middle, hfirst, hsecond⟩ := run_bind_eq_ok_iff.mp hfound
    exact hover tail hclosing value middle (honward tail hclosing _ _ hfirst) other final hsecond

theorem bind (hreader : TameAt excess scan alone onward)
    (hnext : ∀ value, Tame excess' (next value))
    (hover : ∀ tail, Closing tail → ∀ value middle, excess tail value middle →
      ∀ other final, (next value).run middle = .ok (other, final) →
        excess' tail other final) :
    TameAt excess' scan (alone >>= next) fun tail => onward tail >>= next :=
  hreader.bindAt (fun value middle _ => hnext value middle trivial)
    (fun _ _ _ _ _ _ => rfl) hover

/-- A reader that never passes the parenthesis by mistake can be put in front. -/
theorem bindNever (hreader : TameAt Never scan alone onward)
    (hnext : ∀ value, Tame excess' (next value)) :
    TameAt excess' scan (alone >>= next) fun tail => onward tail >>= next :=
  hreader.bind hnext fun _ _ _ _ hnever => hnever.elim

theorem bindPast (hreader : TameAt Past scan alone onward)
    (hnext : ∀ value, Tame Past (next value)) :
    TameAt Past scan (alone >>= next) fun tail => onward tail >>= next :=
  hreader.bind hnext fun _ _ _ _ hpast _ _ hok => ((hnext _).shrinks hok).trans hpast

end TameAt

namespace TameOn

variable {on : Scan → Prop} {reader : Reader Value} {next : Value → Reader Other}

theorem mono {wider : Excess Value}
    (hwider : ∀ tail value final, excess tail value final → wider tail value final)
    (htame : TameOn on excess reader) : TameOn on wider reader :=
  fun scan hon => (htame scan hon).mono hwider

theorem only (htame : Tame excess reader) : TameOn on excess reader :=
  fun scan _ => htame scan trivial

theorem reached (htame : TameOn on Past reader) : TameOn on Reached reader :=
  htame.mono fun _ _ _ hpast => hpast.trans (List.tail_suffix _)

theorem bindNever (hreader : TameOn on Never reader)
    (hnext : ∀ value, Tame excess' (next value)) : TameOn on excess' (reader >>= next) :=
  fun scan hon => (hreader scan hon).bindNever hnext

end TameOn

/-! ## Single steps -/

theorem tame_pure (value : Value) : Tame excess (pure value : Reader Value) := fun scan _ => by
  refine ⟨fun other final hok => ?_, .kept (run_pure value scan) fun _ _ => rfl⟩
  obtain ⟨-, rfl⟩ := run_pure_eq_ok_iff.mp hok
  exact List.suffix_refl _

theorem tame_throw (error : SyntaxError) : Tame excess (throw error : Reader Value) :=
  fun _ _ => .of_error rfl fun _ _ _ _ hok => by cases hok

theorem tame_lift (attempt : Except SyntaxError Value) :
    Tame excess (liftM attempt : Reader Value) := by
  cases attempt with
  | ok value => exact tame_pure value
  | error error => exact tame_throw error

theorem tameAt_setRest {next : Reader Value} (hnext : Tame excess next) {scan : Scan}
    {left : List Char} (hleft : left <:+ scan.rest) :
    TameAt excess scan (setRest left >>= fun _ => next)
      fun tail => setRest (left ++ tail) >>= fun _ => next :=
  .of_run hleft (run_setRest_bind left next scan) (fun _ _ => run_setRest_bind _ next _)
    (hnext { scan with rest := left } trivial)

/-- A reader that looks at the next character first. -/
theorem tame_bind_peek {next : Option Char → Reader Value}
    (hsome : ∀ char, TameOn (Before char) excess (next (some char)))
    (hnone : ∀ scan, AtEnd scan → TameAt excess scan (next none) fun _ => next (some ')')) :
    Tame excess (peek >>= next) := fun scan _ => by
  have hpeek : ∀ scan, (peek >>= next).run scan = (next scan.rest.head?).run scan :=
    fun scan => run_bind_of_ok (run_peek scan)
  cases hrest : scan.rest with
  | nil =>
      refine .of_run (List.suffix_refl _) ?_ (fun tail hclosing => ?_) (hnone scan hrest)
      · rw [hpeek, hrest]
        rfl
      · rw [hpeek, Scan.followedBy_rest, hrest, List.nil_append, hclosing.head]
  | cons char rest =>
      have hbefore : Before char scan := by simp [Before, hrest]
      refine .of_run (List.suffix_refl _) ?_ (fun tail _ => ?_) (hsome char scan hbefore)
      · rw [hpeek, hbefore]
      · rw [hpeek, Scan.followedBy_rest, hrest]
        rfl

/-- A reader that depends on all there is. -/
theorem tameOn_bind_get {on : Scan → Prop} {next : Scan → Reader Value}
    (hnext : ∀ scan, on scan →
      TameAt excess scan (next scan) fun tail => next (scan.followedBy tail)) :
    TameOn on excess (get >>= next) := fun scan hon =>
  .of_run (List.suffix_refl _) (run_bind_of_ok (run_get scan))
    (fun _ _ => run_bind_of_ok (run_get _)) (hnext scan hon)

/-- A reader that depends on the flags. -/
theorem tameOn_bind_flags {on : Scan → Prop} (next : Flags → Reader Value)
    (hnext : ∀ flags, TameOn on excess (next flags)) :
    TameOn on excess (get >>= fun scan => next scan.flags) :=
  tameOn_bind_get fun scan hon => hnext scan.flags scan hon

/-- A reader that depends on the text. -/
theorem tameOn_bind_rest {on : Scan → Prop} {next : List Char → Reader Value}
    (hnext : ∀ scan, on scan →
      TameAt excess scan (next scan.rest) fun tail => next (scan.rest ++ tail)) :
    TameOn on excess (rest >>= next) := fun scan hon =>
  .of_run (List.suffix_refl _) (run_bind_of_ok (run_rest scan))
    (fun _ _ => run_bind_of_ok (run_rest _)) (hnext scan hon)

end Tame

/-! ## Space -/

theorem dropSpace_comment {text : List Char} (hline : '\n' ∉ text) :
    dropSpace true text = [] := by
  induction text with
  | nil => rfl
  | cons char text ih =>
      obtain ⟨hchar, hmore⟩ : '\n' ≠ char ∧ '\n' ∉ text := by simpa using hline
      simp [dropSpace, Ne.symm hchar, ih hmore]

theorem dropSpace_append (comment : Bool) (text : List Char) :
    (∀ tail, Closing tail → dropSpace comment (text ++ tail) = dropSpace comment text ++ tail) ∨
      dropSpace comment text = [] ∧
        ∀ tail, Closing tail → dropSpace comment (text ++ tail) = [] := by
  induction text generalizing comment with
  | nil =>
      cases comment with
      | false =>
          left
          intro tail hclosing
          obtain ⟨more, rfl⟩ := hclosing.exists_cons
          rfl
      | true =>
          exact Or.inr ⟨rfl, fun tail hclosing =>
            dropSpace_comment (hclosing.not_mem (by decide) (by decide))⟩
  | cons char text ih =>
      cases comment with
      | true => exact ih (char ≠ '\n')
      | false =>
          by_cases hblank : Text.isBlank char = true
          · simpa [dropSpace, hblank] using ih false
          by_cases hsign : char = '#'
          · subst hsign
            simpa [dropSpace, hblank] using ih true
          · left
            intro tail _
            simp [dropSpace, hblank, hsign]

theorem dropSpace_suffix (comment : Bool) (text : List Char) :
    dropSpace comment text <:+ text := by
  induction text generalizing comment with
  | nil => cases comment <;> exact List.suffix_refl _
  | cons char text ih =>
      cases comment with
      | true => exact (ih _).trans (List.suffix_cons _ _)
      | false =>
          simp only [dropSpace]
          split
          next => exact (ih _).trans (List.suffix_cons _ _)
          next =>
            split
            next => exact (ih _).trans (List.suffix_cons _ _)
            next => exact List.suffix_refl _

theorem afterSpace_suffix (flags : Flags) (text : List Char) :
    afterSpace flags text <:+ text := by
  unfold afterSpace
  split
  · exact dropSpace_suffix _ _
  · exact List.suffix_refl _

/-- Dropping space leaves what is behind the text, or a comment goes on over it. -/
theorem afterSpace_append (flags : Flags) (text : List Char) :
    (∀ tail, Closing tail → afterSpace flags (text ++ tail) = afterSpace flags text ++ tail) ∨
      afterSpace flags text = [] ∧
        ∀ tail, Closing tail → afterSpace flags (text ++ tail) = [] := by
  unfold afterSpace
  split
  · exact dropSpace_append false text
  · exact Or.inl fun _ _ => rfl

theorem tame_skipSpace : Tame Never skipSpace := fun scan _ => by
  refine ⟨fun value final hok => ?_, ?_⟩
  · obtain rfl : _ = final := by simpa using (run_skipSpace scan).symm.trans hok
    exact afterSpace_suffix _ _
  rcases afterSpace_append scan.flags scan.rest with hsame | ⟨hempty, hswallowed⟩
  · refine .kept (run_skipSpace scan) fun tail hclosing => ?_
    rw [run_skipSpace]
    simp [Scan.followedBy, hsame tail hclosing]
  · refine .swallowed (run_skipSpace scan) hempty fun tail hclosing => ?_
    rw [run_skipSpace]
    simp [Scan.followedBy, hempty, hswallowed tail hclosing]

/-! ## Readers that take a character -/

/-- A reader that takes a character at least and is tame before one. -/
structure Takes {Value : Type} (excess : Excess Value) (reader : Reader Value) : Prop where
  consumes : ∀ {scan value final}, reader.run scan = .ok (value, final) →
    final.rest <:+ scan.rest.tail
  tame : ∀ char, TameOn (Before char) excess reader

namespace Takes

variable {Value Other : Type} {excess : Excess Value} {excess' : Excess Other}
  {reader : Reader Value} {next : Value → Reader Other}

theorem mono {wider : Excess Value}
    (hwider : ∀ tail value final, excess tail value final → wider tail value final)
    (htakes : Takes excess reader) : Takes wider reader :=
  ⟨htakes.consumes, fun char => (htakes.tame char).mono hwider⟩

theorem bind (hreader : Takes excess reader) (hnext : ∀ value, Tame excess' (next value))
    (hover : ∀ tail, Closing tail → ∀ value middle, excess tail value middle →
      ∀ other final, (next value).run middle = .ok (other, final) →
        excess' tail other final) :
    Takes excess' (reader >>= next) where
  consumes hok := by
    obtain ⟨value, middle, hfirst, hsecond⟩ := run_bind_eq_ok_iff.mp hok
    exact ((hnext value).shrinks hsecond).trans (hreader.consumes hfirst)
  tame char scan hbefore := (hreader.tame char scan hbefore).bind hnext hover

theorem bindNever (hreader : Takes Never reader) (hnext : ∀ value, Tame excess' (next value)) :
    Takes excess' (reader >>= next) :=
  hreader.bind hnext fun _ _ _ _ hnever => hnever.elim

end Takes

theorem takes_throw {Value : Type} {excess : Excess Value} (error : SyntaxError) :
    Takes excess (throw error : Reader Value) :=
  ⟨fun hok => (by cases hok), fun _ => (tame_throw error).only⟩

/-- A reader that needs a character takes the parenthesis where a pattern ends. -/
theorem tame_bind_peek_of_takes {Value : Type} {excess : Excess Value}
    {next : Option Char → Reader Value} {error : SyntaxError}
    (hsome : ∀ char, Takes excess (next (some char))) (hnone : next none = throw error)
    (hpast : ∀ tail value final, Past tail value final → excess tail value final) :
    Tame excess (peek >>= next) := by
  refine tame_bind_peek (fun char => (hsome char).tame char) fun scan hend => ?_
  rw [hnone]
  refine .of_error rfl fun tail hclosing value final hok => hpast _ _ _ ?_
  simpa [Past, AtEnd.eq_1, show scan.rest = [] from hend] using (hsome ')').consumes hok

theorem consumes_bind_peek {Value : Type} {excess : Excess Value}
    {next : Option Char → Reader Value} {error : SyntaxError}
    (hsome : ∀ char, Takes excess (next (some char))) (hnone : next none = throw error)
    {scan final : Scan} {value : Value} (hok : (peek >>= next).run scan = .ok (value, final)) :
    final.rest <:+ scan.rest.tail := by
  rw [run_bind_of_ok (run_peek scan)] at hok
  cases hhead : scan.rest.head? with
  | none =>
      rw [hhead, hnone] at hok
      cases hok
  | some char =>
      rw [hhead] at hok
      exact (hsome char).consumes hok

theorem takes_advance : Takes Never advance where
  consumes {scan value final} hok := by
    obtain rfl : _ = final := by simpa using (run_advance scan).symm.trans hok
    exact List.suffix_refl _
  tame char scan hbefore := by
    obtain ⟨rest, hrest⟩ := List.head?_eq_some_iff.mp hbefore
    refine ⟨fun value final hok => ?_, .kept (run_advance scan) fun tail _ => ?_⟩
    · obtain rfl : _ = final := by simpa using (run_advance scan).symm.trans hok
      exact List.tail_suffix _
    · rw [run_advance]
      simp [Scan.followedBy, hrest]

theorem takes_step : Takes Never step := takes_advance.bindNever fun _ => tame_skipSpace

end EdgeGateway.Regex
