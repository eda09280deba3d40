import RowFilter.Proofs.Cast.Lists
import RowFilter.Proofs.Filter.Negation
import RowFilter.Proofs.Filter.Typing
import RowFilter.Proofs.Filter.Union
import RowFilter.Proofs.Literal.ExactNumbers

/-!
# Filters on floating-point numbers

The word `nan` is read as a floating-point number, and that number has no order, not even with
itself. A filter that names it is accepted like any other, and evaluating it fails on every record
whose field has a value, unless the value is found in a list before the word is reached. Nothing else
that is accepted for a floating-point field makes the evaluation fail.
-/

namespace RowFilter

/-! ## The word for not-a-number -/

namespace Number.BinaryFloat

variable {f : Format} {cs : List Char}

/-- Whether a text is the word for not-a-number, in any case and with a sign or without. -/
def WritesNaN (cs : List Char) : Prop := (takeSign cs).2.map Char.toLower = ['n', 'a', 'n']

instance (cs : List Char) : Decidable (WritesNaN cs) :=
  inferInstanceAs (Decidable ((takeSign cs).2.map Char.toLower = ['n', 'a', 'n']))

theorem toBinary_ne_nan (f : Format) (x : Scientific) : x.toBinary f ≠ nan := by
  unfold Scientific.toBinary
  dsimp only
  split
  · exact nofun
  · split
    · exact nofun
    · unfold ofRatio
      dsimp only
      split <;> exact nofun

theorem eq_of_toLower {c : Char} (h : c.toLower = 'n') : c = 'n' ∨ c = 'N' := by
  unfold Char.toLower at h
  split at h
  · have hval : c.val + 32 = 110 := congrArg Char.val h
    exact .inr (Char.ext ((UInt32.add_left_inj 32).1 hval))
  · exact .inl h

/-- The word has neither digits nor a point, so it is no decimal notation. -/
theorem read?_of_writesNaN (h : WritesNaN cs) : Scientific.read? cs = none := by
  unfold WritesNaN at h
  unfold Scientific.read?
  dsimp only
  generalize (takeSign cs).2 = body at h
  cases body with
  | nil => cases h
  | cons c rest => rcases eq_of_toLower (List.cons.inj h).1 with rfl | rfl <;> rfl

theorem readWord?_eq_nan : readWord? cs = some .nan ↔ WritesNaN cs := by
  have hword : WritesNaN cs ↔ String.ofList ((takeSign cs).2.map Char.toLower) = "nan" := by
    rw [← String.toList_inj, String.toList_ofList]
    rfl
  unfold readWord?
  dsimp only
  rw [hword]
  generalize String.ofList ((takeSign cs).2.map Char.toLower) = word
  constructor
  · intro h
    split at h
    · cases h
    · split at h
      · assumption
      · cases h
  · rintro rfl
    rw [if_neg (by decide), if_pos rfl]

/-- Only the word for not-a-number is read as not-a-number. -/
theorem read?_eq_nan : read? f cs = some .nan ↔ WritesNaN cs := by
  unfold read?
  constructor
  · intro h
    split at h
    · exact absurd (Option.some.inj h) (toBinary_ne_nan f _)
    · exact readWord?_eq_nan.1 h
  · intro h
    rw [read?_of_writesNaN h]
    exact readWord?_eq_nan.2 h

end Number.BinaryFloat

namespace Json

/-- The text that a scalar is cast by. -/
def scalarText? : Json → Option String
  | str s => some s
  | num n => some n.text
  | bool b => some (if b then "true" else "false")
  | null | arr _ | obj _ => none

/-- Whether the text of a scalar is the word for not-a-number between blanks. -/
def SaysNaN (value : Json) : Prop :=
  ∃ raw, value.scalarText? = some raw ∧
    Number.BinaryFloat.WritesNaN (Text.trimChars raw.toList)

end Json

/-! ## First items -/

section

variable {α β : Type} {p q : α → Prop} {p' q' : β → Prop} {r : α → β → Prop} {a : α} {as : List α}
  {bs : List β}

/-- Whether an item of one kind comes up in a list before any that is not of another kind. -/
def ComesUp (p q : α → Prop) (as : List α) : Prop :=
  ∃ before a after, as = before ++ a :: after ∧ p a ∧ ∀ other ∈ before, q other

theorem not_comesUp_nil : ¬ ComesUp p q [] := by
  rintro ⟨before, a, after, h, -⟩
  exact List.append_ne_nil_of_right_ne_nil _ (List.cons_ne_nil _ _) h.symm

theorem comesUp_cons : ComesUp p q (a :: as) ↔ p a ∨ q a ∧ ComesUp p q as := by
  constructor
  · rintro ⟨before, found, after, h, hp, hq⟩
    cases before with
    | nil =>
      cases h
      exact .inl hp
    | cons first before =>
      cases h
      obtain ⟨hfirst, hbefore⟩ := List.forall_mem_cons.1 hq
      exact .inr ⟨hfirst, before, found, after, rfl, hp, hbefore⟩
  · rintro (hp | ⟨hq, before, found, after, rfl, hp, hbefore⟩)
    · exact ⟨[], a, as, rfl, hp, List.forall_mem_nil _⟩
    · exact ⟨a :: before, found, after, rfl, hp, List.forall_mem_cons.2 ⟨hq, hbefore⟩⟩

theorem comesUp_congr (h : List.Forall₂ r as bs) (hp : ∀ a b, r a b → (p a ↔ p' b))
    (hq : ∀ a b, r a b → (q a ↔ q' b)) : ComesUp p q as ↔ ComesUp p' q' bs := by
  induction h with
  | nil => exact iff_of_false not_comesUp_nil not_comesUp_nil
  | cons hab _ ih => rw [comesUp_cons, comesUp_cons, hp _ _ hab, hq _ _ hab, ih]

end

/-! ## Comparisons without an order -/

/-- Whether two literals are there and have no order. -/
def Literal.Clashes (v l : Literal) : Prop :=
  v.isNull = false ∧ l.isNull = false ∧ v.collate l = none

/-- Whether evaluating a predicate fails for want of an order under some condition, and gives a truth
value otherwise. -/
structure Predicate.FailsIff {R : Type} [Filterable R] (b : Binding R) (p : Predicate)
    (condition : Prop) : Prop where
  fails : condition → ∃ left right, p.evaluate b = .error (.typeMismatch left right)
  evaluates : ¬ condition → p.Evaluates b

namespace Predicate

variable {R : Type} [Filterable R] {b : Binding R} {p : Predicate} {condition other : Prop}
  {expr : Expr} {operator : Comparison} {v l low high : Literal} {ls : List Literal}

theorem FailsIff.congr (h : p.FailsIff b condition) (hiff : condition ↔ other) :
    p.FailsIff b other :=
  ⟨fun hother => h.fails (hiff.2 hother), fun hother => h.evaluates (mt hiff.1 hother)⟩

theorem Evaluates.failsIff (h : p.Evaluates b) (hnot : ¬ condition) : p.FailsIff b condition :=
  ⟨fun hcondition => absurd hcondition hnot, fun _ => h⟩

theorem FailsIff.not (h : p.FailsIff b condition) : p.not.FailsIff b condition := by
  refine ⟨fun hcondition => ?_, fun hcondition => (h.evaluates hcondition).not⟩
  obtain ⟨left, right, herror⟩ := h.fails hcondition
  exact ⟨left, right, by rw [evaluate, herror]; rfl⟩

theorem failsIff_compare (hoperator : operator ≠ .isIn) (hexpr : expr.evaluate b = .ok v) :
    (compare expr operator (.literal l)).FailsIff b (v.Clashes l) := by
  unfold Literal.Clashes
  constructor
  · rintro ⟨hv, hl, hcollate⟩
    refine ⟨v.display, l.display, ?_⟩
    rw [evaluate_compare hoperator, hexpr, Expr.evaluate_literal]
    simp [bind, Except.bind, hv, hl, collateOrMismatch, hcollate]
  · intro hclash
    unfold Evaluates
    rw [evaluate_compare hoperator, hexpr, Expr.evaluate_literal]
    cases hnull : v.isNull || l.isNull with
    | true => exact ⟨none, if_pos hnull⟩
    | false =>
      rw [Bool.or_eq_false_iff] at hnull
      cases hcollate : v.collate l with
      | none => exact absurd ⟨hnull.1, hnull.2, hcollate⟩ hclash
      | some o =>
        refine ⟨some (operator.holds o), ?_⟩
        simp [bind, Except.bind, hnull, collateOrMismatch, hcollate]

/-- A value and two ends that are there are compared with each other. -/
theorem failsIff_between (hexpr : expr.evaluate b = .ok v) (hlow : low.isNull = .false)
    (hhigh : high.isNull = .false) :
    (between expr (.literal low) (.literal high)).FailsIff b (v.Clashes low ∨ v.Clashes high) := by
  have heval : (between expr (.literal low) (.literal high)).evaluate b = isBetween v low high := by
    rw [evaluate, hexpr, Expr.evaluate_literal, Expr.evaluate_literal]
    rfl
  have hrange : v.inRange? (.included low) (.included high) = none ↔
      v.collate low = none ∨ v.collate high = none := by
    rw [Literal.inRange?, RangeBound.admitsAbove, RangeBound.admitsBelow]
    cases v.collate low <;> cases v.collate high <;> simp
  simp only [Literal.Clashes, hlow, hhigh, true_and, ← and_or_left, ← hrange]
  constructor
  · rintro ⟨hv, hnone⟩
    refine ⟨v.display, low.display ++ " AND " ++ high.display, ?_⟩
    rw [heval, isBetween, hv, hlow, hhigh, hnone]
    rfl
  · intro hsome
    unfold Evaluates
    rw [heval, isBetween, hlow, hhigh]
    cases hv : v.isNull with
    | true => exact ⟨none, rfl⟩
    | false =>
      obtain ⟨inside, hinside⟩ := Option.ne_none_iff_exists'.1 fun hnone => hsome ⟨hv, hnone⟩
      exact ⟨some inside, by rw [hinside]; rfl⟩

/-- What a candidate leaves to those behind it. -/
theorem isMember_literal {candidates : List Expr} :
    isMember b v (.literal l :: candidates) =
      if l.isNull then do
        let others ← isMember b v candidates
        .ok (if others = some .true then some .true else none)
      else
        match v.collate l with
        | none => .error (.typeMismatch v.display l.display)
        | some .eq => .ok (some .true)
        | some _ => isMember b v candidates := by
  rw [isMember, Expr.evaluate_literal]
  change (if l.isNull then _ else collateOrMismatch v l >>= _) = _
  unfold collateOrMismatch
  rcases v.collate l with _ | _ | _ | _ <;> rfl

variable (b ls) in
/-- A search among candidates fails at the first that has no order with the value, unless it finds
the value before. -/
theorem isMember_fails_iff (hv : v.isNull = .false) :
    (ComesUp v.Clashes (fun other => v.collate other ≠ some .eq) ls →
      ∃ left right, isMember b v (ls.map .literal) = .error (.typeMismatch left right)) ∧
    (¬ ComesUp v.Clashes (fun other => v.collate other ≠ some .eq) ls →
      ∃ t, isMember b v (ls.map .literal) = .ok t) := by
  induction ls with
  | nil => exact ⟨fun h => absurd h not_comesUp_nil, fun _ => ⟨_, rfl⟩⟩
  | cons l rest ih =>
    rw [comesUp_cons, List.map_cons, isMember_literal, Literal.Clashes]
    cases hl : l.isNull with
    | true =>
      -- an absent candidate is passed over
      obtain ⟨hfails, hevaluates⟩ := ih
      simp only [Literal.collate_eq_none (.inr hl), reduceCtorEq, false_and, and_false, false_or,
        ne_eq, not_false_eq_true, true_and, if_true]
      constructor
      · intro h
        obtain ⟨left, right, herror⟩ := hfails h
        exact ⟨left, right, by rw [herror]; rfl⟩
      · intro h
        obtain ⟨t, ht⟩ := hevaluates h
        exact ⟨_, by rw [ht]; rfl⟩
    | false =>
      cases hcollate : v.collate l with
      | none => exact ⟨fun _ => ⟨_, _, rfl⟩, fun h => absurd (.inl ⟨hv, rfl, rfl⟩) h⟩
      | some o =>
        cases o with
        | eq => simp
        | lt | gt => simpa using ih

theorem failsIff_isIn (hexpr : expr.evaluate b = .ok v) :
    (compare expr .isIn (.list (ls.map .literal))).FailsIff b
      (ComesUp v.Clashes (fun other => v.collate other ≠ some .eq) ls) := by
  have heval : (compare expr .isIn (.list (ls.map .literal))).evaluate b =
      if v.isNull then .ok none else isMember b v (ls.map .literal) := by
    rw [evaluate, hexpr]
    rfl
  cases hv : v.isNull with
  | true =>
    refine Evaluates.failsIff ⟨none, heval.trans (if_pos hv)⟩ ?_
    rintro ⟨_, _, _, _, hclash, _⟩
    exact Bool.false_ne_true (hclash.1.symm.trans hv)
  | false =>
    have hmember := heval.trans (if_neg (Bool.eq_false_iff.1 hv))
    obtain ⟨hfails, hevaluates⟩ := isMember_fails_iff b ls hv
    refine ⟨fun h => ?_, fun h => ?_⟩
    · rw [hmember]
      exact hfails h
    · obtain ⟨t, ht⟩ := hevaluates h
      exact ⟨t, hmember.trans ht⟩

/-- Without joins, a record on which the predicate fails makes the whole test fail. -/
theorem FailsIff.passes {record : R} (h : p.FailsIff (Binding.root record) condition) :
    (condition → ∃ left right, p.passes record [] = .error (.typeMismatch left right)) ∧
      (¬ condition → ∃ selected, p.passes record [] = .ok selected) := by
  constructor
  · intro hcondition
    obtain ⟨left, right, herror⟩ := h.fails hcondition
    refine ⟨left, right, ?_⟩
    change p.isTrueUnderSome [Binding.root record] = _
    rw [isTrueUnderSome, herror]
    rfl
  · intro hcondition
    obtain ⟨t, ht⟩ := h.evaluates hcondition
    exact ⟨_, passes_alone.2 ⟨t, ht, rfl⟩⟩

end Predicate

/-! ## Floating-point columns -/

namespace Casters

variable {casters : Casters} {zone : Civil.LocalZone} {type : ScalarType} {value : Json}
  {raw : String} {l : Literal}

theorem castValue_of_scalarText (h : value.scalarText? = some raw) :
    casters.castValue zone type value = casters.castText zone type raw := by
  cases value <;> cases h <;> rfl

theorem float_of_castText (htype : type = .f32 ∨ type = .f64)
    (h : builtIn.castText zone type raw = .ok l) :
    ∃ x, Numeric.ofLiteral? l = some (.float x) ∧
      (x = .nan ↔ Number.BinaryFloat.WritesNaN (Text.trimChars raw.toList)) := by
  have hread : ∀ f x, Cast.orInvalid type raw
      (Number.BinaryFloat.read? f (Text.trimChars raw.toList)) = .ok x →
      (x = .nan ↔ Number.BinaryFloat.WritesNaN (Text.trimChars raw.toList)) := by
    intro f x hx
    rw [← Number.BinaryFloat.read?_eq_nan (f := f)]
    unfold Cast.orInvalid at hx
    split at hx
    · next found hfound =>
      cases hx
      rw [hfound, Option.some.injEq]
    · cases hx
  obtain ⟨found, hfound, h⟩ := bind_eq_ok.1 h
  cases h
  have hother : type.kind ≠ .other := by rcases htype with rfl | rfl <;> exact nofun
  rw [cast, if_pos (isRegistered_builtIn hother)] at hfound
  rcases htype with rfl | rfl
  all_goals
    obtain ⟨x, hx, hfound⟩ := bind_eq_ok.1 hfound
    cases hfound
    exact ⟨x, rfl, hread _ x hx⟩

end Casters

/-- Whether what a condition compares a value with is the word for not-a-number. In a list, the word
matters as far as the value is not found before it. -/
def Condition.MeetsNaN (c : FilterContext) (type : ScalarType) (v : Literal) : Condition → Prop
  | equals value => value.SaysNaN
  | isIn values =>
    ComesUp Json.SaysNaN (fun other => ∀ l, c.literal type other = .ok l → v.collate l ≠ some .eq)
      (Json.leavesOfItems values)
  | range bounds _ => ∃ bound ∈ bounds.ends, bound.2.SaysNaN
  | like _ | joined _ => False

/-- The bounds of a range are there. -/
theorem Bounds.present_of_ofEnds? {low high : Json} {bounds : Bounds Json}
    (h : ofEnds? low high = some bounds) : ∀ bound ∈ bounds.ends, bound.2.isNull = false := by
  unfold ofEnds? at h
  split at h <;> cases h <;> simp_all [ends, low?, high?]

theorem Condition.present_of_range {declared : DeclaredType} {field : String} {value : Json}
    {bounds : Bounds Json} {flags : List ControlFlag}
    (h : ofValue declared field value = .ok (.range bounds flags)) :
    ∀ bound ∈ bounds.ends, bound.2.isNull = false := by
  obtain ⟨written, hwritten, hrange⟩ := ofValue_ok h
  have hwritten' : written = .range bounds flags := by
    split at hrange
    · cases written <;> cases hrange
      rfl
    · exact hrange.symm
  subst hwritten'
  cases value with
  | obj fields =>
    rw [ofWritten] at hwritten
    split at hwritten
    · obtain ⟨bounds', flags', hbounds, -, heq⟩ := ofRange_ok hwritten
      cases heq
      exact Bounds.present_of_ofEnds? hbounds
    · have hjoined := Except.ok.inj hwritten
      split at hjoined <;> cases hjoined
  | str s =>
    rw [ofWritten] at hwritten
    split at hwritten <;> cases hwritten
  | null | bool | num | arr => cases hwritten

/-- Whether a literal is what a record can hold in a floating-point field: nothing, or a number of
the type of the field other than not-a-number. -/
structure Literal.IsOrderedFloat (type : ScalarType) (v : Literal) : Prop where
  fits : v.Fits type.kind
  ordered : Numeric.ofLiteral? v ≠ some (.float .nan)

namespace FilterContext

variable {R : Type} [Filterable R] {b : Binding R} {c : FilterContext} {schema : FieldSchema}
  {combinator : Combinator} {type : ScalarType} {path : Path} {condition : Condition}
  {p : Predicate} {value : Json} {v l : Literal} {key notKey : String} {filter : FilterMap}
  {compiled : Compiled}

/-- What a value is cast to for a floating-point field is a number, unless there is no value. -/
theorem float_of_literal (hcasters : c.casters = .builtIn) (htype : type = .f32 ∨ type = .f64)
    (hl : c.literal type value = .ok l) :
    value = .null ∧ l = .null ∨
      ∃ x, Numeric.ofLiteral? l = some (.float x) ∧ (x = .nan ↔ value.SaysNaN) := by
  obtain ⟨found, hfound, rfl⟩ := literal_eq_ok.1 hl
  have htext : ¬ type.isText = true := by rcases htype with rfl | rfl <;> exact Bool.false_ne_true
  rw [if_neg htext]
  rw [hcasters] at hfound
  cases hraw : value.scalarText? with
  | none =>
    cases value with
    | null =>
      cases hfound
      exact .inl ⟨rfl, rfl⟩
    | arr | obj => cases hfound
    | bool | num | str => cases hraw
  | some raw =>
    rw [Casters.castValue_of_scalarText hraw] at hfound
    obtain ⟨x, hx, hnan⟩ := Casters.float_of_castText htype hfound
    refine .inr ⟨x, hx, hnan.trans ?_⟩
    simp [Json.SaysNaN, hraw]

/-- A value of a floating-point field has no order with the word for not-a-number only. -/
theorem clashes_iff (hcasters : c.casters = .builtIn) (htype : type = .f32 ∨ type = .f64)
    (hv : v.IsOrderedFloat type) (hl : c.literal type value = .ok l) :
    v.Clashes l ↔ v.isNull = false ∧ value.SaysNaN := by
  refine and_congr_right fun hpresent => ?_
  rcases float_of_literal hcasters htype hl with ⟨rfl, rfl⟩ | ⟨y, hy, hnan⟩
  · simp [Literal.isNull, Json.SaysNaN, Json.scalarText?]
  · obtain ⟨x, hx⟩ : ∃ x, Numeric.ofLiteral? v = some (.float x) := by
      have hkind := hv.fits.kind_of_not_null hpresent
      rcases htype with rfl | rfl <;> cases v <;> cases hkind <;> exact ⟨_, rfl⟩
    have hne : x ≠ .nan := by
      rintro rfl
      exact hv.ordered hx
    have hlpresent : l.isNull = false := by
      cases l <;> first | rfl | cases hy
    have hcollate : v.collate l = x.compare? y := Literal.collate_of_numbers hx hy
    rw [hcollate, Number.BinaryFloat.compare?_eq_none, ← hnan]
    simp [hlpresent, hne]

/-- A search among the members of a list meets the word where the value is not found before it. -/
theorem comesUp_clash_iff {values : List Json} {ls : List Literal} (hcasters : c.casters = .builtIn)
    (htype : type = .f32 ∨ type = .f64) (hv : v.IsOrderedFloat type)
    (hls : c.candidates type values = .ok ls) :
    ComesUp v.Clashes (fun other => v.collate other ≠ some .eq) ls ↔
      v.isNull = false ∧ (Condition.isIn values).MeetsNaN c type v := by
  have hleaf : ∀ value,
      c.casters.castLeaf c.zone type value = c.casters.castValue c.zone type value := by
    intro value
    rw [hcasters, Casters.castLeaf_builtIn]
  cases hpresent : v.isNull with
  | true =>
    refine iff_of_false ?_ (fun h => Bool.false_ne_true h.1.symm)
    rintro ⟨_, _, _, _, hclash, _⟩
    exact Bool.false_ne_true (hclash.1.symm.trans hpresent)
  | false =>
    rw [eq_self_iff_true, true_and]
    refine (comesUp_congr ((candidates_eq_ok hleaf).1 hls) ?_ ?_).symm
    · intro leaf l hl
      rw [clashes_iff hcasters htype hv hl, hpresent]
      exact (and_iff_right rfl).symm
    · intro leaf l hl
      rw [hl]
      exact ⟨fun h => h l rfl, fun h l' hl' => Except.ok.inj hl' ▸ h⟩

/-- A range of floating-point numbers meets the word where a bound is the word. -/
theorem boundsPredicate_failsIff {bounds : Bounds Json} {ends : Bounds Literal}
    (hcasters : c.casters = .builtIn) (htype : type = .f32 ∨ type = .f64)
    (hbounds : ∀ bound ∈ bounds.ends, bound.2.isNull = false)
    (hends : bounds.convert (c.literal type) = .ok ends)
    (hpath : (Expr.path path).evaluate b = .ok v) (hv : v.IsOrderedFloat type) :
    (boundsPredicate (.path path) ends).FailsIff b
      (v.isNull = false ∧ ∃ bound ∈ bounds.ends, bound.2.SaysNaN) := by
  have hclash : ∀ {value l}, c.literal type value = .ok l →
      (v.Clashes l ↔ v.isNull = false ∧ value.SaysNaN) := clashes_iff hcasters htype hv
  cases bounds with
  | between low high =>
    simp only [Bounds.ends, Bounds.low?, Bounds.high?, Option.map_some, Option.toList_some,
      List.cons_append, List.nil_append, List.forall_mem_cons, List.exists_mem_cons_iff,
      List.not_mem_nil, false_and, exists_false, or_false] at hbounds ⊢
    obtain ⟨l, hl, hends⟩ := bind_eq_ok.1 hends
    obtain ⟨h, hh, hends⟩ := bind_eq_ok.1 hends
    cases hends
    have hpresent : ∀ {value l}, value.isNull = false → c.literal type value = .ok l →
        l.isNull = false := by
      intro value l hvalue hl
      rcases float_of_literal hcasters htype hl with ⟨rfl, -⟩ | ⟨x, hx, -⟩
      · cases hvalue
      · cases l <;> first | rfl | cases hx
    refine (Predicate.failsIff_between hpath (hpresent hbounds.1 hl)
      (hpresent hbounds.2.1 hh)).congr ?_
    rw [hclash hl, hclash hh, and_or_left]
  | atLeast low | atMost high =>
    simp only [Bounds.ends, Bounds.low?, Bounds.high?, Option.map_some, Option.toList_some,
      Option.map_none, Option.toList_none, List.append_nil, List.nil_append, List.exists_mem_cons_iff,
      List.not_mem_nil, false_and, exists_false, or_false]
    obtain ⟨l, hl, hends⟩ := bind_eq_ok.1 hends
    cases hends
    exact (Predicate.failsIff_compare (by decide) hpath).congr (hclash hl)

/-- A condition on a floating-point column fails on the values that meet the word for not-a-number,
and has a truth value on all others. -/
theorem ValueOutcome.failsIff_of_float (h : ValueOutcome c type path condition p)
    (hsuits : FilterNode.suits type condition = true) (hcasters : c.casters = .builtIn)
    (htype : type = .f32 ∨ type = .f64)
    (hbounds : ∀ bounds flags, condition = .range bounds flags →
      ∀ bound ∈ bounds.ends, bound.2.isNull = false)
    (hpath : (Expr.path path).evaluate b = .ok v) (hv : v.IsOrderedFloat type) :
    p.FailsIff b (v.isNull = false ∧ condition.MeetsNaN c type v) := by
  have hcolumn : column type path = .path path := by rcases htype with rfl | rfl <;> rfl
  cases h with
  | absent =>
    refine Predicate.Evaluates.failsIff ⟨some v.isNull, ?_⟩ ?_
    · rw [Predicate.evaluate, hpath]
      rfl
    · rintro ⟨-, raw, hraw, -⟩
      cases hraw
  | equals hpresent hl =>
    rw [hcolumn]
    exact (Predicate.failsIff_compare (by decide) hpath).congr (clashes_iff hcasters htype hv hl)
  | like pattern =>
    rcases htype with rfl | rfl <;> cases hsuits
  | isIn hls =>
    rw [hcolumn]
    exact (Predicate.failsIff_isIn hpath).congr (comesUp_clash_iff hcasters htype hv hls)
  | @range bounds flags ends hends =>
    -- there is no time of day in a number
    have htimes : flags.contains .timeOfDay = false := by
      have hflags := (Bool.and_eq_true_iff.1 hsuits).2
      rcases htype with rfl | rfl <;> simpa [Condition.flags, ScalarType.hasTimeOfDay] using hflags
    rw [hcolumn, htimes]
    exact boundsPredicate_failsIff hcasters htype (hbounds bounds flags rfl) hends hpath hv

/-- **Only the word for not-a-number breaks a filter on floating-point numbers.** Let a condition on
a floating-point field be accepted, as it stands or under `NOT`, and let the field of a record be
absent or hold a number of its type that is one. Evaluating the condition on the record fails, for
want of an order, exactly if the field has a value and the condition compares it with the word; in a
list, only if the value is not found before the word. -/
theorem float_filter_fails_iff (hcasters : c.casters = .builtIn)
    (htype : type = .f32 ∨ type = .f64) (hkey : c.NamesField schema key (.scalar type))
    (hpage : notKey ≠ c.pageKey) (hnot : FilterEntry.isNotKey notKey = true)
    (hfilter : filter = [(key, value)] ∨ filter = [(notKey, .obj [(key, value)])])
    (h : c.compileMap schema combinator filter = .ok compiled) {record : R}
    (hv : ((Filterable.value? record (Naming.camelCase key)).getD .null).IsOrderedFloat type) :
    ∃ condition,
      Condition.ofValue (.scalar type) (Naming.camelCase key) value = .ok condition ∧
      let v := (Filterable.value? record (Naming.camelCase key)).getD .null
      (v.isNull = false ∧ condition.MeetsNaN c type v →
        ∃ left right, compiled.predicate.passes record compiled.joins =
          .error (.typeMismatch left right)) ∧
      (¬ (v.isNull = false ∧ condition.MeetsNaN c type v) →
        ∃ selected, compiled.predicate.passes record compiled.joins = .ok selected) := by
  obtain ⟨p, ⟨hcolumn, hcondition, hsuits, hp⟩, hcompiled⟩ : ∃ p,
      c.ColumnOutcome schema key value p ∧ (compiled = ⟨p, []⟩ ∨ compiled = ⟨.not p, []⟩) := by
    rcases hfilter with rfl | rfl
    · obtain ⟨p, hp, hcompiled⟩ := (compileMap_scalar hkey).1 h
      exact ⟨p, hp, .inl hcompiled⟩
    · obtain ⟨p, hp, hcompiled⟩ := (compileMap_not_scalar hpage hnot hkey).1 h
      exact ⟨p, hp, .inr hcompiled⟩
  cases hcolumn.declared.symm.trans hkey.declared
  cases hcolumn.column
  have hpath : (Expr.path (Path.root.child (Naming.camelCase key))).evaluate (Binding.root record) =
      .ok ((Filterable.value? record (Naming.camelCase key)).getD .null) := by
    rw [Expr.evaluate_path]
    simp
  have hfails := hp.failsIff_of_float hsuits hcasters htype
    (fun bounds flags hrange => Condition.present_of_range (hrange ▸ hcondition)) hpath hv
  refine ⟨_, hcondition, ?_⟩
  rcases hcompiled with rfl | rfl
  · exact hfails.passes
  · exact hfails.not.passes

/-- A package of a size of one is not compared with the word if the list has its size before it. -/
theorem float_filter_fails_iff_package :
    let c : FilterContext := ⟨.empty, "_page", .builtIn, .utc⟩
    let schema : FieldSchema := ⟨"package", "package", none, [("size", .scalar .f64)]⟩
    let package : Document := ⟨[("size", .f64 (.finite false ⟨1, 0⟩))], []⟩
    c.NamesField schema "size" (.scalar .f64) ∧ FilterEntry.isNotKey "NOT" = true ∧
      (Literal.f64 (.finite false ⟨1, 0⟩)).IsOrderedFloat .f64 ∧
      ∃ found lost,
        c.compileMap schema .and [("size", .arr [.str "1e0", .str "nan"])] = .ok found ∧
        (∃ selected, found.predicate.passes package found.joins = .ok selected) ∧
        c.compileMap schema .and [("NOT", .obj [("size", .arr [.str " -NaN ", .str "1"])])] =
          .ok lost ∧
        ∃ left right, lost.predicate.passes package lost.joins =
          .error (.typeMismatch left right) := by
  intro c schema package
  have hkey : c.NamesField schema "size" (.scalar .f64) :=
    ⟨by decide +kernel, by decide, by decide +kernel⟩
  have hnot : FilterEntry.isNotKey "NOT" = true := by decide
  have hv : ((Filterable.value? package (Naming.camelCase "size")).getD .null).IsOrderedFloat .f64 :=
    ⟨.inr rfl, nofun⟩
  obtain ⟨found, hfound⟩ : ∃ found,
      c.compileMap schema .and [("size", .arr [.str "1e0", .str "nan"])] = .ok found := ⟨_, rfl⟩
  obtain ⟨lost, hlost⟩ : ∃ lost, c.compileMap schema .and
      [("NOT", .obj [("size", .arr [.str " -NaN ", .str "1"])])] = .ok lost := ⟨_, rfl⟩
  refine ⟨hkey, hnot, hv, found, lost, hfound, ?_, hlost, ?_⟩
  · obtain ⟨condition, hcondition, -, hpasses⟩ := float_filter_fails_iff rfl (.inr rfl) hkey
      (by decide : "NOT" ≠ c.pageKey) hnot (.inl rfl) hfound hv
    cases (Except.ok.inj hcondition : Condition.isIn [.str "1e0", .str "nan"] = condition)
    refine hpasses ?_
    rintro ⟨-, hmeets⟩
    rcases comesUp_cons.1 hmeets with ⟨raw, hraw, hnan⟩ | ⟨hother, -⟩
    · cases hraw
      revert hnan
      decide
    · exact hother _ rfl rfl
  · obtain ⟨condition, hcondition, hlosing, -⟩ := float_filter_fails_iff rfl (.inr rfl) hkey
      (by decide : "NOT" ≠ c.pageKey) hnot (.inr rfl) hlost hv
    cases (Except.ok.inj hcondition : Condition.isIn [.str " -NaN ", .str "1"] = condition)
    exact hlosing ⟨rfl, comesUp_cons.2 (.inl ⟨" -NaN ", rfl, by decide⟩)⟩

/-- The filter `{"size": "nan"}` is accepted, and evaluating it on a size of one fails. -/
theorem float_filter_not_safe :
    let c : FilterContext := ⟨.empty, "_page", .builtIn, .utc⟩
    let schema : FieldSchema := ⟨"package", "package", none, [("size", .scalar .f64)]⟩
    let package : Document := ⟨[("size", .f64 (.finite false ⟨1, 0⟩))], []⟩
    ∃ compiled, c.compileMap schema .and [("size", .str "nan")] = .ok compiled ∧
      compiled.predicate.passes package compiled.joins = .error (.typeMismatch "1" "NaN") :=
  ⟨_, rfl, rfl⟩

end FilterContext

end RowFilter
