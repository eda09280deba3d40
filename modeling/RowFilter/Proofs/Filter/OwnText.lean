import RowFilter.Proofs.Cast
import RowFilter.Proofs.Filter.Outcome
import RowFilter.Proofs.Query.Expansion
import RowFilter.Proofs.Query.Like
import RowFilter.Proofs.Text.UpperCase
import RowFilter.Store.Memory

/-!
# Texts found by their own value

A filter that gives a text field the text of a record's own value finds the record. Wildcards in the
text do no harm, since a text matches itself as a pattern. One case is lost: the text of a character
is put in upper case before it is cast, and the cast keeps only its first character, so a character
whose upper case is longer than one (`ß`) is compared with the beginning of it.
-/

namespace RowFilter

/-! ## Upper case -/

namespace Text

theorem upper_singleton (c : Char) : upper (String.ofList [c]) = String.ofList (upperChar c) := by
  simp [upper, upperChars]

end Text

/-! ## One node -/

namespace FilterContext

variable {R : Type} [Filterable R] {record : R} {c : FilterContext} {schema : FieldSchema}
  {combinator : Combinator} {field : String} {type : ScalarType} {l : Literal}

/-- Whether the cast of a value's own text gives back what the value compares as. -/
def KeepsOwnText (c : FilterContext) (l : Literal) : Prop :=
  ∀ ch, l = .char ch → c.casters.isRegistered .char = true → (Text.upperChar ch).length = 1

theorem literal_str {s : String} (htext : type.isText = true)
    (h : c.casters.cast c.zone type s = .ok (some l)) : c.literal type (.str s) = .ok l.upper := by
  simp [literal, Casters.castValue, Casters.castText, h, htext, bind, Except.bind, Except.mapError]

/-- The text of a value in upper case is cast to the value in upper case, or to the first character
of it. -/
theorem literal_own_text (htext : type.isText = true) (hkind : l.kind? = some type.kind) :
    ∃ s, c.literal type (.str (Text.upper l.text)) = .ok (.string s) ∧
      (s = Text.upper l.text ↔ c.KeepsOwnText l) := by
  cases hregistered : c.casters.isRegistered type.kind with
  | false =>
    have hcast : c.casters.cast c.zone type (Text.upper l.text) =
        .ok (some (.string (Text.upper l.text))) := by
      rw [Casters.cast, hregistered]
      rfl
    refine ⟨_, literal_str htext hcast, iff_of_true (Text.upper_upper _) ?_⟩
    rintro ch rfl h
    rw [← Option.some.inj hkind, h] at hregistered
    cases hregistered
  | true =>
    have hcast : c.casters.cast c.zone type (Text.upper l.text) =
        Cast.toLiteral c.zone type (Text.upper l.text) := by
      rw [Casters.cast, hregistered]
      rfl
    cases type <;> cases htext
    · cases l <;> cases hkind
      refine ⟨_, literal_str rfl hcast, iff_of_true (Text.upper_upper _) ?_⟩
      rintro ch ⟨⟩
    · cases l <;> cases hkind
      next ch =>
      obtain ⟨first, rest, hupper⟩ := List.exists_cons_of_ne_nil (Text.upperChar_ne_nil ch)
      have hfirst : Text.upperChar first = [first] :=
        Text.upperChar_image ch first (hupper ▸ List.mem_cons_self)
      have htext : Text.upper (Literal.char ch).text = String.ofList (first :: rest) := by
        rw [Literal.text, Text.upper_singleton, hupper]
      rw [htext, Cast.toLiteral, String.toList_ofList] at hcast
      refine ⟨String.ofList [first], ?_, ?_⟩
      · rw [htext, literal_str rfl hcast, Literal.upper, hfirst]
      · rw [htext, String.ofList_inj]
        constructor
        · intro h ch' hch' _
          cases hch'
          rw [hupper, ← h]
          rfl
        · intro h
          have hlength := h ch rfl hregistered
          rw [hupper, List.length_cons, Nat.succ_inj, List.length_eq_zero_iff] at hlength
          rw [hlength]

/-- A column that holds a text compares as the text in upper case. -/
theorem evaluate_column_of_text {b : Binding R} {path : Path} (htext : type.isText = true)
    (hkind : l.kind? = some type.kind) (hvalue : (Expr.path path).evaluate b = .ok l) :
    (column type path).evaluate b = .ok (.string (Text.upper l.text)) := by
  rw [column, if_pos htext, Expr.evaluate_upper, hvalue]
  cases type <;> cases htext <;> cases l <;> cases hkind
  · rfl
  · rw [Literal.text, Text.upper_singleton]
    rfl

theorem evaluate_equal_strings {b : Binding R} {expr : Expr} {s t : String}
    (hexpr : expr.evaluate b = .ok (.string s)) :
    (Predicate.compare expr .equal (.literal (.string t))).evaluate b =
      .ok (some (decide (s = t))) := by
  rw [Predicate.evaluate_compare (by decide), hexpr]
  have hequal : Comparison.equal.holds (compare s t) = decide (s = t) := by
    rw [Comparison.holds, Bool.eq_iff_iff, beq_iff_eq, decide_eq_true_iff]
    exact Std.compare_eq_iff_eq
  exact congrArg (fun found => Except.ok (some found)) hequal

/-- A pattern is no character that the cast loses a part of: a wildcard is its own upper case. -/
theorem keepsOwnText_of_isPattern (h : Condition.isPattern l.text = true) : c.KeepsOwnText l := by
  rintro ch rfl _
  have hwildcard : ch = '%' := by simpa [Condition.isPattern, Literal.text] using h
  subst hwildcard
  decide +kernel

/-- What compiles from the text of a value that a column holds is true of it, unless the cast loses
a part of the text. -/
theorem compileValue_own_text (c : FilterContext) (field : String) (combinator : Combinator)
    (negation : Negation) {b : Binding R} {path : Path}
    (htext : type.isText = true) (hkind : l.kind? = some type.kind)
    (hvalue : (Expr.path path).evaluate b = .ok l) :
    ∃ condition p found,
      Condition.ofValue (.scalar type) field (.str l.text) = .ok condition ∧
      FilterNode.suits type condition = true ∧
      c.compileValue ⟨field, .scalar type, condition, combinator, negation⟩ type path = .ok p ∧
      p.evaluate b = .ok (some found) ∧ (found = true ↔ c.KeepsOwnText l) := by
  have hcolumn := evaluate_column_of_text htext hkind hvalue
  have hdeclared : (DeclaredType.scalar type).isText = true := htext
  by_cases hpattern : Condition.isPattern l.text = true
  · refine ⟨.like (Text.upper l.text), .like (column type path) (Text.upper l.text), true, ?_, ?_,
      ?_, ?_, iff_of_true rfl (keepsOwnText_of_isPattern hpattern)⟩
    · simp [Condition.ofValue, Condition.ofWritten, hpattern, hdeclared, Condition.upper, bind,
        Except.bind]
    · simp [FilterNode.suits, htext, Condition.flags]
    · simp [compileValue]
    · simp [Predicate.evaluate, hcolumn, Literal.characters?, Like.isMatch_self, bind, Except.bind]
  · obtain ⟨s, hliteral, hkeeps⟩ := literal_own_text (c := c) htext hkind
    refine ⟨.equals (.str (Text.upper l.text)), .compare (column type path) .equal
      (.literal (.string s)), _, ?_, ?_, ?_, evaluate_equal_strings hcolumn, ?_⟩
    · simp [Condition.ofValue, Condition.ofWritten, hpattern, hdeclared, Condition.upper,
        Json.upper, bind, Except.bind]
    · simp [FilterNode.suits, Condition.flags]
    · simp [compileValue, hliteral, bind, Except.bind]
    · rw [decide_eq_true_iff, ← hkeeps, eq_comm]

/-! ## The whole filter -/

/-- A filter of one text under a reserved key states nothing, and under any other key it states one
condition. -/
theorem entries_of_text (pageKey field s : String) :
    FilterEntry.ofMap pageKey [(field, .str s)] =
      if field = pageKey ∨ FilterEntry.isNotKey field = true then []
      else [⟨.none, field, .str s⟩] := by
  unfold FilterEntry.ofMap FilterEntry.ofEntry
  by_cases hpage : field = pageKey
  · simp [hpage]
  · by_cases hnot : FilterEntry.isNotKey field = true <;> simp [hpage, hnot]

/-- One condition that needs no join compiles to its predicate. -/
theorem compile_singleton {n : FilterNode} {p : Predicate} (hnegation : n.negation = .none)
    (h : ∀ nested, c.compileNode nested schema .root n = .ok ⟨p, []⟩) :
    c.compile schema [n] = .ok ⟨p, []⟩ := by
  simp [compile, compileLevel, h, hnegation, Compiled.negated, Negation.apply, Compiled.combine,
    Compiled.combinedPredicate, Compiled.distinctJoins, bind, Except.bind, pure, Except.pure]

/-- **A text row is found by its own value**: the filter that gives a text field the text of a
record's own value builds and compiles, and the record passes it, unless the field's values are
characters with a caster and the upper case of the character is longer than one. -/
theorem passes_own_text (c : FilterContext) (combinator : Combinator)
    (hfield : schema.get? field = some (.scalar type))
    (hname : Naming.camelCase field = field) (htext : type.isText = true)
    (hvalue : Filterable.value? record field = some l) (hkind : l.kind? = some type.kind) :
    ∃ nodes compiled found,
      FilterNode.ofMap schema c.pageKey combinator [(field, .str l.text)] = .ok nodes ∧
      c.compile schema nodes = .ok compiled ∧
      compiled.predicate.passes record compiled.joins = .ok found ∧
      (found = true ↔
        field = c.pageKey ∨ FilterEntry.isNotKey field = true ∨ c.KeepsOwnText l) := by
  have hentries := entries_of_text c.pageKey field l.text
  unfold FilterNode.ofMap FilterReading.ofMap
  by_cases hreserved : field = c.pageKey ∨ FilterEntry.isNotKey field = true
  · rw [hentries, if_pos hreserved]
    exact ⟨[], .everything, true, rfl, rfl, rfl, iff_of_true rfl (or_assoc.1 (.inl hreserved))⟩
  · rw [hentries, if_neg hreserved]
    have hpath : (Expr.path (Path.root.child field)).evaluate (Binding.root record) = .ok l := by
      simp [Expr.evaluate_path, hvalue]
    obtain ⟨condition, p, found, hcondition, hsuits, hp, heval, hfound⟩ :=
      c.compileValue_own_text field combinator .none htext hkind hpath
    have hread : Reading.ofEntry schema combinator ⟨.none, field, .str l.text⟩ =
        .ok (.node ⟨field, .scalar type, condition, combinator, .none⟩) := by
      simp [Reading.ofEntry, FilterEntry.field, hname, hfield, DeclaredType.ofFieldKind,
        hcondition, bind, Except.bind]
    have hsupported : FilterNode.isSupported
        ⟨field, .scalar type, condition, combinator, .none⟩ = true := by
      cases condition <;> exact hsuits
    have hcompile : c.compile schema [⟨field, .scalar type, condition, combinator, .none⟩] =
        .ok ⟨p, []⟩ := by
      refine compile_singleton rfl fun nested => ?_
      simp [compileNode, hsupported, hp, bind, Except.bind]
    refine ⟨_, _, found, ?_, hcompile, ?_, ?_⟩
    · simp [List.mapM_cons, hread, Reading.node?, Reading.unknown?, FilterReading.known, bind,
        Except.bind, pure, Except.pure]
    · cases found <;> simp [Predicate.passes, Binding.expand, Predicate.isTrueUnderSome, heval,
        bind, Except.bind, pure, Except.pure]
    · rw [hfound, ← or_assoc, or_iff_right hreserved]

/-- A book whose title has wildcards in it, at one end too, and a letter of which the upper case has
two characters, is found by its title. -/
theorem passes_own_text_wildcards :
    let c : FilterContext := ⟨.empty, "page", .builtIn, .utc⟩
    let schema : FieldSchema := ⟨"book", "book", none, [("title", .scalar .string)]⟩
    let book : Record := ⟨.i64 1, [("title", .string "100%_groß%")], []⟩
    ∃ nodes compiled,
      FilterNode.ofMap schema c.pageKey .and [("title", .str "100%_groß%")] = .ok nodes ∧
      c.compile schema nodes = .ok compiled ∧
      compiled.predicate.passes (Row.mk .empty book) compiled.joins = .ok true := by
  intro c schema book
  have hfield : schema.get? "title" = some (.scalar .string) := rfl
  have hvalue : Filterable.value? (Row.mk .empty book) "title" = some (.string "100%_groß%") := rfl
  obtain ⟨nodes, compiled, found, hnodes, hcompile, hpasses, hfound⟩ :=
    passes_own_text c .and hfield (by decide +kernel) rfl hvalue rfl
  have htrue : found = true := hfound.2 (.inr (.inr nofun))
  exact ⟨nodes, compiled, hnodes, hcompile, htrue ▸ hpasses⟩

/-- A record that holds the character `ß` is not found by it: the filter compares with `S`, the
first character of the upper case. -/
theorem passes_own_character_sharp_s :
    let c : FilterContext := ⟨.empty, "page", .builtIn, .utc⟩
    let schema : FieldSchema := ⟨"letter", "letter", none, [("sign", .scalar .char)]⟩
    let letter : Record := ⟨.i64 1, [("sign", .char 'ß')], []⟩
    ∃ nodes compiled,
      FilterNode.ofMap schema c.pageKey .and [("sign", .str "ß")] = .ok nodes ∧
      c.compile schema nodes = .ok compiled ∧
      compiled.predicate.passes (Row.mk .empty letter) compiled.joins = .ok false := by
  exact ⟨_, _, rfl, rfl, rfl⟩

end FilterContext

end RowFilter
