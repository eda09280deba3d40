import RowFilter.Proofs.Filter.OwnText
import RowFilter.Proofs.Literal.OwnText

/-!
# Values found by their own texts

A filter that gives a field that is no text the written form of a record's own value finds the
record: the text states an equality, it is cast to the value, and the value is equal to itself.
-/

namespace RowFilter

/-- Plain text has no wildcard at its ends. -/
theorem Condition.isPattern_of_plain {s : String} (h : Text.Plain s.toList) :
    Condition.isPattern s = false := by
  have hwildcard : '%' ∉ s.toList := fun hmem => absurd (h '%' hmem) (by decide)
  simp only [isPattern, Bool.or_eq_false_iff, beq_eq_false_iff_ne]
  exact ⟨fun hhead => hwildcard (List.mem_of_head? hhead),
    fun hlast => hwildcard (List.mem_of_getLast? hlast)⟩

namespace FilterContext

variable {R : Type} [Filterable R] {record : R} {c : FilterContext} {schema : FieldSchema}
  {combinator : Combinator} {field s : String} {type : ScalarType} {v : Literal}

/-- The text of a value that is no text is compared with the column as the value that it is cast
to. -/
theorem compileValue_of_cast {path : Path} (negation : Negation) (htext : type.isText = false)
    (hcast : c.casters.cast c.zone type s = .ok (some v)) :
    c.compileValue ⟨field, .scalar type, .equals (.str s), combinator, negation⟩ type path =
      .ok (.compare (.path path) .equal (.literal v)) := by
  simp [compileValue, literal, column, Casters.castValue, Casters.castText, hcast, htext, bind,
    Except.bind, Except.mapError]

/-- Where a record's value is equal to itself, it satisfies an equality with its own value. -/
theorem evaluate_equal_self {b : Binding R} {expr : Expr} (hvalue : expr.evaluate b = .ok v)
    (hcollate : v.collate v = some .eq) :
    (Predicate.compare expr .equal (.literal v)).evaluate b = .ok (some true) := by
  have hnull : v.isNull = false := by
    cases v with
    | null => cases hcollate
    | _ => rfl
  rw [Predicate.evaluate_compare (by decide), hvalue]
  simp [Expr.evaluate_literal, hnull, collateOrMismatch, hcollate, Comparison.holds, bind,
    Except.bind]

/-- A filter of one text on a field that is no text compiles to an equality, unless the field bears
one of the reserved keys, under which nothing is stated. -/
theorem compile_own_value (c : FilterContext) (combinator : Combinator)
    (hfield : schema.get? field = some (.scalar type)) (hname : Naming.camelCase field = field)
    (htext : type.isText = false) (hplain : Text.Plain s.toList)
    (hcast : c.casters.cast c.zone type s = .ok (some v)) :
    ∃ nodes compiled,
      FilterNode.ofMap schema c.pageKey combinator [(field, .str s)] = .ok nodes ∧
      c.compile schema nodes = .ok compiled ∧
      (compiled = .everything ∨
        compiled = ⟨.compare (.path (Path.root.child field)) .equal (.literal v), []⟩) := by
  have hentries := entries_of_text c.pageKey field s
  unfold FilterNode.ofMap FilterReading.ofMap
  by_cases hreserved : field = c.pageKey ∨ FilterEntry.isNotKey field = true
  · rw [hentries, if_pos hreserved]
    exact ⟨[], .everything, rfl, rfl, .inl rfl⟩
  · rw [hentries, if_neg hreserved]
    let node : FilterNode := ⟨field, .scalar type, .equals (.str s), combinator, .none⟩
    have hdeclared : (DeclaredType.scalar type).isText = false := htext
    have hread : Reading.ofEntry schema combinator ⟨.none, field, .str s⟩ = .ok (.node node) := by
      simp [Reading.ofEntry, FilterEntry.field, hname, hfield, DeclaredType.ofFieldKind,
        Condition.ofValue, Condition.ofWritten, Condition.isPattern_of_plain hplain, hdeclared, node,
        bind, Except.bind]
    have hcompile : c.compile schema [node] =
        .ok ⟨.compare (.path (Path.root.child field)) .equal (.literal v), []⟩ := by
      refine compile_singleton rfl fun nested => ?_
      have hsupported : node.isSupported = true := rfl
      simp [compileNode, node, hsupported, compileValue_of_cast .none htext hcast, bind, Except.bind]
    refine ⟨[node], _, ?_, hcompile, .inr rfl⟩
    simp [List.mapM_cons, hread, Reading.node?, Reading.unknown?, FilterReading.known, bind,
      Except.bind, pure, Except.pure]

/-- **A row is found by its own value**: the filter that gives a field the own text of a record's
plain value builds and compiles, and the record passes it, since the text is cast to the value, which
is equal to itself. -/
theorem passes_own_value (c : FilterContext) (combinator : Combinator)
    (hcasters : c.casters = .builtIn) (hfield : schema.get? field = some (.scalar type))
    (hname : Naming.camelCase field = field) (hvalue : Filterable.value? record field = some v)
    (hplain : v.IsPlain type) :
    (c.casters.cast c.zone type v.ownText = .ok (some v) ∧ v.collate v = some .eq) ∧
    ∃ nodes compiled,
      FilterNode.ofMap schema c.pageKey combinator [(field, .str v.ownText)] = .ok nodes ∧
      c.compile schema nodes = .ok compiled ∧
      compiled.predicate.passes record compiled.joins = .ok true := by
  have hcast : c.casters.cast c.zone type v.ownText = .ok (some v) := by
    rw [hcasters, Casters.cast, if_pos (Casters.isRegistered_builtIn hplain.kind_ne_other)]
    exact Cast.toLiteral_ownText hplain
  obtain ⟨nodes, compiled, hnodes, hcompile, hcompiled⟩ := c.compile_own_value combinator hfield
    hname hplain.isText_eq_false hplain.plain_ownText hcast
  refine ⟨⟨hcast, hplain.collate_self⟩, nodes, compiled, hnodes, hcompile, ?_⟩
  rcases hcompiled with rfl | rfl
  · rfl
  · have hpath : (Expr.path (Path.root.child field)).evaluate (Binding.root record) = .ok v := by
      simp [Expr.evaluate_path, hvalue]
    have htrue := evaluate_equal_self hpath hplain.collate_self
    simp [Predicate.passes, Binding.expand, Predicate.isTrueUnderSome, htrue, bind, Except.bind,
      pure, Except.pure]

/-- A parcel is found by the moment at which it was sent, on a clock west of UTC. -/
theorem passes_own_value_offset :
    let c : FilterContext := ⟨.empty, "page", .builtIn, .utc⟩
    let schema : FieldSchema := ⟨"parcel", "parcel", none, [("sent", .scalar .offsetDateTime)]⟩
    let sent : Civil.OffsetDateTime := ⟨⟨⟨⟨19737⟩, ⟨57600, 250000000⟩⟩⟩, -12600⟩
    let parcel : Record := ⟨.i64 1, [("sent", .offsetDateTime sent)], []⟩
    (Literal.offsetDateTime sent).ownText = "2024-01-15T12:30:00.250-03:30" ∧
      ∃ nodes compiled,
        FilterNode.ofMap schema c.pageKey .and
          [("sent", .str (Literal.offsetDateTime sent).ownText)] = .ok nodes ∧
        c.compile schema nodes = .ok compiled ∧
        compiled.predicate.passes (Row.mk .empty parcel) compiled.joins = .ok true := by
  intro c schema sent parcel
  have hfield : schema.get? "sent" = some (.scalar .offsetDateTime) := rfl
  have hvalue : Filterable.value? (Row.mk .empty parcel) "sent" = some (.offsetDateTime sent) := rfl
  have hyear : sent.wallClock.date.HasPlainYear := by
    unfold Civil.Date.HasPlainYear
    decide +kernel
  have hsecond : sent.wallClock.time.isLeap = false := by decide +kernel
  have hoffset : Civil.IsPlainOffset sent.offset := ⟨by decide +kernel, by decide +kernel⟩
  refine ⟨by decide +kernel, ?_⟩
  exact (passes_own_value c .and rfl hfield (by decide +kernel) hvalue
    (.offsetDateTime ⟨⟨hyear, hsecond⟩, hoffset⟩)).2

end FilterContext

end RowFilter
