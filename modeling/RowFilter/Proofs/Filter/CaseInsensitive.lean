import RowFilter.Proofs.Filter.LetterCase
import RowFilter.Proofs.Filter.StoredColumns
import RowFilter.Proofs.Query.OwnFields

/-!
# Letter case in records

Two records may differ in the case of the texts that they and their related records hold. A column
of type `String` is compared in upper case, and a test for absence does not look at a text; so a
compiled filter has one truth value under corresponding choices of joined records, and the same
verdict on both records.
-/

namespace RowFilter

/-- Whether the values of a field are texts: those of type `String`, and the keys of that type by
which a relation is stored. A relation in the place of the identity of the records is none of
these. -/
def FieldSchema.HoldsText (s : FieldSchema) (name : String) : Prop :=
  s.get? name = some (.scalar .string) ∨
    ∃ r field, s.get? name = some (.relation r) ∧ r.identity = some (field, .string) ∧
      s.identity ≠ some name

/-- Whether two values are texts with the same upper case. -/
def Literal.TextAlike (l l' : Literal) : Prop :=
  ∃ t t', l = .string t ∧ l' = .string t' ∧ Text.upper t = Text.upper t'

namespace FilterContext

variable {R : Type} {c : FilterContext} {rel : FieldSchema → R → R → Prop}
  {start s schema : FieldSchema} {b b' : Binding R} {bindings bindings' : List (Binding R)}
  {p path root : Path} {x x' : R} {join : Join} {joins : List Join} {name entity : String}
  {type : ScalarType} {q : Predicate} {condition : Condition} {n : FilterNode} {part : Compiled}

/-! ## Choices -/

/-- Whether two choices have related records at the same paths. -/
def AlikeBindings (c : FilterContext) (rel : FieldSchema → R → R → Prop) (start : FieldSchema)
    (b b' : Binding R) : Prop :=
  ∀ p, Option.Rel (fun x x' => ∃ s, c.Leads start p s ∧ rel s x x') (b.get? p) (b'.get? p)

theorem alikeBindings_root (h : rel start x x') :
    c.AlikeBindings rel start (Binding.root x) (Binding.root x') := by
  intro p
  rw [Binding.get?_root, Binding.get?_root]
  split
  · next hroot => exact .some ⟨start, hroot ▸ .root, h⟩
  · exact .none

theorem AlikeBindings.extend (h : c.AlikeBindings rel start b b') (hs : c.Leads start p s)
    (hx : rel s x x') : c.AlikeBindings rel start (b.extend p x) (b'.extend p x') := by
  intro q
  rw [Binding.get?_extend, Binding.get?_extend]
  have hq := h q
  generalize b.get? q = found, b'.get? q = found' at hq
  cases hq with
  | some hq => exact .some hq
  | none =>
    by_cases hpath : q = p
    · rw [if_pos hpath, if_pos hpath]
      exact .some ⟨s, hpath ▸ hs, hx⟩
    · rw [if_neg hpath, if_neg hpath]
      exact .none

variable [Filterable R]

/-- Whether related records of a schema differ at most in the case of their texts, and lead to
records that are related again. -/
structure IsLikeness (c : FilterContext) (rel : FieldSchema → R → R → Prop) : Prop where
  values : ∀ {s x x'}, rel s x x' → ∀ name,
    Filterable.value? x name = Filterable.value? x' name ∨
      s.HoldsText name ∧ ∃ l l', Filterable.value? x name = some l ∧
        Filterable.value? x' name = some l' ∧ l.TextAlike l'
  related : ∀ {s x x'}, rel s x x' → ∀ name r, s.get? name = some (.relation r) →
    Option.Rel (List.Forall₂ (rel (c.target r)))
      (Filterable.related? x name) (Filterable.related? x' name)

/-- Whether two records of a schema, with the records that they lead to, differ at most in the case
of texts. -/
def AlikeRecords (c : FilterContext) (s : FieldSchema) (x x' : R) : Prop :=
  ∃ rel, c.IsLikeness rel ∧ rel s x x'

theorem AlikeBindings.follow (hrel : c.IsLikeness rel) (h : c.AlikeBindings rel start b b')
    (hjoin : c.FollowsRelation start join) :
    RelatedResults (List.Forall₂ (c.AlikeBindings rel start)) (b.follow join) (b'.follow join) := by
  obtain ⟨owner, s, name, r, hpath, hs, hr, -⟩ := hjoin
  unfold Binding.follow
  have howner := h join.path.parent
  generalize b.get? join.path.parent = found, b'.get? join.path.parent = found' at howner
  cases howner with
  | none => exact .error _
  | @some x x' hx =>
    obtain ⟨s', hs', hx⟩ := hx
    rw [hpath, Path.parent_child] at hs'
    obtain rfl := hs.unique hs'
    dsimp only
    have hrelated := hrel.related hx name r hr
    rw [hpath, Path.property_child]
    generalize Filterable.related? x name = ys, Filterable.related? x' name = ys' at hrelated
    cases hrelated with
    | none => exact .error _
    | some hys =>
      refine .ok (List.forall₂_map_left_iff.2 (List.forall₂_map_right_iff.2 (hys.imp ?_)))
      exact fun y y' hy => h.extend (hs.step hr) hy

theorem alikeBindings_followAll (hrel : c.IsLikeness rel)
    (h : List.Forall₂ (c.AlikeBindings rel start) bindings bindings')
    (hjoin : c.FollowsRelation start join) :
    RelatedResults (List.Forall₂ (c.AlikeBindings rel start))
      (Binding.followAll join bindings) (Binding.followAll join bindings') := by
  induction h with
  | nil => exact .ok .nil
  | cons hb _ ih =>
    refine (hb.follow hrel hjoin).bind fun first first' hfirst =>
      ih.bind fun others others' hrest => ?_
    exact .ok (List.rel_append hfirst hrest)

/-- The choices for one record correspond to those for the other, or neither record has any. -/
theorem alikeBindings_expand (hrel : c.IsLikeness rel) (hx : rel start x x')
    (hjoins : ∀ join ∈ joins, c.FollowsRelation start join) :
    RelatedResults (List.Forall₂ (c.AlikeBindings rel start))
      (Binding.expand x joins) (Binding.expand x' joins) := by
  have hfold : ∀ bindings bindings',
      List.Forall₂ (c.AlikeBindings rel start) bindings bindings' →
      RelatedResults (List.Forall₂ (c.AlikeBindings rel start))
        (joins.foldlM (fun bindings join => Binding.followAll join bindings) bindings)
        (joins.foldlM (fun bindings join => Binding.followAll join bindings) bindings') := by
    induction joins with
    | nil => exact fun _ _ => .ok
    | cons join rest ih =>
      obtain ⟨hjoin, hrest⟩ := List.forall_mem_cons.1 hjoins
      intro bindings bindings' h
      rw [List.foldlM_cons, List.foldlM_cons]
      exact (alikeBindings_followAll hrel h hjoin).bind (ih hrest)
  exact hfold _ _ (.cons (alikeBindings_root hx) .nil)

/-! ## Conditions -/

/-- Whether a path is read alike under two choices: as one value, or as texts with the same upper
case if it is a column of texts. -/
def ReadAlike (b b' : Binding R) (path : Path) (text : Prop) : Prop :=
  (Expr.path path).evaluate b = (Expr.path path).evaluate b' ∨
    text ∧ ∃ l l', (Expr.path path).evaluate b = .ok l ∧ (Expr.path path).evaluate b' = .ok l' ∧
      l.TextAlike l'

theorem AlikeBindings.readAlike (hrel : c.IsLikeness rel) (h : c.AlikeBindings rel start b b')
    (hs : c.Leads start p s) (name : String) : ReadAlike b b' (p.child name) (s.HoldsText name) := by
  unfold ReadAlike
  rw [Expr.evaluate_path, Expr.evaluate_path, Path.parent_child, Path.property_child]
  have hp := h p
  generalize b.get? p = found, b'.get? p = found' at hp
  cases hp with
  | none => exact .inl rfl
  | some hx =>
    obtain ⟨s', hs', hx⟩ := hx
    obtain rfl := hs.unique hs'
    dsimp only
    rcases hrel.values hx name with hsame | ⟨htext, l, l', hl, hl', halike⟩
    · exact .inl (by rw [hsame])
    · exact .inr ⟨htext, l, l', by rw [hl]; rfl, by rw [hl']; rfl, halike⟩

variable {text : Prop}

theorem ReadAlike.column (h : ReadAlike b b' path text) (htext : text → type = .string) :
    (column type path).evaluate b = (column type path).evaluate b' := by
  rcases h with hsame | ⟨hholds, l, l', hl, hl', t, t', rfl, rfl, hupper⟩
  · unfold FilterContext.column
    split
    · rw [Expr.evaluate_upper, Expr.evaluate_upper, hsame]
    · exact hsame
  · obtain rfl := htext hholds
    change (Expr.upper (.path path)).evaluate b = (Expr.upper (.path path)).evaluate b'
    rw [Expr.evaluate_upper, Expr.evaluate_upper, hl, hl']
    exact congrArg (fun s => Except.ok (Literal.string s)) hupper

theorem ReadAlike.isNull (h : ReadAlike b b' path text) :
    (Predicate.isNull (.path path)).evaluate b = (Predicate.isNull (.path path)).evaluate b' := by
  rw [Predicate.evaluate, Predicate.evaluate]
  rcases h with hsame | ⟨-, l, l', hl, hl', t, t', rfl, rfl, -⟩
  · rw [hsame]
  · rw [hl, hl']
    rfl

/-- A condition on a column has one truth value where the column is read alike. -/
theorem ValueOutcome.evaluate_alike (hq : ValueOutcome c type path condition q)
    (hsuits : FilterNode.suits type condition = true) (h : ReadAlike b b' path text)
    (htext : text → type = .string) : q.evaluate b = q.evaluate b' := by
  have hcolumn := h.column htext
  cases hq with
  | absent => exact h.isNull
  | equals =>
    rw [Predicate.evaluate_compare (by decide), Predicate.evaluate_compare (by decide), hcolumn]
    rfl
  | like => rw [Predicate.evaluate, Predicate.evaluate, hcolumn]
  | @isIn _ ls =>
    have hmember : ∀ value, Predicate.isMember b value (ls.map .literal) =
        Predicate.isMember b' value (ls.map .literal) := by
      refine fun value => Predicate.isMember_congr fun q hq => ?_
      rw [pathsOfItems_literals] at hq
      cases hq
    rw [Predicate.evaluate, Predicate.evaluate, hcolumn]
    simp only [hmember]
  | @range _ flags ends =>
    refine Predicate.foldl_and_induct (motive := fun q => q.evaluate b = q.evaluate b')
      (fun p q hp hq => ?_) ?_ fun q hq => ?_
    · rw [Predicate.evaluate, Predicate.evaluate, hp, hq]
    · cases ends with
      | between =>
        rw [boundsPredicate, Predicate.evaluate, Predicate.evaluate, hcolumn]
        rfl
      | atLeast | atMost =>
        rw [boundsPredicate, Predicate.evaluate_compare (by decide),
          Predicate.evaluate_compare (by decide), hcolumn]
        rfl
    · split at hq
      · next hflag =>
        have htime : type.hasTimeOfDay = true := by
          have hflags := (Bool.and_eq_true_iff.1 hsuits).2
          rwa [Condition.flags, hflag] at hflags
        have hsame := h.resolve_right fun hholds => by
          rw [htext hholds.1] at htime
          cases htime
        obtain ⟨operator, t, hoperator, rfl⟩ := exists_of_mem_timePredicates hq
        have hcompared : operator ≠ .isIn := by
          rintro rfl
          rcases hoperator with h | h <;> cases h
        rw [Predicate.evaluate_compare hcompared, Predicate.evaluate_compare hcompared,
          Expr.evaluate_timeOfDay, Expr.evaluate_timeOfDay, hsame]
        rfl
      · cases hq

/-! ## Filters -/

theorem Leads.exists_resolve {kind : FieldKind} (hstart : c.catalog.resolve entity = some start)
    (h : c.Leads start p s) (hkind : s.get? name = some kind) :
    ∃ entity, c.catalog.resolve entity = some s := by
  cases h with
  | root => exact ⟨entity, hstart⟩
  | @step _ _ _ r =>
    unfold target at hkind ⊢
    cases hr : c.catalog.resolve r.target with
    | none =>
      rw [hr] at hkind
      cases hkind
    | some s => exact ⟨r.target, hr⟩

theorem type_of_holdsText (hkind : s.get? name = some (.scalar type)) (h : s.HoldsText name) :
    type = .string := by
  rcases h with h | ⟨r, _, hr, -⟩
  · cases hkind.symm.trans h
    rfl
  · cases hkind.symm.trans hr

/-- The field that identifies the records that a relation leads to holds texts only if the relation
takes it to do so. -/
theorem type_of_holdsText_target (hcatalog : c.catalog.DeclaresOnce)
    (hschema : c.catalog.resolve entity = some schema) {r : Relation} {field : String}
    (hr : schema.get? name = some (.relation r)) (hidentity : r.identity = some (field, type))
    (h : (c.target r).HoldsText field) : type = .string := by
  unfold target at h
  cases htarget : c.catalog.resolve r.target with
  | none =>
    rw [htarget] at h
    rcases h with h | ⟨_, _, h, -⟩ <;> cases h
  | some s =>
    rw [htarget, Option.getD_some] at h
    have hfound := hidentity
    rw [Catalog.relation_identity hcatalog hschema hr, Catalog.identityOf?_eq_some] at hfound
    obtain ⟨_, hline, -⟩ := Catalog.resolve_eq_some htarget
    have hs : s.identity = some field := hline.trans hfound.1
    rcases h with h | ⟨_, _, -, -, hne⟩
    · have hstring := Catalog.identity_of_relation hcatalog hschema hr htarget hs h
      cases hidentity.symm.trans hstring
      rfl
    · exact absurd hs hne

/-- Whether what is compiled for the records at a path has one truth value under corresponding
choices. -/
def EvaluatesAlike (c : FilterContext) (rel : FieldSchema → R → R → Prop) (start : FieldSchema) :
    LevelProperty :=
  fun schema root _ _ compiled => c.Leads start root schema →
    ∀ b b', c.AlikeBindings rel start b b' →
      compiled.predicate.evaluate b = compiled.predicate.evaluate b'

theorem NodeOutcome.evaluate_alike (hcatalog : c.catalog.DeclaresOnce)
    (hstart : c.catalog.resolve entity = some start) (hrel : c.IsLikeness rel)
    (hroot : c.Leads start root schema) (hb : c.AlikeBindings rel start b b')
    (h : NodeOutcome c (c.EvaluatesAlike rel start) schema root n part) :
    part.predicate.evaluate b = part.predicate.evaluate b' := by
  have hread := hb.readAlike hrel hroot n.field
  cases h with
  | column hkind hsuits hp =>
    exact (compileValue_ok hp).evaluate_alike hsuits hread (type_of_holdsText hkind)
  | absent => exact hread.isNull
  | key hkind _ hidentity _ hsuits hp =>
    refine (compileValue_ok hp).evaluate_alike hsuits hread fun htext => ?_
    rcases htext with h | ⟨r, _, hr, hstring, -⟩
    · cases hkind.symm.trans h
    · cases hkind.symm.trans hr
      cases hidentity.symm.trans hstring
      rfl
  | member hkind _ hidentity _ hsuits hp =>
    obtain ⟨owner, hschema⟩ := hroot.exists_resolve hstart hkind
    refine (compileValue_ok hp).evaluate_alike hsuits
      (hb.readAlike hrel (hroot.step hkind) _) fun htext => ?_
    exact type_of_holdsText_target hcatalog hschema hkind hidentity htext
  | joined hkind _ hinner => exact hinner (hroot.step hkind) b b' hb

theorem isPreserved_evaluatesAlike (hcatalog : c.catalog.DeclaresOnce)
    (hstart : c.catalog.resolve entity = some start) (hrel : c.IsLikeness rel) :
    c.IsPreserved (c.EvaluatesAlike rel start) := by
  intro schema root combinator filter reading parts _ _ hparts hroot b b' hb
  refine combinedPredicate_induct (motive := fun q => q.evaluate b = q.evaluate b') rfl ?_ ?_ ?_
  · intro p q hp hq
    rw [Predicate.evaluate, Predicate.evaluate, hp, hq]
  · intro p q hp hq
    rw [Predicate.evaluate, Predicate.evaluate, hp, hq]
  · intro piece hpiece
    obtain ⟨_, hcounted, rfl⟩ := List.mem_map.1 hpiece
    obtain ⟨part, hpart, rfl⟩ := List.mem_map.1 hcounted
    have hevaluate := (hparts part hpart).evaluate_alike hcatalog hstart hrel hroot hb
    change (part.1.negation.apply part.2.predicate).evaluate b =
      (part.1.negation.apply part.2.predicate).evaluate b'
    cases part.1.negation with
    | none => exact hevaluate
    | not =>
      change (Predicate.not _).evaluate b = (Predicate.not _).evaluate b'
      rw [Predicate.evaluate, Predicate.evaluate, hevaluate]

theorem isTrueUnderSome_congr
    (hall : List.Forall₂ (fun b b' => q.evaluate b = q.evaluate b') bindings bindings') :
    q.isTrueUnderSome bindings = q.isTrueUnderSome bindings' := by
  induction hall with
  | nil => rfl
  | cons hb _ ih => rw [Predicate.isTrueUnderSome, Predicate.isTrueUnderSome, hb, ih]

variable {combinator : Combinator} {filter filter' : FilterMap} {compiled : Compiled}

/-- A filter map that compiles passes the same verdict on records that differ in case at most. -/
theorem AlikeRecords.passes_eq (hcatalog : c.catalog.DeclaresOnce)
    (hschema : c.catalog.resolve entity = some schema) (hx : c.AlikeRecords schema x x')
    (hcompiled : c.compileMap schema combinator filter = .ok compiled) :
    compiled.predicate.passes x compiled.joins = compiled.predicate.passes x' compiled.joins := by
  obtain ⟨rel, hrel, hx⟩ := hx
  obtain ⟨nodes, hnodes, hcompile⟩ := bind_eq_ok.1 hcompiled
  have hscoped := (scoped_of_compile hnodes hcompile).1
  obtain ⟨inner, hinner, hresult⟩ :=
    compile_induct (isPreserved_evaluatesAlike hcatalog hschema hrel) hnodes hcompile
  have hpredicate : compiled.predicate = inner.predicate := by rw [hresult]
  have hchoices := alikeBindings_expand hrel hx (hscoped.relations schema .root)
  unfold Predicate.passes
  generalize Binding.expand x compiled.joins = xs,
    Binding.expand x' compiled.joins = xs' at hchoices
  cases hchoices with
  | error => rfl
  | ok hall =>
    refine isTrueUnderSome_congr (hall.imp fun b b' hb => ?_)
    rw [hpredicate]
    exact hinner .root b b' hb

/-- **Letter case does not matter**: filter maps that differ at most in the case of texts given to
fields or identities of type `String` compile to the same predicate and joins, or neither compiles;
and what a filter map compiles to says the same of records that differ at most in the case of their
texts, whatever records are related to them. -/
theorem case_insensitive (combinator : Combinator) (hcatalog : c.catalog.DeclaresOnce)
    (hschema : c.catalog.resolve entity = some schema) :
    (∀ filter filter', c.AlikeMaps schema filter filter' → ∀ compiled,
      c.compileMap schema combinator filter = .ok compiled ↔
        c.compileMap schema combinator filter' = .ok compiled) ∧
    ∀ filter compiled, c.compileMap schema combinator filter = .ok compiled →
      ∀ (R : Type) [Filterable R] (record record' : R), c.AlikeRecords schema record record' →
        compiled.predicate.passes record compiled.joins =
          compiled.predicate.passes record' compiled.joins := by
  refine ⟨fun filter filter' h compiled => h.compileMap_iff, ?_⟩
  intro filter compiled hcompiled R _ record record' h
  exact h.passes_eq hcatalog hschema hcompiled

end FilterContext

/-! ## Books -/

theorem Catalog.library_declaresOnce : Catalog.library.DeclaresOnce := by
  refine declaresOnce_ofList fun e he => ?_
  rcases List.mem_pair.1 he with rfl | rfl
  · exact ⟨_, _, rfl⟩
  · exact ⟨_, _, rfl⟩

/-- An author of this name. -/
def Document.author (name : String) : Document := ⟨[("name", .string name)], []⟩

/-- A book with this title, by an author of this name. -/
def Document.book (title author : String) : Document :=
  ⟨[("title", .string title)], [("author", [.author author])]⟩

namespace FilterContext

theorem alikeRecords_book {c : FilterContext} (hcatalog : c.catalog = .library)
    {title title' author author' : String} (htitle : Text.upper title = Text.upper title')
    (hauthor : Text.upper author = Text.upper author') :
    c.AlikeRecords .book (Document.book title author) (Document.book title' author') := by
  refine ⟨fun s x x' => s = .book ∧ x = .book title author ∧ x' = .book title' author' ∨
    s = .author ∧ x = .author author ∧ x' = .author author', ⟨?_, ?_⟩, .inl ⟨rfl, rfl, rfl⟩⟩
  · rintro s x x' (⟨rfl, rfl, rfl⟩ | ⟨rfl, rfl, rfl⟩) name
    · by_cases hname : "title" = name
      · subst hname
        exact .inr ⟨.inl rfl, _, _, rfl, rfl, _, _, rfl, rfl, htitle⟩
      · exact .inl (by simp [Filterable.value?, Document.book, Keyed.get?_cons, hname])
    · by_cases hname : "name" = name
      · subst hname
        exact .inr ⟨.inl rfl, _, _, rfl, rfl, _, _, rfl, rfl, hauthor⟩
      · exact .inl (by simp [Filterable.value?, Document.author, Keyed.get?_cons, hname])
  · rintro s x x' (⟨rfl, rfl, rfl⟩ | ⟨rfl, rfl, rfl⟩) name r hr
    · have hmem := Keyed.mem_of_get? hr
      simp only [FieldSchema.book, List.mem_cons, Prod.mk.injEq, reduceCtorEq, and_false, false_or,
        FieldKind.relation.injEq, List.not_mem_nil, or_false] at hmem
      obtain ⟨rfl, rfl⟩ := hmem
      have htarget : c.target ⟨"author", .entity, .eager, "author_id", "id", some ("id", .i64)⟩ =
          .author := by
        rw [target, hcatalog]
        rfl
      rw [htarget]
      exact .some (.cons (.inr ⟨rfl, rfl, rfl⟩) .nil)
    · have hmem := Keyed.mem_of_get? hr
      simp [FieldSchema.author] at hmem

/-- Books named Dune that are not by one called Herbert: the filter, and a book, are written in two
ways. -/
theorem case_insensitive_library :
    let c : FilterContext := ⟨.library, "page", .builtIn, .utc⟩
    let filter (title name : String) : FilterMap :=
      [("title", .str title), ("NOT", .obj [("author", .obj [("name", .str name)])])]
    c.catalog.DeclaresOnce ∧ c.catalog.resolve "book" = some .book ∧
    c.AlikeMaps .book (filter "Dune" "%herbert") (filter "DUNE" "%Herbert") ∧
    c.AlikeRecords .book (Document.book "Dune" "Frank Herbert") (.book "dune" "FRANK HERBERT") ∧
    ∃ compiled, c.compileMap .book .and (filter "Dune" "%herbert") = .ok compiled ∧
      c.compileMap .book .and (filter "DUNE" "%Herbert") = .ok compiled ∧
      compiled.predicate.passes (Document.book "Dune" "Frank Herbert") compiled.joins =
        compiled.predicate.passes (Document.book "dune" "FRANK HERBERT") compiled.joins := by
  intro c filter
  have hschema : c.catalog.resolve "book" = some .book := rfl
  have hfilters : c.AlikeMaps .book (filter "Dune" "%herbert") (filter "DUNE" "%Herbert") := by
    refine .cons rfl rfl (fun kind hkind => ?_) (.cons rfl rfl (fun kind hkind => ?_) (.nil _))
    · cases hkind
      exact .text rfl nofun (congrArg Json.str (by decide +kernel))
    · cases hkind
      refine .nested rfl rfl (.cons rfl rfl (fun kind hkind => ?_) (.nil _))
      cases hkind
      exact .text rfl nofun (congrArg Json.str (by decide +kernel))
  have hrecords :
      c.AlikeRecords .book (Document.book "Dune" "Frank Herbert") (.book "dune" "FRANK HERBERT") :=
    alikeRecords_book rfl (by decide +kernel) (by decide +kernel)
  obtain ⟨compiled, hcompiled⟩ :
      ∃ compiled, c.compileMap .book .and (filter "Dune" "%herbert") = .ok compiled := ⟨_, rfl⟩
  obtain ⟨hmaps, hverdicts⟩ := case_insensitive .and Catalog.library_declaresOnce hschema
  exact ⟨Catalog.library_declaresOnce, hschema, hfilters, hrecords, compiled, hcompiled,
    (hmaps _ _ hfilters compiled).1 hcompiled,
    hverdicts _ compiled hcompiled Document _ _ hrecords⟩

end FilterContext

end RowFilter
