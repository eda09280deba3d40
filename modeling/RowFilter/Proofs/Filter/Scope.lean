import RowFilter.Proofs.Filter.Outcome
import RowFilter.Proofs.Query.Scope
import RowFilter.Query.Document

/-!
# Compiled filters are well scoped

A filter map that compiles gives joins that each follow a relation of the schemas, after the join of
their owner, and a predicate that reads only the root record and what is joined. So a compiled
filter has an SQL form, and its evaluation fails only because of what a record holds.
-/

namespace RowFilter

/-! ## Joins that occur once -/

namespace Compiled

variable {joins : List Join} {join : Join} {p : Path}

theorem mem_of_mem_distinctJoins (h : join ∈ distinctJoins joins) : join ∈ joins := by
  induction joins with
  | nil => cases h
  | cons first rest ih =>
    rcases List.mem_cons.1 h with rfl | h
    · exact List.mem_cons_self
    · exact List.mem_cons_of_mem _ (ih (List.mem_of_mem_filter h))

/-- No path is lost with the joins that are left out. -/
theorem mem_paths_distinctJoins :
    p ∈ (distinctJoins joins).map Join.path ↔ p ∈ joins.map Join.path := by
  induction joins with
  | nil => exact Iff.rfl
  | cons first rest ih =>
    rw [distinctJoins, List.map_cons, List.map_cons, List.mem_cons, List.mem_cons, ← ih]
    refine or_congr_right' fun hne => ?_
    simp only [List.mem_map, List.mem_filter, decide_eq_true_eq]
    constructor
    · rintro ⟨join, ⟨hjoin, _⟩, hp⟩
      exact ⟨join, hjoin, hp⟩
    · rintro ⟨join, hjoin, hp⟩
      exact ⟨join, ⟨hjoin, fun heq => hne (hp ▸ heq)⟩, hp⟩

theorem nodup_paths_distinctJoins : ((distinctJoins joins).map Join.path).Nodup := by
  induction joins with
  | nil => exact List.nodup_nil
  | cons first rest ih =>
    rw [distinctJoins, List.map_cons, List.nodup_cons]
    constructor
    · intro h
      obtain ⟨join, hjoin, heq⟩ := List.mem_map.1 h
      exact of_decide_eq_true (List.mem_filter.1 hjoin).2 heq
    · exact ih.sublist (List.filter_sublist.map _)

theorem ownersFirst_distinctJoins {known : List Path} (h : Join.OwnersFirst known joins) :
    Join.OwnersFirst known (distinctJoins joins) := by
  induction joins generalizing known with
  | nil => trivial
  | cons join rest ih => exact ⟨h.1, (ih h.2).filter_ne List.mem_cons_self⟩

end Compiled

/-! ## Paths of compiled conditions -/

namespace Predicate

/-- Whether a predicate is well-formed and reads only paths for which `P` holds. -/
def Reads (P : Path → Prop) (p : Predicate) : Prop := p.isWellFormed = .true ∧ ∀ q ∈ p.paths, P q

variable {P P' : Path → Prop} {p q : Predicate}

theorem Reads.imp (h : p.Reads P) (himp : ∀ path, P path → P' path) : p.Reads P' :=
  ⟨h.1, fun path hpath => himp path (h.2 path hpath)⟩

theorem Reads.and (hp : p.Reads P) (hq : q.Reads P) : (and p q).Reads P :=
  ⟨Bool.and_eq_true_iff.2 ⟨hp.1, hq.1⟩, List.forall_mem_append.2 ⟨hp.2, hq.2⟩⟩

theorem Reads.or (hp : p.Reads P) (hq : q.Reads P) : (or p q).Reads P :=
  ⟨Bool.and_eq_true_iff.2 ⟨hp.1, hq.1⟩, List.forall_mem_append.2 ⟨hp.2, hq.2⟩⟩

theorem Reads.negation (negation : Negation) (h : p.Reads P) : (negation.apply p).Reads P := by
  cases negation with
  | none => exact h
  | not => exact h

theorem reads_true : Predicate.true.Reads P := ⟨rfl, List.forall_mem_nil _⟩

end Predicate

namespace FilterContext

variable {c : FilterContext} {schema : FieldSchema} {root path : Path} {n : FilterNode}
  {type : ScalarType} {p : Predicate} {compiled : Compiled}

theorem isSingle_column : (column type path).isSingle = true := by
  unfold column
  split <;> rfl

theorem paths_column : (column type path).paths = [path] := by
  unfold column
  split <;> rfl

theorem reads_boundsPredicate {ends : Bounds Literal} :
    (boundsPredicate (column type path) ends).Reads (· = path) := by
  cases ends with
  | between | atLeast | atMost =>
    constructor
    · simp [boundsPredicate, Predicate.isWellFormed, isSingle_column, Expr.isSingle]
    · simp [boundsPredicate, Predicate.paths, paths_column, Expr.paths]

theorem pathsOfItems_literals (ls : List Literal) :
    Expr.pathsOfItems (ls.map .literal) = [] := by
  induction ls with
  | nil => rfl
  | cons l rest ih => exact ih

/-- The predicate of a condition on a column reads that column only. -/
theorem ValueOutcome.reads {condition : Condition} (h : ValueOutcome c type path condition p) :
    p.Reads (· = path) := by
  cases h with
  | absent => exact ⟨rfl, by simp [Predicate.paths, Expr.paths]⟩
  | equals | like =>
    constructor
    · simp [Predicate.isWellFormed, isSingle_column, Expr.isSingle]
    · simp [Predicate.paths, paths_column, Expr.paths]
  | isIn =>
    constructor
    · simp [Predicate.isWellFormed, isSingle_column, Expr.isLiteral]
    · simp [Predicate.paths, paths_column, Expr.paths, pathsOfItems_literals]
  | @range bounds flags ends hends =>
    refine Predicate.foldl_and_induct (fun _ _ => Predicate.Reads.and) reads_boundsPredicate
      fun q hq => ?_
    split at hq
    · obtain ⟨operator, t, hoperator, rfl⟩ := exists_of_mem_timePredicates hq
      constructor
      · rcases hoperator with rfl | rfl <;> rfl
      · simp [Predicate.paths, Expr.paths]
    · cases hq

end FilterContext

/-! ## Relations of the schemas -/

/-- People who are known by number, with their ages and friends. -/
def Catalog.people : Catalog :=
  .ofList [.ofDeclarations "person"
    [.identity "id", .scalar "id" .i64, .scalar "age" .i64,
      .relation "friends" .collection "person"]]

namespace FilterContext

/-- The schema of the records at a path that follows relations from the records of `start`. -/
inductive Leads (c : FilterContext) (start : FieldSchema) : Path → FieldSchema → Prop where
  | root : Leads c start .root start
  | step {p : Path} {s : FieldSchema} {name : String} {r : Relation} (h : Leads c start p s)
      (hr : s.get? name = some (.relation r)) : Leads c start (p.child name) (c.target r)

/-- Whether a join follows a relation of the schemas from the records of `start`, with its columns
and into the collection of its target. -/
def FollowsRelation (c : FilterContext) (start : FieldSchema) (join : Join) : Prop :=
  ∃ p s name r, join.path = p.child name ∧ c.Leads start p s ∧
    s.get? name = some (.relation r) ∧ join.localKey = r.localKey ∧
    join.foreignKey = r.foreignKey ∧ join.collection = (c.target r).collection

variable {c : FilterContext} {start schema : FieldSchema} {root path : Path} {n : FilterNode}
  {part : Compiled} {r : Relation} {name : String}

/-- What is compiled for the records at a path, which may follow relations from other records. -/
structure Scoped (c : FilterContext) (schema : FieldSchema) (root : Path) (compiled : Compiled) :
    Prop where
  ownersFirst : Join.OwnersFirst [root] compiled.joins
  relations : ∀ start, c.Leads start root schema →
    ∀ join ∈ compiled.joins, c.FollowsRelation start join
  reads : compiled.predicate.Reads fun p =>
    p.parent = root ∨ p.parent ∈ compiled.joins.map Join.path

theorem followsRelation_joinOf {fetch : FetchMode} (h : c.Leads start root schema)
    (hr : schema.get? name = some (.relation r)) :
    c.FollowsRelation start (c.joinOf r (root.child name) fetch) :=
  ⟨root, schema, name, r, rfl, h, hr, rfl, rfl, rfl⟩

/-- Each way to compile a node keeps what it compiles in scope. -/
theorem NodeOutcome.scoped
    (h : NodeOutcome c (fun schema root _ _ compiled => c.Scoped schema root compiled)
      schema root n part) : c.Scoped schema root part := by
  cases h with
  | column _ _ hp | key _ _ _ _ _ hp =>
    refine ⟨trivial, fun _ _ => List.forall_mem_nil _, (compileValue_ok hp).reads.imp ?_⟩
    rintro p rfl
    exact .inl (Path.parent_child _ _)
  | absent =>
    refine ⟨trivial, fun _ _ => List.forall_mem_nil _, rfl, fun p hp => ?_⟩
    rw [List.mem_singleton.1 hp]
    exact .inl (Path.parent_child _ _)
  | @member r _ _ _ hkind _ _ _ _ hp =>
    refine ⟨⟨?_, trivial⟩, fun start hstart => ?_, (compileValue_ok hp).reads.imp ?_⟩
    · rw [joinOf, Path.parent_child]
      exact List.mem_singleton_self _
    · exact List.forall_mem_singleton.2 (followsRelation_joinOf hstart hkind)
    · rintro p rfl
      rw [Path.parent_child]
      exact .inr (List.mem_singleton_self _)
  | @joined r filter inner hkind _ hinner =>
    refine ⟨⟨?_, hinner.ownersFirst.mono ?_⟩, fun start hstart => ?_, hinner.reads.imp ?_⟩
    · rw [joinOf, Path.parent_child]
      exact List.mem_singleton_self _
    · exact List.cons_subset_cons _ (List.nil_subset _)
    · exact List.forall_mem_cons.2 ⟨followsRelation_joinOf hstart hkind,
        hinner.relations start (.step hstart hkind)⟩
    · rintro p (hp | hp)
      · exact .inr (hp ▸ List.mem_cons_self)
      · exact .inr (List.mem_cons_of_mem _ hp)

theorem Scoped.negated (negation : Negation) (h : c.Scoped schema root part) :
    c.Scoped schema root (part.negated negation) :=
  ⟨h.ownersFirst, h.relations, h.reads.negation negation⟩

theorem Scoped.combine {pieces : List (Combinator × Compiled)}
    (h : ∀ piece ∈ pieces, c.Scoped schema root piece.2) :
    c.Scoped schema root (.combine pieces) := by
  refine ⟨.flatMap fun piece hpiece => (h piece hpiece).ownersFirst,
    fun start hstart join hjoin => ?_, ?_⟩
  · obtain ⟨piece, hpiece, hjoin⟩ := List.mem_flatMap.1 hjoin
    exact (h piece hpiece).relations start hstart join hjoin
  · refine combinedPredicate_induct Predicate.reads_true (fun _ _ => .and) (fun _ _ => .or) ?_
    intro piece' hpiece'
    obtain ⟨piece, hpiece, rfl⟩ := List.mem_map.1 hpiece'
    refine (h piece hpiece).reads.imp fun p hp => hp.imp_right fun hp => ?_
    obtain ⟨join, hjoin, heq⟩ := List.mem_map.1 hp
    exact List.mem_map.2 ⟨join, List.mem_flatMap.2 ⟨piece, hpiece, hjoin⟩, heq⟩

/-- Every level is in scope if the filters nested in it are. -/
theorem isPreserved_scoped :
    c.IsPreserved fun schema root _ _ compiled => c.Scoped schema root compiled := by
  intro schema root combinator filter reading parts _ _ hparts
  refine .combine fun piece hpiece => ?_
  obtain ⟨part, hpart, rfl⟩ := List.mem_map.1 hpiece
  exact (hparts part hpart).scoped.negated _

theorem Scoped.distinctJoins (h : c.Scoped schema root part) :
    c.Scoped schema root ⟨part.predicate, Compiled.distinctJoins part.joins⟩ :=
  ⟨Compiled.ownersFirst_distinctJoins h.ownersFirst,
    fun start hstart join hjoin =>
      h.relations start hstart join (Compiled.mem_of_mem_distinctJoins hjoin),
    h.reads.imp fun _ hp => hp.imp_right Compiled.mem_paths_distinctJoins.2⟩

variable {combinator : Combinator} {filter : FilterMap} {nodes : List FilterNode}
  {compiled : Compiled}

theorem scoped_of_compile
    (hnodes : FilterNode.ofMap schema c.pageKey combinator filter = .ok nodes)
    (hcompile : c.compile schema nodes = .ok compiled) :
    c.Scoped schema .root compiled ∧ (compiled.joins.map Join.path).Nodup := by
  obtain ⟨inner, hinner, rfl⟩ := compile_induct isPreserved_scoped hnodes hcompile
  exact ⟨hinner.distinctJoins, Compiled.nodup_paths_distinctJoins⟩

/-- **Compiled filters are well scoped**: the joins of a filter map that compiles are distinct, come
after their owners and follow relations of the schemas, and the predicate reads what is joined. So
the filter has an SQL form, and on any record only what the record holds can make it fail. -/
theorem compile_scoped
    (hnodes : FilterNode.ofMap schema c.pageKey combinator filter = .ok nodes)
    (hcompile : c.compile schema nodes = .ok compiled) :
    ((compiled.joins.map Join.path).Nodup ∧
      ∀ before join after, compiled.joins = before ++ join :: after →
        join.path.parent = .root ∨ ∃ owner ∈ before, owner.path = join.path.parent) ∧
    (∀ join ∈ compiled.joins, c.FollowsRelation schema join) ∧
    (∀ p ∈ compiled.predicate.paths,
      p.parent = .root ∨ ∃ join ∈ compiled.joins, join.path = p.parent) ∧
    (∀ table order limit offset, (∀ item ∈ order.getD [], item.path.parent = .root) →
      ∃ statement, Sql.select table ⟨compiled.predicate, compiled.joins, order, limit, offset⟩ =
        .ok statement) ∧
    ∀ (R : Type) [Filterable R] (record : R) (e : EvalError),
      compiled.predicate.passes record compiled.joins = .error e → e.isOfRecord = true := by
  obtain ⟨hscoped, hnodup⟩ := scoped_of_compile hnodes hcompile
  refine ⟨⟨hnodup, ?_⟩, hscoped.relations schema .root, ?_, ?_, ?_⟩
  · intro before join after hjoins
    have howners := hscoped.ownersFirst
    rw [hjoins] at howners
    exact howners.parent.imp List.mem_singleton.1 List.mem_map.1
  · exact fun p hp => (hscoped.reads.2 p hp).imp_right List.mem_map.1
  · exact fun table order limit offset horder =>
      Sql.select_of_scoped hscoped.ownersFirst hscoped.reads.1 hscoped.reads.2 horder
  · exact fun R _ record e he =>
      Predicate.isOfRecord_of_passes hscoped.ownersFirst hscoped.reads.1 hscoped.reads.2 he

/-- Persons of unknown age with a friend of at least 30: the friends are joined, there is an SQL
form, and on any document only what the document holds can make the filter fail. -/
theorem compile_scoped_friends :
    let c : FilterContext := ⟨.people, "page", .builtIn, .utc⟩
    let filter : FilterMap :=
      [("age", .null), ("friends", .obj [("age", .obj [("from", .ofNat 30)])])]
    ∃ schema nodes compiled, c.catalog.resolve "person" = some schema ∧
      FilterNode.ofMap schema c.pageKey .and filter = .ok nodes ∧
      c.compile schema nodes = .ok compiled ∧
      compiled.joins.map Join.path = [.simple "friends"] ∧
      (∃ statement, Sql.select schema.collection
        ⟨compiled.predicate, compiled.joins, none, none, none⟩ = .ok statement) ∧
      ∀ (document : Document) (e : EvalError),
        compiled.predicate.passes document compiled.joins = .error e → e.isOfRecord = true := by
  intro c filter
  obtain ⟨schema, nodes, compiled, hschema, hnodes, hcompile, hjoins⟩ :
      ∃ schema nodes compiled, c.catalog.resolve "person" = some schema ∧
        FilterNode.ofMap schema c.pageKey .and filter = .ok nodes ∧
        c.compile schema nodes = .ok compiled ∧
        compiled.joins.map Join.path = [.simple "friends"] := ⟨_, _, _, rfl, rfl, rfl, rfl⟩
  obtain ⟨_, _, _, hselect, hrecord⟩ := compile_scoped hnodes hcompile
  exact ⟨schema, nodes, compiled, hschema, hnodes, hcompile, hjoins,
    hselect _ none none none nofun, hrecord Document⟩

end FilterContext

end RowFilter
