import RowFilter.Proofs.Filter.Related
import RowFilter.Proofs.Query.OwnFields
import RowFilter.Proofs.Schema.Identity

/-!
# A relation by its key

A condition on a relation to one record compares the key that the owner has stored. The same
condition on the identity of the record, inside a filter on the relation, follows the key and
compares what the record says of itself. In a store whose keys lead to the records that they name,
both select the same rows.
-/

namespace RowFilter

/-! ## Rows of related records -/

/-- Whether the records of a collection keep a relation to one record by key: under its name they
have no value, and at most one key, which leads to a record of the target's collection; and the
records there hold their keys under the name of the identity. -/
structure MemoryStore.KeepsKeys (store : MemoryStore) (collection relation : String)
    (target : FieldSchema) (identity : String) (kind : ScalarKind) : Prop where
  noValue : ∀ record ∈ store.records collection, record.get? relation = none
  single : ∀ record ∈ store.records collection, ∀ links, record.links? relation = some links →
    links.keys.length ≤ 1
  leads : ∀ record ∈ store.records collection, ∀ links, record.links? relation = some links →
    ∀ key ∈ links.keys, key.kind? = some kind ∧ links.collection = target.collection ∧
      ∃ related, store.find? links.collection key = some related
  identity : ∀ record ∈ store.records target.collection, ∃ l, record.value? identity = some l ∧
    l.kind? = some kind ∧ l.equal record.key = true

/-- Where a relation of a row leads to: nowhere, or to the one record that its key names. -/
inductive Row.Leads (row : Row) (relation identity : String) (kind : ScalarKind) : Prop where
  | nowhere (hvalue : row.valueOrNull relation = .null) (hrelated : row.related? relation = some [])
  | toOne {related : Row} (hrelated : row.related? relation = some [related])
      (hsame : (row.valueOrNull relation).Same (related.valueOrNull identity))
      (hkind : (row.valueOrNull relation).kind? = some kind)

theorem MemoryStore.KeepsKeys.row_leads {store : MemoryStore}
    {collection relation identity : String} {target : FieldSchema} {kind : ScalarKind}
    (h : store.KeepsKeys collection relation target identity kind) (hkind : kind.isOrdered = true)
    {row : Row} (hrow : row ∈ store.rows collection) : row.Leads relation identity kind := by
  obtain ⟨record, hrecord, rfl⟩ := List.mem_map.1 hrow
  have hnone := h.noValue record hrecord
  cases hlinks : record.links? relation with
  | none =>
    refine .nowhere ?_ ?_
    · simp [Row.valueOrNull, Record.value?, hnone, hlinks]
    · simp [Row.related?, hnone, hlinks]
  | some links =>
    have hvalue : Row.valueOrNull ⟨store, record⟩ relation = links.firstKey := by
      simp [Row.valueOrNull, Record.value?, hnone, hlinks]
    have hrelated : Row.related? ⟨store, record⟩ relation = some (links.keys.filterMap fun key =>
        (store.find? links.collection key).map (Row.mk store)) := by
      simp [Row.related?, hlinks]
    have hsingle := h.single record hrecord links hlinks
    have hleads := h.leads record hrecord links hlinks
    rw [Links.firstKey] at hvalue
    generalize links.keys = keys at hvalue hrelated hsingle hleads
    match keys, hsingle with
    | [], _ => exact .nowhere hvalue hrelated
    | [key], _ =>
      obtain ⟨hkey, hcollection, related, hfind⟩ := hleads key List.mem_cons_self
      obtain ⟨l, hl, hlkind, hequal⟩ := h.identity related
        (hcollection ▸ MemoryStore.mem_records_of_find? hfind)
      have hfound : related.key.equal key = true :=
        List.find?_some (p := fun r : Record => r.key.equal key) hfind
      -- the identity is the key of the record, and the record was found by an equal key
      have hsame : key.Same l :=
        ((Literal.Same.of_equal hkind hlkind hequal).trans (Literal.Same.of_equal hkind
          ((Literal.kind_eq_of_equal hfound).trans hkey) hfound)).symm
      have hidentity : Row.valueOrNull ⟨store, related⟩ identity = l := by
        simp [Row.valueOrNull, hl]
      rw [List.filterMap_cons, hfind] at hrelated
      refine .toOne hrelated ?_ (hvalue ▸ hkey)
      rw [hvalue, hidentity]
      exact hsame

/-! ## Selecting by the key and by the identity -/

theorem Binding.expand_singleton {R : Type} [Filterable R] {record : R} {rows : List R}
    {join : Join} {name : String} (hjoin : join.path = Path.root.child name)
    (hrelated : Filterable.related? record name = some rows) :
    expand record [join] = .ok (rows.map ((root record).extend join.path)) := by
  have hfollow : (root record).follow join = .ok (rows.map ((root record).extend join.path)) := by
    rw [follow, hjoin, Path.parent_child, get?_root, if_pos rfl]
    dsimp only
    rw [Path.property_child, hrelated]
  simp [expand, followAll, hfollow, bind, Except.bind, pure, Except.pure]

theorem Predicate.evaluate_negation_of_unknown {R : Type} [Filterable R] {b : Binding R}
    {p : Predicate} (negation : Negation) (h : p.evaluate b = .ok none) :
    (negation.apply p).evaluate b = .ok none := by
  cases negation with
  | none => exact h
  | not =>
    rw [Negation.apply, evaluate, h]
    rfl

/-- Selections that accept the same rows find the same rows. -/
theorem MemoryStore.passing_congr {s t : Selection} {rows : List Row}
    (h : ∀ row ∈ rows, ∀ result, s.predicate.passes row s.joins = .ok result ↔
      t.predicate.passes row t.joins = .ok result) (found : List Row) :
    passing s rows = .ok found ↔ passing t rows = .ok found := by
  induction rows generalizing found with
  | nil => exact Iff.rfl
  | cons row rest ih =>
    obtain ⟨hrow, hrest⟩ := List.forall_mem_cons.1 h
    simp only [passing, bind_eq_ok, hrow, ih hrest]

/-- What a compiled filter takes from a collection, in an order and a window. -/
def Compiled.selection (k : Compiled) (orderBy : Option (List OrderItem))
    (limit offset : Option Nat) : Selection :=
  ⟨k.predicate, k.joins, orderBy, limit, offset⟩

namespace FilterContext

variable {c : FilterContext} {schema target : FieldSchema} {combinator : Combinator}
  {filter filter' : FilterMap} {relation identity : String} {rel : Relation} {type : ScalarType}
  {value : Json} {p q : Predicate} {negation : Negation} {store : MemoryStore} {row : Row}

/-- Whether one filter map compiles if another does, and both then select the same records in every
order and window; with the built-in casters they always succeed. -/
structure SelectAlike (c : FilterContext) (store : MemoryStore) (schema : FieldSchema)
    (combinator : Combinator) (filter filter' : FilterMap) : Prop where
  compiles : (∃ k, c.compileMap schema combinator filter = .ok k) ↔
    ∃ k, c.compileMap schema combinator filter' = .ok k
  selects : ∀ k k', c.compileMap schema combinator filter = .ok k →
    c.compileMap schema combinator filter' = .ok k' → ∀ orderBy limit offset records,
      store.fetch schema.collection (k.selection orderBy limit offset) = .ok records ↔
        store.fetch schema.collection (k'.selection orderBy limit offset) = .ok records
  succeeds : c.casters = .builtIn → ∀ k, c.compileMap schema combinator filter = .ok k →
    ∀ orderBy limit offset, ∃ records,
      store.fetch schema.collection (k.selection orderBy limit offset) = .ok records

/-- A row passes a condition on the key of a relation if it passes the condition on the identity
behind the relation. A row that the relation leads nowhere from passes neither: the one is unknown of
it, and the other is asked of no record. -/
theorem ValueCompiles.passes_iff (hp : c.ValueCompiles type value (Path.root.child relation) p)
    (hq : c.ValueCompiles type value ((Path.root.child relation).child identity) q)
    (hpresent : value.isNull = false) (hflat : Condition.nested? value = none)
    (htype : type.kind ≠ .other) (negation : Negation)
    (hrow : row.Leads relation identity type.kind) {join : Join}
    (hjoin : join.path = Path.root.child relation) (result : Bool) :
    (negation.apply p).passes row [] = .ok result ↔
      (negation.apply q).passes row [join] = .ok result := by
  have hkey : (Expr.path (Path.root.child relation)).evaluate (Binding.root row) =
      .ok (row.valueOrNull relation) := evaluate_child (by simp) relation
  rw [Predicate.passes_alone]
  cases hrow with
  | nowhere hvalue hrelated =>
    have hunknown : p.evaluate (Binding.root row) = .ok none :=
      hp.evaluate_of_null hpresent (hvalue ▸ hkey)
    -- without a related record there is no choice to try, negated or not
    have hpasses : (negation.apply q).passes row [join] = .ok false := by
      rw [Predicate.passes, Binding.expand_singleton hjoin hrelated]
      rfl
    rw [Predicate.evaluate_negation_of_unknown negation hunknown, hpasses]
    simp [eq_comm]
  | @toOne related hrelated hsame hkind =>
    have hbound : ((Binding.root row).extend join.path related).get? (Path.root.child relation) =
        some related := by
      rw [← hjoin]
      refine Binding.get?_extend_self ?_
      rw [hjoin, Binding.get?_root, if_neg (Path.child_ne_root _ _)]
    have hread : (Expr.path (Path.root.child relation)).ReadAlike (Binding.root row)
        ((Binding.root row).extend join.path related) type.kind
        (.path ((Path.root.child relation).child identity)) :=
      ⟨_, _, hkey, evaluate_child hbound identity, hsame, hkind⟩
    have hagree := (hp.agree hq hflat htype hread).negation negation
    have hpasses : (negation.apply q).passes row [join] = (negation.apply q).isTrueUnderSome
        [(Binding.root row).extend join.path related] := by
      rw [Predicate.passes, Binding.expand_singleton hjoin hrelated]
      rfl
    rw [hpasses, Predicate.isTrueUnderSome_singleton]
    exact exists_congr fun t => and_congr_left' (hagree t)

theorem ValueCompiles.exists_passes (hp : c.ValueCompiles type value (Path.root.child relation) p)
    (hcasters : c.casters = .builtIn) (htype : type.kind.isOrdered = true) (negation : Negation)
    (hrow : row.Leads relation identity type.kind) :
    ∃ result, (negation.apply p).passes row [] = .ok result := by
  have hkey : (Expr.path (Path.root.child relation)).evaluate (Binding.root row) =
      .ok (row.valueOrNull relation) := evaluate_child (by simp) relation
  have hfits : (row.valueOrNull relation).Fits type.kind := by
    cases hrow with
    | nowhere hvalue => exact .inl hvalue
    | toOne _ _ hkind => exact .inr hkind
  obtain ⟨_, _, hsuits, hp⟩ := hp
  obtain ⟨t, ht⟩ := (hp.evaluates hsuits hcasters htype hkey hfits).negation negation
  exact ⟨_, Predicate.passes_alone.2 ⟨t, ht, rfl⟩⟩

theorem exists_fetch {k : Compiled} {orderBy : Option (List OrderItem)} {limit offset : Option Nat}
    (h : ∀ row ∈ store.rows schema.collection, ∃ result,
      k.predicate.passes row k.joins = .ok result) :
    ∃ records, store.fetch schema.collection (k.selection orderBy limit offset) = .ok records := by
  obtain ⟨found, hfound⟩ : ∃ found, store.matching schema.collection
      (k.selection orderBy limit offset) = .ok found := MemoryStore.exists_passing h
  exact ⟨_, MemoryStore.fetch_eq_ok.2 ⟨found, hfound, rfl⟩⟩

theorem selectAlike_of_entries (h : c.LeadsToOne schema relation rel target identity type)
    (hrelation : Naming.camelCase relation = relation)
    (hidentity : Naming.camelCase identity = identity) (htype : type.kind.isOrdered = true)
    (hstore : store.KeepsKeys schema.collection relation target identity type.kind)
    (hpresent : value.isNull = false) (hflat : Condition.nested? value = none)
    (hkey : FilterEntry.ofMap c.pageKey filter = [⟨negation, relation, value⟩])
    (hrelated : FilterEntry.ofMap c.pageKey filter' =
      [⟨negation, relation, .obj [(identity, value)]⟩]) :
    c.SelectAlike store schema combinator filter filter' := by
  have hcompileKey : ∀ {k}, c.compileMap schema combinator filter = .ok k ↔
      ∃ p, c.ValueCompiles type value (Path.root.child relation) p ∧
        k = ⟨negation.apply p, []⟩ := by
    intro k
    rw [compileMap_key h hflat hkey, hrelation]
  have hcompileRelated : ∀ {k}, c.compileMap schema combinator filter' = .ok k ↔
      ∃ q, c.ValueCompiles type value ((Path.root.child relation).child identity) q ∧
        k = ⟨negation.apply q, [c.joinOf rel (Path.root.child relation) rel.fetch]⟩ := by
    intro k
    rw [compileMap_related h hrelated, hrelation, hidentity]
  have hrows : ∀ row ∈ store.rows schema.collection, row.Leads relation identity type.kind :=
    fun row => hstore.row_leads htype
  constructor
  · constructor
    · rintro ⟨k, hk⟩
      obtain ⟨p, hp, rfl⟩ := hcompileKey.1 hk
      obtain ⟨q, hq⟩ := hp.relocate hflat ((Path.root.child relation).child identity)
      exact ⟨_, hcompileRelated.2 ⟨q, hq, rfl⟩⟩
    · rintro ⟨k, hk⟩
      obtain ⟨q, hq, rfl⟩ := hcompileRelated.1 hk
      obtain ⟨p, hp⟩ := hq.relocate hflat (Path.root.child relation)
      exact ⟨_, hcompileKey.2 ⟨p, hp, rfl⟩⟩
  · intro k k' hk hk' orderBy limit offset records
    obtain ⟨p, hp, rfl⟩ := hcompileKey.1 hk
    obtain ⟨q, hq, rfl⟩ := hcompileRelated.1 hk'
    rw [MemoryStore.fetch_eq_ok, MemoryStore.fetch_eq_ok]
    refine exists_congr fun found => and_congr_left' (MemoryStore.passing_congr ?_ found)
    intro row hrow
    exact hp.passes_iff hq hpresent hflat (ScalarKind.ne_other_of_isOrdered htype) negation
      (hrows row hrow) rfl
  · intro hcasters k hk orderBy limit offset
    obtain ⟨p, hp, rfl⟩ := hcompileKey.1 hk
    refine exists_fetch fun row hrow => ?_
    exact hp.exists_passes hcasters htype negation (hrows row hrow)

theorem selectAlike_of_nothing (hfilter : FilterEntry.ofMap c.pageKey filter = [])
    (hfilter' : FilterEntry.ofMap c.pageKey filter' = []) :
    c.SelectAlike store schema combinator filter filter' := by
  have hnothing : ∀ {filter : FilterMap}, FilterEntry.ofMap c.pageKey filter = [] →
      ∀ {k}, c.compileMap schema combinator filter = .ok k ↔ k = .everything := by
    intro filter hfilter k
    rw [compileMap_columns hfilter (List.forall_mem_nil _)]
    constructor
    · rintro ⟨ps, hps, rfl⟩
      cases hps
      rfl
    · rintro rfl
      exact ⟨[], .nil, rfl⟩
  constructor
  · simp only [hnothing hfilter, hnothing hfilter']
  · intro k k' hk hk' orderBy limit offset records
    rw [(hnothing hfilter).1 hk, (hnothing hfilter').1 hk']
  · intro _ k hk orderBy limit offset
    rw [(hnothing hfilter).1 hk]
    exact exists_fetch fun row _ => ⟨true, rfl⟩

/-- **A relation by its key or by the identity behind it**: where a relation leads to one record,
which the key of the owner names, a condition on the relation and the same condition on the identity
inside a filter on the relation compile or fail together, and select the same records; and so do
their negations. -/
theorem select_by_key_or_identity {entity : String} (combinator : Combinator)
    (hcatalog : c.catalog.DeclaresOnce)
    (hschema : c.catalog.resolve entity = some schema)
    (hrelation : c.NamesField schema relation (.relation rel)) (hone : rel.cardinality = .one)
    (htarget : c.catalog.resolve rel.target = some target)
    (hidentity : target.identity = some identity)
    (hscalar : c.NamesField target identity (.scalar type))
    (htype : type.kind.isOrdered = true)
    (hcamelCase : Naming.camelCase relation = relation ∧ Naming.camelCase identity = identity)
    (hbound : identity ≠ "from" ∧ identity ≠ "to")
    (hstore : store.KeepsKeys schema.collection relation target identity type.kind)
    (hpresent : value.isNull = false) (hflat : Condition.nested? value = none) :
    c.SelectAlike store schema combinator [(relation, value)]
        [(relation, .obj [(identity, value)])] ∧
      ∀ notKey, FilterEntry.isNotKey notKey = true →
        c.SelectAlike store schema combinator [(notKey, .obj [(relation, value)])]
          [(notKey, .obj [(relation, .obj [(identity, value)])])] := by
  have hrecorded : rel.identity = some (identity, type) := by
    have hr := hrelation.declared
    have hi := hscalar.declared
    rw [hcamelCase.1] at hr
    rw [hcamelCase.2] at hi
    exact Catalog.identity_of_relation hcatalog hschema hr htarget hidentity hi
  have hleads : c.LeadsToOne schema relation rel target identity type :=
    ⟨hrelation, hone, by rw [FilterContext.target, htarget]; rfl, hrecorded, hscalar, hbound⟩
  constructor
  · exact selectAlike_of_entries hleads hcamelCase.1 hcamelCase.2 htype hstore hpresent hflat
      (FilterEntry.ofMap_singleton hrelation.notPage hrelation.notNegation)
      (FilterEntry.ofMap_singleton hrelation.notPage hrelation.notNegation)
  · intro notKey hnot
    by_cases hpage : notKey = c.pageKey
    · -- the page key wins: neither map states a condition
      subst hpage
      exact selectAlike_of_nothing FilterEntry.ofMap_pageKey FilterEntry.ofMap_pageKey
    · exact selectAlike_of_entries hleads hcamelCase.1 hcamelCase.2 htype hstore hpresent hflat
        (FilterEntry.ofMap_negation hpage hnot) (FilterEntry.ofMap_negation hpage hnot)

end FilterContext

/-- Tasks, each of which may have an owner, who is known by a rank. -/
def Catalog.tasks : Catalog :=
  .ofList [
    .ofDeclarations "task" [.identity "id", .scalar "id" .i64, .relation "owner" .entity "person"],
    .ofDeclarations "person" [.identity "rank", .scalar "rank" .decimal]]

theorem Catalog.tasks_declaresOnce : Catalog.tasks.DeclaresOnce := by
  refine declaresOnce_ofList (List.forall_mem_cons.2 ⟨⟨_, _, rfl⟩, ?_⟩)
  exact List.forall_mem_singleton.2 ⟨_, _, rfl⟩

/-- The owner of a task. -/
def Relation.owner : Relation :=
  ⟨"person", .entity, .eager, "owner_id", "rank", some ("rank", .decimal)⟩

/-- What a task has. -/
def FieldSchema.task : FieldSchema :=
  ⟨"task", "task", some "id", [("id", .scalar .i64), ("owner", .relation .owner)]⟩

/-- What an owner has. -/
def FieldSchema.owner : FieldSchema :=
  ⟨"person", "person", some "rank", [("rank", .scalar .decimal)]⟩

/-- A task, with the key of its owner. -/
def Record.task (id : Int64) (owner : Option Number.Decimal) : Record :=
  ⟨.i64 id, [("id", .i64 id)], [("owner", .one "person" (owner.map .decimal))]⟩

/-- An owner, whose rank may be written with other places than the key. -/
def Record.owner (key rank : Number.Decimal) : Record :=
  ⟨.decimal key, [("rank", .decimal rank)], []⟩

/-- A task with an owner of rank `1.5`, one without an owner, and one with an owner of rank `7`. -/
def MemoryStore.tasks : MemoryStore :=
  ⟨[
    ("task", [.task 1 (some ⟨15, 1, by decide, by decide⟩), .task 2 none,
      .task 3 (some ⟨7, 0, by decide, by decide⟩)]),
    ("person", [
      .owner ⟨150, 2, by decide, by decide⟩ ⟨1500, 3, by decide, by decide⟩,
      .owner ⟨7, 0, by decide, by decide⟩ ⟨7, 0, by decide, by decide⟩])]⟩

/-- The range from `1.50` to `2`. -/
def Json.lowRanks : Json := .obj [("from", .str "1.50"), ("to", .ofNat 2)]

theorem MemoryStore.tasks_keepsKeys :
    MemoryStore.tasks.KeepsKeys "task" "owner" .owner "rank" .decimal := by
  have htasks : ∀ record ∈ MemoryStore.tasks.records "task",
      record.get? "owner" = none ∧ ∃ key, record.links? "owner" = some (.one "person" key) ∧
        ∀ k ∈ key.toList, k.kind? = some .decimal ∧
          ∃ related, MemoryStore.tasks.find? "person" k = some related := by
    intro record hrecord
    simp only [records, tasks, Keyed.get?, ite_true, Option.getD_some, List.mem_cons,
      List.not_mem_nil, or_false] at hrecord
    rcases hrecord with rfl | rfl | rfl
    · exact ⟨rfl, _, rfl, List.forall_mem_singleton.2 ⟨rfl, _, rfl⟩⟩
    · exact ⟨rfl, _, rfl, List.forall_mem_nil _⟩
    · exact ⟨rfl, _, rfl, List.forall_mem_singleton.2 ⟨rfl, _, rfl⟩⟩
  constructor
  · exact fun record hrecord => (htasks record hrecord).1
  · intro record hrecord links hlinks
    obtain ⟨_, key, hkey, _⟩ := htasks record hrecord
    cases hkey.symm.trans hlinks
    exact Option.length_toList_le
  · intro record hrecord links hlinks k hk
    obtain ⟨_, key, hkey, hleads⟩ := htasks record hrecord
    cases hkey.symm.trans hlinks
    exact ⟨(hleads k hk).1, rfl, (hleads k hk).2⟩
  · intro record hrecord
    rcases List.mem_pair.1 hrecord with rfl | rfl <;> exact ⟨_, rfl, rfl, by decide +kernel⟩

namespace FilterContext

/-- A range of ranks selects the task whose owner has such a rank, by the key or by the rank of the
owner; its negation selects the task with an owner of another rank. The task without an owner is
selected by neither. -/
theorem select_by_key_or_identity_tasks :
    let c : FilterContext := ⟨.tasks, "_page", .builtIn, .utc⟩
    c.catalog.DeclaresOnce ∧ c.catalog.resolve "task" = some .task ∧
      c.NamesField .task "owner" (.relation .owner) ∧
      c.catalog.resolve "person" = some .owner ∧ c.NamesField .owner "rank" (.scalar .decimal) ∧
      MemoryStore.tasks.KeepsKeys "task" "owner" .owner "rank" .decimal ∧
      Json.lowRanks.isNull = false ∧ Condition.nested? .lowRanks = none ∧
      FilterEntry.isNotKey "not" = true ∧
      c.SelectAlike .tasks .task .and [("owner", .lowRanks)]
        [("owner", .obj [("rank", .lowRanks)])] ∧
      c.SelectAlike .tasks .task .and [("not", .obj [("owner", .lowRanks)])]
        [("not", .obj [("owner", .obj [("rank", .lowRanks)])])] ∧
      ∃ k l, c.compileMap .task .and [("owner", .lowRanks)] = .ok k ∧
        c.compileMap .task .and [("not", .obj [("owner", .lowRanks)])] = .ok l ∧
        MemoryStore.tasks.fetch "task" (k.selection none none none) =
          .ok [.task 1 (some ⟨15, 1, by decide, by decide⟩)] ∧
        MemoryStore.tasks.fetch "task" (l.selection none none none) =
          .ok [.task 3 (some ⟨7, 0, by decide, by decide⟩)] := by
  intro c
  have hschema : c.catalog.resolve "task" = some .task := rfl
  have howner : c.NamesField .task "owner" (.relation .owner) :=
    ⟨by decide +kernel, by decide, by decide +kernel⟩
  have hrank : c.NamesField .owner "rank" (.scalar .decimal) :=
    ⟨by decide +kernel, by decide, by decide +kernel⟩
  have hpresent : Json.lowRanks.isNull = false := rfl
  have hnot : FilterEntry.isNotKey "not" = true := by decide +kernel
  obtain ⟨halike, hnegated⟩ := select_by_key_or_identity .and Catalog.tasks_declaresOnce hschema
    howner rfl rfl rfl hrank rfl ⟨by decide +kernel, by decide +kernel⟩ (by decide)
    MemoryStore.tasks_keepsKeys hpresent rfl
  refine ⟨Catalog.tasks_declaresOnce, hschema, howner, rfl, hrank, MemoryStore.tasks_keepsKeys,
    hpresent, rfl, hnot, halike, hnegated "not" hnot, ?_⟩
  refine ⟨_, _, rfl, rfl, ?_, ?_⟩ <;> rfl

end FilterContext

end RowFilter
