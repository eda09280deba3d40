import RowFilter.Proofs.Filter.Aliases
import RowFilter.Proofs.Filter.Related
import RowFilter.Proofs.StableSort

/-!
# Names that a related entity does not declare

A filter on related records drops the names that their entity does not declare. Removing these names
from all filters on related records, nested at any depth, changes nothing: the filter map is read to
the same nodes but for the nested filters, and compiles to the same predicate and joins, or fails
with the same complaint. This assumes that no entity has a field with the name of a bound, because a
filter of which only bounds are left would be a range, which is a condition on the key of the
relation and no filter on related records.
-/

namespace RowFilter

namespace FieldSchema

/-- Whether a schema declares the field that a key stands for. -/
def declares (s : FieldSchema) (key : String) : Bool := (s.get? (Naming.camelCase key)).isSome

/-- What is under a `NOT` key, without the keys that a schema does not declare. -/
def declaredNegated (s : FieldSchema) : Json → Json
  | .obj fields => .obj (fields.filter fun entry => s.declares entry.1)
  | value => value

/-- What is left of an entry of a filter map without the keys that a schema does not declare. -/
def declaredEntry? (s : FieldSchema) (entry : String × Json) : Option (String × Json) :=
  if FilterEntry.isNotKey entry.1 then some (entry.1, s.declaredNegated entry.2)
  else if s.declares entry.1 then some entry
  else none

/-- A filter map without the keys that a schema does not declare, neither in the map itself nor in
those under its `NOT` keys. -/
def declaredOnly (s : FieldSchema) (filter : FilterMap) : FilterMap :=
  filter.filterMap s.declaredEntry?

end FieldSchema

namespace FilterContext

mutual

/-- What a value states about a field of a kind, pruned: a filter on the records that a relation
leads to loses the keys that their entity does not declare. A range is no such filter. -/
def pruneValue (c : FilterContext) : FieldKind → Json → Json
  | .relation r, .obj fields =>
    if Condition.isRange fields then .obj fields
    else .obj ((c.target r).declaredOnly (c.pruneMap (c.target r) fields))
  | _, value => value

/-- The entries of a map, each of which names a field, with what they state pruned. -/
def pruneFields (c : FilterContext) (schema : FieldSchema) : FilterMap → FilterMap
  | [] => []
  | (key, value) :: rest =>
    (key, match schema.get? (Naming.camelCase key) with
      | some kind => c.pruneValue kind value
      | none => value) :: c.pruneFields schema rest

/-- What is under a `NOT` key, with what its entries state pruned. -/
def pruneNegated (c : FilterContext) (schema : FieldSchema) : Json → Json
  | .obj fields => .obj (c.pruneFields schema fields)
  | value => value

/-- A filter map with what its entries state pruned. The map itself keeps all of its keys. -/
def pruneMap (c : FilterContext) (schema : FieldSchema) : FilterMap → FilterMap
  | [] => []
  | (key, value) :: rest =>
    (key, if FilterEntry.isNotKey key then c.pruneNegated schema value
      else match schema.get? (Naming.camelCase key) with
        | some kind => c.pruneValue kind value
        | none => value) :: c.pruneMap schema rest

end

/-! ## Entries -/

variable {c : FilterContext} {schema : FieldSchema} {combinator : Combinator} {filter : FilterMap}

/-- What is stated under a key, pruned. -/
def pruneNamed (c : FilterContext) (schema : FieldSchema) (key : String) (value : Json) : Json :=
  match schema.get? (Naming.camelCase key) with
  | some kind => c.pruneValue kind value
  | none => value

/-- An entry with what it states pruned. -/
def pruneEntry (c : FilterContext) (schema : FieldSchema) (e : FilterEntry) : FilterEntry :=
  { e with value := c.pruneNamed schema e.key e.value }

theorem pruneFields_eq_map (fields : FilterMap) : c.pruneFields schema fields =
    fields.map fun entry => (entry.1, c.pruneNamed schema entry.1 entry.2) := by
  induction fields with
  | nil => rfl
  | cons entry rest ih =>
    rw [pruneFields, ih]
    rfl

theorem ofEntry_pruneNegated {pageKey key : String} {value : Json}
    (hkey : FilterEntry.isNotKey key = true) :
    FilterEntry.ofEntry pageKey (key, c.pruneNegated schema value) =
      (FilterEntry.ofEntry pageKey (key, value)).map (c.pruneEntry schema) := by
  unfold FilterEntry.ofEntry
  by_cases hpage : key = pageKey
  · rw [if_pos hpage, if_pos hpage]
    rfl
  · rw [if_neg hpage, if_neg hpage, if_pos hkey, if_pos hkey]
    cases value with
    | obj fields =>
      dsimp only [pruneNegated]
      rw [pruneFields_eq_map, List.map_map, List.map_map]
      rfl
    | null | bool | num | str | arr => rfl

theorem ofEntry_pruneNamed {pageKey key : String} {value : Json}
    (hkey : ¬ FilterEntry.isNotKey key = true) :
    FilterEntry.ofEntry pageKey (key, c.pruneNamed schema key value) =
      (FilterEntry.ofEntry pageKey (key, value)).map (c.pruneEntry schema) := by
  unfold FilterEntry.ofEntry
  by_cases hpage : key = pageKey
  · rw [if_pos hpage, if_pos hpage]
    rfl
  · rw [if_neg hpage, if_neg hpage, if_neg hkey, if_neg hkey]
    rfl

/-- The entries of a pruned map are the pruned entries of the map. -/
theorem ofMap_pruneMap (pageKey : String) (filter : FilterMap) :
    FilterEntry.ofMap pageKey (c.pruneMap schema filter) =
      (FilterEntry.ofMap pageKey filter).map (c.pruneEntry schema) := by
  induction filter with
  | nil => rfl
  | cons entry rest ih =>
    obtain ⟨key, value⟩ := entry
    rw [FilterEntry.ofMap] at ih ⊢
    rw [FilterEntry.ofMap, pruneMap, List.flatMap_cons, List.flatMap_cons, List.map_append, ih]
    refine congrArg (· ++ _) ?_
    by_cases hkey : FilterEntry.isNotKey key = true
    · rw [if_pos hkey]
      exact ofEntry_pruneNegated hkey
    · rw [if_neg hkey]
      exact ofEntry_pruneNamed hkey

theorem ofEntry_declaredNegated {pageKey key : String} {value : Json}
    (hkey : FilterEntry.isNotKey key = true) :
    FilterEntry.ofEntry pageKey (key, schema.declaredNegated value) =
      (FilterEntry.ofEntry pageKey (key, value)).filter (·.isDeclaredIn schema) := by
  unfold FilterEntry.ofEntry
  by_cases hpage : key = pageKey
  · rw [if_pos hpage, if_pos hpage]
    rfl
  · rw [if_neg hpage, if_neg hpage, if_pos hkey, if_pos hkey]
    cases value with
    | obj fields =>
      dsimp only [FieldSchema.declaredNegated]
      rw [List.filter_map]
      rfl
    | null | bool | num | str | arr => rfl

theorem filter_ofEntry {pageKey key : String} {value : Json}
    (hkey : ¬ FilterEntry.isNotKey key = true) :
    (FilterEntry.ofEntry pageKey (key, value)).filter (·.isDeclaredIn schema) =
      if schema.declares key = true then FilterEntry.ofEntry pageKey (key, value) else [] := by
  unfold FilterEntry.ofEntry
  by_cases hpage : key = pageKey
  · rw [if_pos hpage, List.filter_nil, ite_self]
  · rw [if_neg hpage, if_neg hkey]
    exact List.filter_cons

/-- The entries of a map without the keys that a schema does not declare are those that name a field
of the schema. -/
theorem ofMap_declaredOnly (pageKey : String) (filter : FilterMap) :
    FilterEntry.ofMap pageKey (schema.declaredOnly filter) =
      (FilterEntry.ofMap pageKey filter).filter (·.isDeclaredIn schema) := by
  unfold FilterEntry.ofMap FieldSchema.declaredOnly
  rw [List.filterMap_eq_flatMap_toList, List.flatMap_assoc, List.filter_flatMap]
  refine List.flatMap_congr fun entry _ => ?_
  obtain ⟨key, value⟩ := entry
  unfold FieldSchema.declaredEntry?
  by_cases hkey : FilterEntry.isNotKey key = true
  · rw [if_pos hkey, ← ofEntry_declaredNegated hkey]
    exact List.append_nil _
  · rw [if_neg hkey, filter_ofEntry hkey]
    by_cases hdeclared : schema.declares key = true
    · rw [if_pos hdeclared, if_pos hdeclared]
      exact List.append_nil _
    · rw [if_neg hdeclared, if_neg hdeclared]
      rfl

/-! ## Nodes -/

/-- A condition on a field of a kind, pruned. -/
def pruneCondition (c : FilterContext) : FieldKind → Condition → Condition
  | .relation r, .joined filter =>
    .joined ((c.target r).declaredOnly (c.pruneMap (c.target r) filter))
  | _, condition => condition

/-- A node of the records of a schema with its condition pruned. -/
def pruneNode (c : FilterContext) (schema : FieldSchema) (n : FilterNode) : FilterNode :=
  { n with
    condition := match schema.get? n.field with
      | some kind => c.pruneCondition kind n.condition
      | none => n.condition }

/-- What an entry is read as, pruned. -/
def pruneReading (c : FilterContext) (schema : FieldSchema) : Reading → Reading
  | .node n => .node (c.pruneNode schema n)
  | .unknown field => .unknown field

variable {kind : FieldKind} {value : Json} {condition : Condition} {field : String} {n : FilterNode}

theorem pruneCondition_of_flat
    (hflat : ∀ r filter, kind = .relation r → condition ≠ .joined filter) :
    c.pruneCondition kind condition = condition := by
  cases kind with
  | scalar type => rfl
  | relation r =>
    cases condition with
    | equals | like | isIn | range => rfl
    | joined filter => exact absurd rfl (hflat r filter rfl)

theorem pruneNode_condition (hkind : schema.get? n.field = some kind) :
    (c.pruneNode schema n).condition = c.pruneCondition kind n.condition := by
  rw [pruneNode, hkind]

/-- Whether no entity of the catalog has a field with the name of a bound. -/
def NamesNoBounds (c : FilterContext) : Prop :=
  ∀ e ∈ c.catalog.entities.values, "from" ∉ e.fields.keys ∧ "to" ∉ e.fields.keys

theorem NamesNoBounds.target_get? (h : c.NamesNoBounds) (r : Relation) :
    (c.target r).get? "from" = none ∧ (c.target r).get? "to" = none := by
  unfold target
  cases hresolve : c.catalog.resolve r.target with
  | none => exact ⟨rfl, rfl⟩
  | some s =>
    have hnone : ∀ field, (∀ e ∈ c.catalog.entities.values, field ∉ e.fields.keys) →
        s.get? field = none := by
      intro field hfield
      refine Option.eq_none_iff_forall_ne_some.2 fun kind hkind => ?_
      obtain ⟨e, he, hmem⟩ := Catalog.mem_fields_of_resolve hresolve hkind
      exact hfield e he hmem
    exact ⟨hnone "from" fun e he => (h e he).1, hnone "to" fun e he => (h e he).2⟩

theorem not_contains_declaredOnly {key : String} (hnot : FilterEntry.isNotKey key = false)
    (hdeclared : schema.declares key = false) :
    (schema.declaredOnly filter).contains key = false := by
  rw [← Bool.not_eq_true, Keyed.contains_iff, Keyed.keys, List.mem_map]
  rintro ⟨entry, hentry, rfl⟩
  obtain ⟨source, -, hsource⟩ := List.mem_filterMap.1 hentry
  unfold FieldSchema.declaredEntry? at hsource
  split at hsource
  · next hkey =>
    cases hsource
    exact absurd (hnot.symm.trans hkey) Bool.false_ne_true
  · split at hsource
    · next hkey =>
      cases hsource
      exact absurd (hdeclared.symm.trans hkey) Bool.false_ne_true
    · cases hsource

/-- What is left of a filter on related records is no range. -/
theorem NamesNoBounds.isRange_declaredOnly (h : c.NamesNoBounds) (r : Relation)
    (filter : FilterMap) : Condition.isRange ((c.target r).declaredOnly filter) = false := by
  obtain ⟨hfrom, hto⟩ := h.target_get? r
  have hcamelFrom : Naming.camelCase "from" = "from" := by decide +kernel
  have hcamelTo : Naming.camelCase "to" = "to" := by decide +kernel
  have hnoFrom : ((c.target r).declaredOnly filter).contains "from" = false :=
    not_contains_declaredOnly (by decide +kernel)
      (by rw [FieldSchema.declares, hcamelFrom, hfrom]; rfl)
  have hnoTo : ((c.target r).declaredOnly filter).contains "to" = false :=
    not_contains_declaredOnly (by decide +kernel)
      (by rw [FieldSchema.declares, hcamelTo, hto]; rfl)
  rw [Condition.isRange, hnoFrom, hnoTo]
  rfl

theorem pruneValue_of_flat
    (hflat : (DeclaredType.ofFieldKind kind).isRelation = true → Condition.nested? value = none) :
    c.pruneValue kind value = value := by
  cases kind with
  | scalar type => cases value <;> rfl
  | relation r =>
    cases value with
    | obj fields =>
      rw [pruneValue, if_pos (Condition.nested?_eq_none.1 (hflat rfl) fields rfl)]
    | null | bool | num | str | arr => rfl

/-- What a pruned value states is the pruned condition. -/
theorem NamesNoBounds.ofValue_pruneValue (h : c.NamesNoBounds) :
    Condition.ofValue (.ofFieldKind kind) field (c.pruneValue kind value) =
      c.pruneCondition kind <$> Condition.ofValue (.ofFieldKind kind) field value := by
  by_cases hflat :
      (DeclaredType.ofFieldKind kind).isRelation = true → Condition.nested? value = none
  · rw [pruneValue_of_flat hflat]
    cases hcondition : Condition.ofValue (.ofFieldKind kind) field value with
    | error e => rfl
    | ok condition =>
      have hsame : c.pruneCondition kind condition = condition :=
        pruneCondition_of_flat fun _ filter _ =>
          Condition.ne_joined_of_ofValue hcondition hflat filter
      exact congrArg Except.ok hsame.symm
  · obtain ⟨hrelation, hnested⟩ := Classical.not_imp.1 hflat
    obtain ⟨filter, hfilter⟩ := Option.ne_none_iff_exists'.1 hnested
    obtain ⟨rfl, hrange⟩ := Condition.nested?_eq_some.1 hfilter
    cases kind with
    | scalar type => cases hrelation
    | relation r =>
      rw [pruneValue, hrange, if_neg Bool.false_ne_true, Condition.ofValue_joined rfl hrange,
        Condition.ofValue_joined rfl (h.isRange_declaredOnly r _)]
      rfl

/-- What a pruned entry is read as is what the entry is read as, pruned. -/
theorem NamesNoBounds.ofEntry_pruneEntry (h : c.NamesNoBounds) (e : FilterEntry) :
    Reading.ofEntry schema combinator (c.pruneEntry schema e) =
      c.pruneReading schema <$> Reading.ofEntry schema combinator e := by
  have hfield : (c.pruneEntry schema e).field = e.field := rfl
  unfold Reading.ofEntry
  rw [hfield]
  cases hkind : schema.get? e.field with
  | none => rfl
  | some kind =>
    have hvalue : (c.pruneEntry schema e).value = c.pruneValue kind e.value := by
      rw [pruneEntry, pruneNamed]
      dsimp only
      rw [← FilterEntry.field, hkind]
    dsimp only
    rw [hvalue, h.ofValue_pruneValue]
    cases Condition.ofValue (.ofFieldKind kind) e.field e.value with
    | error e => rfl
    | ok condition =>
      have hnode : c.pruneNode schema ⟨e.field, .ofFieldKind kind, condition, combinator,
          e.negation⟩ = ⟨e.field, .ofFieldKind kind, c.pruneCondition kind condition, combinator,
          e.negation⟩ := by
        rw [pruneNode, hkind]
      exact congrArg (fun n => Except.ok (Reading.node n)) hnode.symm

/-- A reading with its nodes pruned. -/
def pruneNodes (c : FilterContext) (schema : FieldSchema) (reading : FilterReading) :
    FilterReading :=
  { reading with nodes := reading.nodes.map (c.pruneNode schema) }

/-- A pruned filter map is read to the pruned nodes and the same unknown names. -/
theorem NamesNoBounds.ofMap_pruneMap (h : c.NamesNoBounds) (pageKey : String) :
    FilterReading.ofMap schema pageKey combinator (c.pruneMap schema filter) =
      c.pruneNodes schema <$> FilterReading.ofMap schema pageKey combinator filter := by
  unfold FilterReading.ofMap
  rw [FilterContext.ofMap_pruneMap, mapM_map_eq fun e _ => h.ofEntry_pruneEntry e]
  cases (FilterEntry.ofMap pageKey filter).mapM (Reading.ofEntry schema combinator) with
  | error e => rfl
  | ok readings =>
    have hnodes : (readings.map (c.pruneReading schema)).filterMap Reading.node? =
        (readings.filterMap Reading.node?).map (c.pruneNode schema) := by
      rw [List.filterMap_map, List.map_filterMap]
      refine List.filterMap_congr fun reading _ => ?_
      cases reading <;> rfl
    have hunknown : (readings.map (c.pruneReading schema)).filterMap Reading.unknown? =
        readings.filterMap Reading.unknown? := by
      rw [List.filterMap_map]
      refine List.filterMap_congr fun reading _ => ?_
      cases reading <;> rfl
    exact congrArg Except.ok (FilterReading.mk.injEq .. ▸ ⟨hnodes, hunknown⟩)

/-- The entries that name no field are read as no nodes. -/
theorem nodes_of_filter (entries : List FilterEntry) :
    List.filterMap Reading.node? <$>
        (entries.filter (·.isDeclaredIn schema)).mapM (Reading.ofEntry schema combinator) =
      List.filterMap Reading.node? <$> entries.mapM (Reading.ofEntry schema combinator) := by
  induction entries with
  | nil => rfl
  | cons e rest ih =>
    rw [List.mapM_cons]
    by_cases hdeclared : e.isDeclaredIn schema = true
    · rw [List.filter_cons_of_pos hdeclared, List.mapM_cons]
      refine map_bind_congr (f := id) rfl fun reading reading' hreading => ?_
      obtain rfl : reading = reading' := hreading
      refine map_bind_congr ih fun readings readings' hreadings => congrArg Except.ok ?_
      rw [List.filterMap_cons, List.filterMap_cons, hreadings]
    · have hnone : schema.get? e.field = none :=
        Option.not_isSome_iff_eq_none.1 hdeclared
      rw [List.filter_cons_of_neg hdeclared, ih, Reading.ofEntry, hnone]
      cases rest.mapM (Reading.ofEntry schema combinator) <;> rfl

theorem nodes_declaredOnly (pageKey : String) :
    FilterReading.nodes <$>
        FilterReading.ofMap schema pageKey combinator (schema.declaredOnly filter) =
      FilterReading.nodes <$> FilterReading.ofMap schema pageKey combinator filter := by
  unfold FilterReading.ofMap
  rw [ofMap_declaredOnly]
  exact map_bind_congr (nodes_of_filter _) fun readings readings' h => congrArg Except.ok h

/-- The nodes of a pruned filter on related records are the pruned nodes of the filter, in the same
order. -/
theorem NamesNoBounds.children_prune (h : c.NamesNoBounds) :
    c.children schema combinator (schema.declaredOnly (c.pruneMap schema filter)) =
      List.map (c.pruneNode schema) <$> c.children schema combinator filter := by
  have hchildren : ∀ filter, c.children schema combinator filter =
      StableSort.sort (fun m n => decide ((schema.index? m.field).getD 0 <
        (schema.index? n.field).getD 0)) <$>
          FilterReading.nodes <$> FilterReading.ofMap schema c.pageKey combinator filter := by
    intro filter
    unfold children
    cases FilterReading.ofMap schema c.pageKey combinator filter <;> rfl
  rw [hchildren, hchildren, nodes_declaredOnly, h.ofMap_pruneMap]
  cases FilterReading.ofMap schema c.pageKey combinator filter with
  | error e => rfl
  | ok reading => exact congrArg Except.ok (StableSort.sort_map _ _)

/-! ## Levels -/

variable {root : Path} {nodes : List FilterNode}
  {nested nested' : FieldSchema → Path → List FilterNode → Except FilterError Compiled}

/-- A node without a filter on related records is compiled without regard to how those are. -/
theorem compileNode_of_flat (htype : n.type = .ofFieldKind kind)
    (hflat : ∀ r filter, kind = .relation r → n.condition ≠ .joined filter) :
    c.compileNode nested' schema root n = c.compileNode nested schema root n := by
  obtain ⟨field, type, condition, combinator, negation⟩ := n
  dsimp only at htype hflat
  subst htype
  cases kind with
  | scalar type => rfl
  | relation r =>
    unfold compileNode
    dsimp only [DeclaredType.ofFieldKind]
    cases condition with
    | equals value => cases value <;> rfl
    | like pattern => rfl
    | isIn candidates => rfl
    | range bounds flags => rfl
    | joined filter => exact absurd rfl (hflat r filter rfl)

/-- A pruned node is compiled like the node, if the filter nested in it is. -/
theorem compileNode_pruneNode (hkind : schema.get? n.field = some kind)
    (htype : n.type = .ofFieldKind kind)
    (hnested : ∀ r filter, kind = .relation r → n.condition = .joined filter →
      (c.children (c.target r) n.combinator
          ((c.target r).declaredOnly (c.pruneMap (c.target r) filter)) >>=
        nested' (c.target r) (root.child n.field)) =
      (c.children (c.target r) n.combinator filter >>=
        nested (c.target r) (root.child n.field))) :
    c.compileNode nested' schema root (c.pruneNode schema n) =
      c.compileNode nested schema root n := by
  have hcondition : (c.pruneNode schema n).condition = c.pruneCondition kind n.condition :=
    pruneNode_condition hkind
  by_cases hjoined : ∃ r filter, kind = .relation r ∧ n.condition = .joined filter
  · obtain ⟨r, filter, rfl, hjoined⟩ := hjoined
    rw [hjoined] at hcondition
    rw [compileNode_eq_of_joined hkind htype hjoined,
      compileNode_eq_of_joined (n := c.pruneNode schema n) hkind htype hcondition,
      ← bind_assoc, ← bind_assoc]
    exact congrArg (· >>= _) (hnested r filter rfl hjoined)
  · have hflat : ∀ r filter, kind = .relation r → n.condition ≠ .joined filter :=
      fun r filter hr hfilter => hjoined ⟨r, filter, hr, hfilter⟩
    have hsame : c.pruneNode schema n = n := by
      rw [pruneNode, hkind]
      dsimp only
      rw [pruneCondition_of_flat hflat]
    rw [hsame]
    exact compileNode_of_flat htype hflat

variable {fuel fuel' : Nat}

/-- Whether nodes are of the types that a schema declares for their fields. -/
def AreDeclared (schema : FieldSchema) (nodes : List FilterNode) : Prop :=
  ∀ n ∈ nodes, ∃ kind, schema.get? n.field = some kind ∧ n.type = .ofFieldKind kind

theorem areDeclared_of_ofMap {pageKey : String} {reading : FilterReading}
    (h : FilterReading.ofMap schema pageKey combinator filter = .ok reading) :
    AreDeclared schema reading.nodes := by
  intro n hn
  obtain ⟨e, -, hread⟩ := FilterReading.entry_of_mem h hn
  obtain ⟨kind, condition, hkind, -, rfl⟩ := Reading.ofEntry_node hread
  exact ⟨kind, hkind, rfl⟩

theorem areDeclared_children (h : c.children schema combinator filter = .ok nodes) :
    AreDeclared schema nodes := by
  obtain ⟨reading, hreading, hperm⟩ := children_ok h
  exact fun n hn => areDeclared_of_ofMap hreading n (hperm.mem_iff.1 hn)

/-- Pruned nodes are compiled like the nodes, with fuel for the filters nested in the ones and in
the others. -/
theorem NamesNoBounds.compileLevel_pruneNode (h : c.NamesNoBounds)
    (hdeclared : AreDeclared schema nodes)
    (hfuel : ∀ n ∈ nodes, n.condition.depth ≤ fuel)
    (hfuel' : ∀ n ∈ nodes, (c.pruneNode schema n).condition.depth ≤ fuel') :
    c.compileLevel (fuel' + 1) schema root (nodes.map (c.pruneNode schema)) =
      c.compileLevel (fuel + 1) schema root nodes := by
  -- on the fuel of the nodes that are not pruned, since a nested filter is compiled with less of it
  induction fuel using Nat.strong_induction_on generalizing fuel' schema root nodes with
  | _ fuel ih =>
    have hparts : ∀ n ∈ nodes,
        c.compileNode (c.compileLevel fuel') schema root (c.pruneNode schema n) =
          c.compileNode (c.compileLevel fuel) schema root n := by
      intro n hn
      obtain ⟨kind, hkind, htype⟩ := hdeclared n hn
      refine compileNode_pruneNode hkind htype fun r filter hr hjoined => ?_
      obtain rfl := hr
      have hjoined' : (c.pruneNode schema n).condition =
          .joined ((c.target r).declaredOnly (c.pruneMap (c.target r) filter)) := by
        rw [pruneNode_condition hkind, hjoined, pruneCondition]
      obtain ⟨less, rfl, hless⟩ := exists_fuel_of_joined hjoined (hfuel n hn)
      obtain ⟨less', rfl, hless'⟩ := exists_fuel_of_joined hjoined' (hfuel' n hn)
      have hpruned : c.children (c.target r) n.combinator
          ((c.target r).declaredOnly (c.pruneMap (c.target r) filter)) =
            List.map (c.pruneNode (c.target r)) <$>
              c.children (c.target r) n.combinator filter := h.children_prune
      rw [hpruned]
      cases hinside : c.children (c.target r) n.combinator filter with
      | error e => rfl
      | ok inside =>
        rw [hinside] at hpruned
        refine ih less (Nat.lt_succ_self _) (areDeclared_children hinside) ?_ ?_
        · exact fun m hm => (depth_of_mem_children hinside hm).trans hless
        · exact fun m hm => (depth_of_mem_children hpruned (List.mem_map_of_mem hm)).trans hless'
    rw [compileLevel, compileLevel]
    refine congrArg (· >>= _) ?_
    rw [mapM_map_eq (h := id) fun n hn => ?_, List.map_id_fun, id_map]
    rw [id_map, hparts n hn]
    rfl

/-! ## Filter maps -/

/-- A pruned filter map builds to the pruned nodes. -/
theorem NamesNoBounds.ofMap_nodes (h : c.NamesNoBounds) (pageKey : String) :
    FilterNode.ofMap schema pageKey combinator (c.pruneMap schema filter) =
      List.map (c.pruneNode schema) <$>
        FilterNode.ofMap schema pageKey combinator filter := by
  unfold FilterNode.ofMap
  rw [h.ofMap_pruneMap]
  cases FilterReading.ofMap schema pageKey combinator filter with
  | error e => rfl
  | ok reading =>
    change (c.pruneNodes schema reading).known schema.entity =
      List.map (c.pruneNode schema) <$> reading.known schema.entity
    unfold FilterReading.known pruneNodes
    dsimp only
    cases reading.unknown.isEmpty <;> rfl

/-- **Names that a related entity does not declare have no effect**: if no entity has a field with
the name of a bound, then removing all keys that a related entity does not declare from the filters
on its records, nested at any depth, and from the maps under their `NOT` keys, changes neither
whether a filter map builds and compiles, nor the complaint where it does not, nor the predicate and
the joins where it does. -/
theorem compileMap_pruneMap (h : c.NamesNoBounds) :
    (∀ e, FilterNode.ofMap schema c.pageKey combinator (c.pruneMap schema filter) = .error e ↔
      FilterNode.ofMap schema c.pageKey combinator filter = .error e) ∧
    c.compileMap schema combinator (c.pruneMap schema filter) =
      c.compileMap schema combinator filter := by
  rw [compileMap, compileMap, h.ofMap_nodes]
  cases hnodes : FilterNode.ofMap schema c.pageKey combinator filter with
  | error e => exact ⟨fun _ => Iff.rfl, rfl⟩
  | ok nodes =>
    refine ⟨fun e => iff_of_false ?_ ?_, ?_⟩
    · intro hbuild
      cases hbuild
    · intro hbuild
      cases hbuild
    obtain ⟨reading, hreading, hknown⟩ := bind_eq_ok.1 hnodes
    obtain rfl := FilterReading.known_ok hknown
    change c.compile schema (reading.nodes.map (c.pruneNode schema)) =
      c.compile schema reading.nodes
    refine congrArg (· >>= _) (h.compileLevel_pruneNode (areDeclared_of_ofMap hreading) ?_ ?_)
    · exact fun n hn => depth_le_of_mem hn
    · exact fun n hn => depth_le_of_mem (List.mem_map_of_mem hn)

/-- Books by authors whose name begins with `le`, but for author 7: the shelf of an author, and a
bound among names, are not looked at. -/
theorem compileMap_pruneMap_library :
    let c : FilterContext := ⟨.library, FilterConfig.standard.pageKey, .builtIn, .utc⟩
    let filter : FilterMap := [("title", .str "dune"), ("author", .obj
      [("from", .null), ("name", .str "le%"), ("shelf", .obj [("row", .ofNat 3)]),
        ("not", .obj [("id", .ofNat 7), ("NOT", .str "row")])])]
    let pruned : FilterMap := [("title", .str "dune"), ("author", .obj
      [("name", .str "le%"), ("not", .obj [("id", .ofNat 7)])])]
    c.NamesNoBounds ∧ c.pruneMap .book filter = pruned ∧
      (∃ compiled, c.compileMap .book .and pruned = .ok compiled) ∧
      c.compileMap .book .and pruned = c.compileMap .book .and filter := by
  intro c filter pruned
  have hbounds : c.NamesNoBounds := by
    unfold NamesNoBounds
    decide +kernel
  let r : Relation := ⟨"author", .entity, .eager, "author_id", "id", some ("id", .i64)⟩
  let inner : FilterMap := [("from", .null), ("name", .str "le%"),
    ("shelf", .obj [("row", .ofNat 3)]), ("not", .obj [("id", .ofNat 7), ("NOT", .str "row")])]
  have htarget : c.target r = .author := by decide +kernel
  have hinner : c.pruneMap .author inner = inner := rfl
  have hvalue : c.pruneValue (.relation r) (.obj inner) =
      .obj [("name", .str "le%"), ("not", .obj [("id", .ofNat 7)])] := by
    rw [pruneValue, if_neg (by decide +kernel), htarget, hinner]
    rfl
  have hpruned : c.pruneMap .book filter = pruned :=
    congrArg (fun value : Json => ([("title", .str "dune"), ("author", value)] : FilterMap)) hvalue
  exact ⟨hbounds, hpruned, ⟨_, rfl⟩, hpruned ▸ (compileMap_pruneMap hbounds).2⟩

end FilterContext

end RowFilter
