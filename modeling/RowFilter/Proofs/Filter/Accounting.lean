import RowFilter.Proofs.Filter.Refusal
import RowFilter.Proofs.Filter.Typing

/-!
# Every entry is accounted for

Reading a filter map loses none of its conditions and adds none. Each entry that states one becomes a
node with a condition that fits the operator, or leaves its name among the unknown ones, in order. A
range that is read has a bound, so compiling can only complain about empty ranges in the filters on
related records, which are read then.
-/

namespace RowFilter

/-! ## The entries that count -/

/-- Whether a filter map lists these conditions, in order: its entries apart from the page, with the
entries of the maps under `NOT` in place of these. -/
inductive FilterMap.Lists (pageKey : String) : FilterMap → List FilterEntry → Prop where
  | nil : Lists pageKey [] []
  | page {value : Json} {rest : FilterMap} {entries : List FilterEntry}
      (hrest : Lists pageKey rest entries) : Lists pageKey ((pageKey, value) :: rest) entries
  | plain {key : String} {value : Json} {rest : FilterMap} {entries : List FilterEntry}
      (hpage : key ≠ pageKey) (hnot : FilterEntry.isNotKey key = false)
      (hrest : Lists pageKey rest entries) :
      Lists pageKey ((key, value) :: rest) (⟨.none, key, value⟩ :: entries)
  | negated {key : String} {negated rest : FilterMap} {entries : List FilterEntry}
      (hpage : key ≠ pageKey) (hnot : FilterEntry.isNotKey key = true)
      (hrest : Lists pageKey rest entries) :
      Lists pageKey ((key, .obj negated) :: rest)
        (negated.map (fun inner => ⟨.not, inner.1, inner.2⟩) ++ entries)
  /-- A `NOT` without a map states nothing. -/
  | ignored {key : String} {value : Json} {rest : FilterMap} {entries : List FilterEntry}
      (hpage : key ≠ pageKey) (hnot : FilterEntry.isNotKey key = true)
      (hvalue : ∀ negated, value ≠ .obj negated) (hrest : Lists pageKey rest entries) :
      Lists pageKey ((key, value) :: rest) entries

theorem FilterMap.lists_ofMap (pageKey : String) (filter : FilterMap) :
    FilterMap.Lists pageKey filter (FilterEntry.ofMap pageKey filter) := by
  induction filter with
  | nil => exact .nil
  | cons entry rest ih =>
    obtain ⟨key, value⟩ := entry
    rw [FilterEntry.ofMap, List.flatMap_cons, ← FilterEntry.ofMap]
    by_cases hpage : key = pageKey
    · subst hpage
      simp only [FilterEntry.ofEntry, if_pos, List.nil_append]
      exact .page ih
    · cases hnot : FilterEntry.isNotKey key with
      | false =>
        simp only [FilterEntry.ofEntry, if_neg hpage, hnot, Bool.false_eq_true, if_false,
          List.singleton_append]
        exact .plain hpage hnot ih
      | true =>
        cases value with
        | obj negated =>
          simp only [FilterEntry.ofEntry, if_neg hpage, hnot, if_true]
          exact .negated hpage hnot ih
        | _ =>
          simp only [FilterEntry.ofEntry, if_neg hpage, hnot, if_true, List.nil_append]
          refine .ignored hpage hnot (fun negated heq => ?_) ih
          cases heq

/-! ## What an entry becomes -/

/-- Whether a node is what an entry stands for in a schema. -/
structure FilterEntry.Becomes (schema : FieldSchema) (combinator : Combinator) (e : FilterEntry)
    (n : FilterNode) : Prop where
  field : n.field = Naming.camelCase e.key
  declared : ∃ kind, schema.get? n.field = some kind ∧ n.type = .ofFieldKind kind
  condition : Condition.ofValue n.type n.field e.value = .ok n.condition
  combinator : n.combinator = combinator
  negation : n.negation = e.negation
  /-- Only relations are joined, by a map that is no range. -/
  join : n.operator = .join → n.type.isRelation = true ∧
    ∃ fields, e.value = .obj fields ∧ Condition.isRange fields = false ∧
      n.condition = .joined fields
  /-- A range has the bounds of its map that are not null. -/
  range : n.operator.isRange = true →
    ∃ fields, e.value = .obj fields ∧ Condition.isRange fields = true ∧
      n.low? = (Keyed.get? fields "from").filter (!·.isNull) ∧
      n.high? = (Keyed.get? fields "to").filter (!·.isNull)
  between : n.operator = .between → n.low?.isSome = true ∧ n.high?.isSome = true
  greaterThan : n.operator = .greaterThan → n.low?.isSome = true ∧ n.high? = none
  lessThan : n.operator = .lessThan → n.low? = none ∧ n.high?.isSome = true
  flags : n.condition.flags ≠ [] → n.operator.isRange = true

/-- Whether entries split into nodes and unknown names, in order and one for one. -/
inductive FilterReading.Accounts (schema : FieldSchema) (combinator : Combinator) :
    List FilterEntry → List FilterNode → List String → Prop where
  | nil : Accounts schema combinator [] [] []
  | node {e : FilterEntry} {n : FilterNode} {entries : List FilterEntry} {nodes : List FilterNode}
      {unknown : List String} (hnode : e.Becomes schema combinator n)
      (hrest : Accounts schema combinator entries nodes unknown) :
      Accounts schema combinator (e :: entries) (n :: nodes) unknown
  | unknown {e : FilterEntry} {entries : List FilterEntry} {nodes : List FilterNode}
      {unknown : List String} (hundeclared : schema.get? (Naming.camelCase e.key) = none)
      (hrest : Accounts schema combinator entries nodes unknown) :
      Accounts schema combinator (e :: entries) nodes (Naming.camelCase e.key :: unknown)

/-- The value under a key that is absent is null, and counts as little. -/
theorem Json.filter_getD_null (value? : Option Json) :
    (some (value?.getD .null)).filter (!·.isNull) = value?.filter (!·.isNull) := by
  cases value? <;> rfl

namespace Bounds

variable {low high : Json} {bounds : Bounds Json}

theorem ofEnds?_eq_some (h : ofEnds? low high = some bounds) :
    bounds.low? = (some low).filter (!·.isNull) ∧
      bounds.high? = (some high).filter (!·.isNull) := by
  unfold ofEnds? at h
  split at h <;> cases h <;> simp [low?, high?, Option.filter_some, *]

end Bounds

/-- The ends of a node with a range are those of the range. -/
theorem FilterNode.ends_of_range {n : FilterNode} {low high : Json} {bounds : Bounds Json}
    {flags : List ControlFlag} (hcondition : n.condition = .range bounds flags)
    (hbounds : Bounds.ofEnds? low high = some bounds) :
    n.low? = bounds.low? ∧ n.high? = bounds.high? := by
  obtain ⟨hlow, hhigh⟩ := Bounds.ofEnds?_eq_some hbounds
  have hvalues : n.condition.values = [bounds.low?.getD .null, bounds.high?.getD .null] := by
    rw [hcondition]
    rfl
  constructor
  · change Option.filter _ n.condition.values[0]? = _
    rw [hvalues, List.getElem?_cons_zero, Json.filter_getD_null, hlow, Option.filter_filter]
    simp only [Bool.and_self]
  · change Option.filter _ n.condition.values[1]? = _
    rw [hvalues, List.getElem?_cons_succ, List.getElem?_cons_zero, Json.filter_getD_null, hhigh,
      Option.filter_filter]
    simp only [Bool.and_self]

namespace Condition

variable {type : DeclaredType} {field : String} {value : Json} {condition : Condition}

theorem exists_joined (h : condition.operator = .join) : ∃ filter, condition = .joined filter := by
  cases condition with
  | joined filter => exact ⟨filter, rfl⟩
  | range bounds => cases bounds <;> cases h
  | equals | like | isIn => cases h

theorem exists_range (h : condition.operator.isRange = true) :
    ∃ bounds flags, condition = .range bounds flags := by
  cases condition with
  | range bounds flags => exact ⟨bounds, flags, rfl⟩
  | equals | like | isIn | joined => cases h

theorem isRange_of_flags (h : condition.flags ≠ []) : condition.operator.isRange = true := by
  cases condition with
  | range bounds => cases bounds <;> rfl
  | equals | like | isIn | joined => exact absurd rfl h

theorem exists_of_joined {filter : FilterMap}
    (h : ofValue type field value = .ok (.joined filter)) :
    type.isRelation = true ∧ value = .obj filter ∧ isRange filter = false := by
  by_cases hrelation : type.isRelation = true
  · exact ⟨hrelation, nested?_eq_some.1 ((ofValue_relation hrelation h filter).1 rfl)⟩
  · exact absurd rfl (ne_joined_of_ofValue h (fun h => absurd h hrelation) filter)

/-- Only a record of bounds states a range. -/
theorem exists_of_range {bounds : Bounds Json} {flags : List ControlFlag}
    (h : ofValue type field value = .ok (.range bounds flags)) :
    ∃ fields, value = .obj fields ∧ isRange fields = true ∧
      Bounds.ofEnds? ((Keyed.get? fields "from").getD .null) ((Keyed.get? fields "to").getD .null) =
        some bounds := by
  obtain ⟨written, hwritten, hupper⟩ := ofValue_ok h
  -- upper case turns nothing into a range
  have hrange : written = .range bounds flags := by
    split at hupper
    · cases written <;> cases hupper
      rfl
    · exact hupper.symm
  subst hrange
  cases value with
  | obj fields =>
    rw [ofWritten] at hwritten
    split at hwritten
    · next hrange =>
      obtain ⟨bounds', flags', hbounds, -, heq⟩ := ofRange_ok hwritten
      cases heq
      exact ⟨fields, rfl, hrange, hbounds⟩
    · split at hwritten <;> cases hwritten
  | str s =>
    rw [ofWritten] at hwritten
    split at hwritten <;> cases hwritten
  | null | bool | num | arr => cases hwritten

end Condition

namespace FilterEntry

variable {schema : FieldSchema} {combinator : Combinator} {e : FilterEntry} {n : FilterNode}

theorem becomes_of_ofEntry (h : Reading.ofEntry schema combinator e = .ok (.node n)) :
    e.Becomes schema combinator n := by
  obtain ⟨kind, condition, hkind, hcondition, hn⟩ := Reading.ofEntry_node h
  have hstated : Condition.ofValue n.type n.field e.value = .ok n.condition := by
    rw [hn]
    exact hcondition
  have hrange : n.operator.isRange = true → ∃ bounds flags,
      n.operator = (Condition.range bounds flags).operator ∧
      n.low? = bounds.low? ∧ n.high? = bounds.high? ∧
      ∃ fields, e.value = .obj fields ∧ Condition.isRange fields = true ∧
        n.low? = (Keyed.get? fields "from").filter (!·.isNull) ∧
        n.high? = (Keyed.get? fields "to").filter (!·.isNull) := by
    intro h
    obtain ⟨bounds, flags, heq⟩ := Condition.exists_range h
    obtain ⟨fields, hvalue, hfields, hbounds⟩ := Condition.exists_of_range (heq ▸ hstated)
    obtain ⟨hlow, hhigh⟩ := FilterNode.ends_of_range heq hbounds
    obtain ⟨hlow', hhigh'⟩ := Bounds.ofEnds?_eq_some hbounds
    refine ⟨bounds, flags, congrArg _ heq, hlow, hhigh, fields, hvalue, hfields, ?_, ?_⟩
    · rw [hlow, hlow', Json.filter_getD_null]
    · rw [hhigh, hhigh', Json.filter_getD_null]
  constructor
  case field => rw [hn, field]
  case declared =>
    rw [hn]
    exact ⟨kind, hkind, rfl⟩
  case condition => exact hstated
  case combinator => rw [hn]
  case negation => rw [hn]
  case join =>
    intro h
    obtain ⟨fields, heq⟩ := Condition.exists_joined h
    obtain ⟨hrelation, hvalue, hfields⟩ := Condition.exists_of_joined (heq ▸ hstated)
    exact ⟨hrelation, fields, hvalue, hfields, heq⟩
  case range =>
    intro h
    obtain ⟨-, -, -, -, -, hfields⟩ := hrange h
    exact hfields
  case flags => exact Condition.isRange_of_flags
  -- the operator tells which ends the bounds have
  case between | greaterThan | lessThan =>
    intro h
    obtain ⟨bounds, flags, hoperator, hlow, hhigh, -⟩ := hrange (by rw [h]; rfl)
    rw [h] at hoperator
    rw [hlow, hhigh]
    cases bounds <;> first | exact ⟨rfl, rfl⟩ | cases hoperator

end FilterEntry

namespace FilterReading

variable {schema : FieldSchema} {combinator : Combinator} {filter : FilterMap}
  {reading : FilterReading}

theorem accounts_of_forall₂ {entries : List FilterEntry} {readings : List Reading}
    (h : List.Forall₂ (fun e reading => Reading.ofEntry schema combinator e = .ok reading)
      entries readings) :
    Accounts schema combinator entries (readings.filterMap Reading.node?)
      (readings.filterMap Reading.unknown?) := by
  induction h with
  | nil => exact .nil
  | @cons e reading entries readings he _ ih =>
    cases reading with
    | node n => exact .node (FilterEntry.becomes_of_ofEntry he) ih
    | unknown field =>
      have hundeclared := Reading.ofEntry_unknown he
      have hfield : field = Naming.camelCase e.key := by
        simp only [Reading.ofEntry, hundeclared] at he
        cases he
        rfl
      subst hfield
      exact .unknown hundeclared ih

theorem accounts_ofMap {pageKey : String}
    (h : ofMap schema pageKey combinator filter = .ok reading) :
    Accounts schema combinator (FilterEntry.ofMap pageKey filter) reading.nodes
      reading.unknown := by
  obtain ⟨readings, hreadings, h⟩ := bind_eq_ok.1 h
  cases h
  exact accounts_of_forall₂ (forall₂_of_mapM hreadings)

end FilterReading

/-! ## Empty ranges -/

namespace FilterContext

variable {c : FilterContext} {schema s : FieldSchema} {combinator : Combinator}
  {filter : FilterMap} {root p : Path} {e : FilterEntry} {n : FilterNode} {kind : FieldKind}
  {nodes : List FilterNode} {reading : FilterReading} {error : FilterError} {field : String}

theorem compileValue_error {type : ScalarType} {path : Path}
    (h : c.compileValue n type path = .error error) :
    error = n.unsupported ∨ ∃ cause, error = .unparseable cause := by
  by_cases hjoined : ∃ filter, n.condition = .joined filter
  · obtain ⟨filter, hjoined⟩ := hjoined
    unfold compileValue at h
    simp only [hjoined] at h
    cases h
    exact .inl rfl
  · exact .inr (exists_of_compileValue_error (not_exists.1 hjoined) h)

/-- A node that does not compile is an unsupported operation, has a value that cannot be cast, or
has a nested filter that cannot be read or does not compile. -/
theorem compileNode_error
    {nested : FieldSchema → Path → List FilterNode → Except FilterError Compiled}
    (h : c.compileNode nested schema root n = .error error) :
    error = n.unsupported ∨ (∃ cause, error = .unparseable cause) ∨
    ∃ r fields, schema.get? n.field = some (.relation r) ∧ n.condition = .joined fields ∧
      (FilterReading.ofMap (c.target r) c.pageKey n.combinator fields = .error error ∨
        ∃ children, c.children (c.target r) n.combinator fields = .ok children ∧
          nested (c.target r) (root.child n.field) children = .error error) := by
  have hvalue : ∀ {type path joins},
      (do let p ← c.compileValue n type path; .ok (⟨p, joins⟩ : Compiled)) = .error error →
      error = n.unsupported ∨ ∃ cause, error = .unparseable cause := by
    intro type path joins h
    rcases bind_eq_error.1 h with h | ⟨p, -, h⟩
    · exact compileValue_error h
    · cases h
  unfold compileNode at h
  split at h
  case isFalse =>
    cases h
    exact .inl rfl
  dsimp only at h
  split at h
  · exact (hvalue h).imp_right .inl
  · next r _ hr =>
    split at h
    · next fields hjoined =>
      refine .inr (.inr ⟨r, fields, hr, hjoined, ?_⟩)
      rcases bind_eq_error.1 h with h | ⟨children, hchildren, h⟩
      · rcases bind_eq_error.1 h with h | ⟨reading, -, h⟩
        · exact .inl h
        · cases h
      · rcases bind_eq_error.1 h with h | ⟨inner, -, h⟩
        · exact .inr ⟨children, hchildren, h⟩
        · cases h
    · cases h
    · split at h
      · exact (hvalue h).imp_right .inl
      · exact (hvalue h).imp_right .inl
      · cases h
        exact .inl rfl
  · cases h
    exact .inl rfl

/-- Where compiling a level reports an empty range, it is in a filter that one of the nodes nests. -/
theorem exists_nested_of_emptyRange {fuel : Nat}
    (hreading : FilterReading.ofMap schema c.pageKey combinator filter = .ok reading)
    (hnodes : ∀ n ∈ nodes, n ∈ reading.nodes)
    (h : c.compileLevel fuel schema root nodes = .error (.emptyRange field)) :
    ∃ n ∈ nodes, ∃ r fields, schema.get? n.field = some (.relation r) ∧
      n.condition = .joined fields ∧
      ∃ s p e kind, c.Reaches (c.target r) (root.child n.field) fields s p e kind ∧
        e.IsEmptyRange ∧ field = e.field := by
  induction fuel generalizing schema root combinator filter reading nodes with
  | zero => cases h
  | succ fuel ih =>
    rcases bind_eq_error.1 h with h | ⟨pieces, -, h⟩
    swap
    · cases h
    obtain ⟨n, hn, h⟩ := exists_of_mapM_error h
    rcases bind_eq_error.1 h with h | ⟨part, -, h⟩
    swap
    · cases h
    rcases compileNode_error h with h | ⟨cause, h⟩ | ⟨r, fields, hr, hjoined, h⟩
    · cases h
    · cases h
    refine ⟨n, hn, r, fields, hr, hjoined, ?_⟩
    rcases h with h | ⟨children, hchildren, h⟩
    · obtain ⟨e, he, kind, hkind, ⟨hempty, hfield⟩ | ⟨flag, hflag⟩⟩ := exists_of_reading_error h
      · cases hfield
        exact ⟨_, _, e, kind, .here he hkind, hempty, rfl⟩
      · cases hflag
    · obtain ⟨reading', hreading', hperm⟩ := children_ok hchildren
      have hmem : ∀ n ∈ children, n ∈ reading'.nodes := fun n hn => hperm.mem_iff.1 hn
      obtain ⟨owner, howner, r', fields', hr', hjoined', s, p, e, kind, hreaches, hrest⟩ :=
        ih hreading' hmem h
      obtain ⟨entry, hentry, hread⟩ := FilterReading.entry_of_mem hreading' (hmem owner howner)
      have hbecomes := FilterEntry.becomes_of_ofEntry hread
      have hfield : owner.field = entry.field := hbecomes.field
      obtain ⟨-, hvalue, hrange⟩ := Condition.exists_of_joined (hjoined' ▸ hbecomes.condition)
      rw [hfield] at hr' hreaches
      exact ⟨s, p, e, kind, .nested hentry hr' (Condition.nested?_eq_some.2 ⟨hvalue, hrange⟩)
        hreaches, hrest⟩

/-- **Reading loses and invents nothing**: where a filter map can be read, the conditions that it
lists split into the nodes and the unknown names, in order and one for one. Building the nodes fails
exactly if there are unknown names, and names them all. Compiling them reports no empty range but of
a filter on related records. -/
theorem reading_accounts
    (h : FilterReading.ofMap schema c.pageKey combinator filter = .ok reading) :
    (∃ entries, FilterMap.Lists c.pageKey filter entries ∧
      FilterReading.Accounts schema combinator entries reading.nodes reading.unknown) ∧
    FilterNode.ofMap schema c.pageKey combinator filter =
      (if reading.unknown = [] then .ok reading.nodes
        else .error (.unknownFields schema.entity reading.unknown)) ∧
    ∀ field, c.compile schema reading.nodes = .error (.emptyRange field) →
      ∃ n ∈ reading.nodes, ∃ r fields, schema.get? n.field = some (.relation r) ∧
        n.condition = .joined fields ∧
        ∃ s p e kind, c.Reaches (c.target r) (.child .root n.field) fields s p e kind ∧
          e.IsEmptyRange ∧ field = e.field := by
  refine ⟨⟨_, FilterMap.lists_ofMap _ _, FilterReading.accounts_ofMap h⟩, ?_, ?_⟩
  · rw [FilterNode.ofMap, h]
    change reading.known schema.entity = _
    simp only [FilterReading.known, List.isEmpty_iff]
  · intro field herror
    rcases bind_eq_error.1 herror with herror | ⟨compiled, -, herror⟩
    · exact exists_nested_of_emptyRange h (fun n hn => hn) herror
    · cases herror

/-- A name that people do not have is reported, whatever else the map says. The range without bounds
is one of the friends, and complained about when the filter on them is compiled. -/
theorem reading_accounts_friends :
    let c : FilterContext := ⟨.people, "page", .builtIn, .utc⟩
    let filter : FilterMap :=
      [("page", .ofNat 1), ("age", .obj [("from", .ofNat 18), ("to", .null)]),
        ("Not", .obj [("nickname", .null), ("friends", .obj [("age", .obj [("from", .null)])])])]
    ∃ reading, FilterReading.ofMap .person c.pageKey .or filter = .ok reading ∧
      FilterNode.ofMap .person c.pageKey .or filter =
        .error (.unknownFields "person" ["nickname"]) ∧
      c.compile .person reading.nodes = .error (.emptyRange "age") ∧
      ∃ n ∈ reading.nodes, n.condition = .joined [("age", .obj [("from", .null)])] := by
  intro c filter
  obtain ⟨reading, hreading, hunknown, hconditions, hcompile⟩ :
      ∃ reading, FilterReading.ofMap .person c.pageKey .or filter = .ok reading ∧
        reading.unknown = ["nickname"] ∧
        reading.nodes.map FilterNode.condition =
          [.range (.atLeast (.ofNat 18)) [], .joined [("age", .obj [("from", .null)])]] ∧
        c.compile .person reading.nodes = .error (.emptyRange "age") :=
    ⟨_, rfl, rfl, rfl, rfl⟩
  obtain ⟨-, hnodes, hempty⟩ := reading_accounts hreading
  obtain ⟨n, hn, r, fields, hr, hjoined, -⟩ := hempty "age" hcompile
  rw [hunknown] at hnodes
  have hmem : n.condition ∈ reading.nodes.map FilterNode.condition := List.mem_map_of_mem hn
  rw [hconditions, hjoined] at hmem
  obtain rfl : fields = [("age", .obj [("from", .null)])] := by simpa using hmem
  exact ⟨reading, hreading, hnodes, hcompile, n, hn, hjoined⟩

/-- The page key counts before `NOT`: where they are the same, the conditions under it are neither
read nor complained about. -/
theorem page_key_hides_negation :
    FilterEntry.isNotKey "NOT" = true ∧
    ∃ reading,
      FilterReading.ofMap .person "NOT" .and [("NOT", .obj [("age", .ofNat 4)])] = .ok reading ∧
      ¬ FilterReading.Accounts .person .and [⟨.not, "age", .ofNat 4⟩] reading.nodes
        reading.unknown := by
  refine ⟨rfl, _, rfl, ?_⟩
  intro h
  cases h

end FilterContext

end RowFilter
