import RowFilter.Proofs.Filter.Refusal
import RowFilter.Proofs.Filter.Related
import RowFilter.Proofs.Filter.TextValue
import RowFilter.Proofs.StableSort

/-!
# Filters up to letter case

Two filter maps of one shape may differ in the case of the texts that they give to fields and
identities of type `String`. Entry by entry such maps are read into nodes whose conditions can stand
in for one another, in filters nested at any depth; so if one of the maps compiles then the other
compiles to the same predicate and joins.
-/

namespace RowFilter

namespace FilterContext

mutual

/-- Whether what two values state about a field differs at most in the case of texts that are given
to fields, or identities, of type `String`. -/
inductive Alike (c : FilterContext) : FieldKind → Json → Json → Prop where
  | same (kind : FieldKind) (v : Json) : Alike c kind v v
  /-- Values of texts, or of keys that are texts. -/
  | text {kind : FieldKind} {v v' : Json}
      (htype : (DeclaredType.ofFieldKind kind).valueType? = some .string)
      (hflat : (DeclaredType.ofFieldKind kind).isRelation = true → Condition.nested? v = none)
      (htexts : v.CaseAlike v') : Alike c kind v v'
  /-- Filters on the records that a relation leads to. -/
  | nested {r : Relation} {v v' : Json} {filter filter' : FilterMap}
      (hv : Condition.nested? v = some filter) (hv' : Condition.nested? v' = some filter')
      (hentries : AlikeEntries c (c.target r) (FilterEntry.ofMap c.pageKey filter)
        (FilterEntry.ofMap c.pageKey filter')) : Alike c (.relation r) v v'

/-- Whether the entries of two filter maps on the records of a schema correspond, in order, and
differ at most in the case of such texts. -/
inductive AlikeEntries (c : FilterContext) :
    FieldSchema → List FilterEntry → List FilterEntry → Prop where
  | nil (schema : FieldSchema) : AlikeEntries c schema [] []
  | cons {schema : FieldSchema} {e e' : FilterEntry} {rest rest' : List FilterEntry}
      (hnegation : e.negation = e'.negation) (hkey : e.key = e'.key)
      (hvalue : ∀ kind, schema.get? e.field = some kind → Alike c kind e.value e'.value)
      (hrest : AlikeEntries c schema rest rest') :
      AlikeEntries c schema (e :: rest) (e' :: rest')

end

/-- Whether two filter maps on the records of a schema have the same entries but for the case of
texts that are given to fields, or identities, of type `String`. -/
def AlikeMaps (c : FilterContext) (schema : FieldSchema) (filter filter' : FilterMap) : Prop :=
  c.AlikeEntries schema (FilterEntry.ofMap c.pageKey filter) (FilterEntry.ofMap c.pageKey filter')

variable {c : FilterContext} {schema target : FieldSchema} {kind : FieldKind} {v v' : Json}
  {e e' : FilterEntry} {entries entries' : List FilterEntry} {filter filter' : FilterMap}
  {combinator : Combinator}

theorem AlikeEntries.refl (schema : FieldSchema) (entries : List FilterEntry) :
    c.AlikeEntries schema entries entries := by
  induction entries with
  | nil => exact .nil schema
  | cons e rest ih => exact .cons rfl rfl (fun kind _ => .same kind e.value) ih

mutual

theorem Alike.symm {kind : FieldKind} {v v' : Json} : c.Alike kind v v' → c.Alike kind v' v
  | .same kind v => .same kind v
  | .text htype hflat htexts =>
    .text htype (fun hrelation => htexts.nested?_eq_none (hflat hrelation)) (Eq.symm htexts)
  | .nested hv hv' hentries => .nested hv' hv hentries.symm

theorem AlikeEntries.symm {schema : FieldSchema} {entries entries' : List FilterEntry} :
    c.AlikeEntries schema entries entries' → c.AlikeEntries schema entries' entries
  | .nil schema => .nil schema
  | .cons hnegation hkey hvalue hrest =>
    .cons hnegation.symm hkey.symm
      (fun kind hkind => (hvalue kind (by rwa [FilterEntry.field, hkey])).symm) hrest.symm

end

/-! ## Nodes -/

/-- Whether a condition on a field of a kind can stand in for another one. -/
inductive AlikeConditions (c : FilterContext) : FieldKind → Condition → Condition → Prop where
  | same {kind : FieldKind} {condition : Condition}
      (hflat : ∀ filter, condition ≠ .joined filter) : AlikeConditions c kind condition condition
  | text {kind : FieldKind} {condition condition' : Condition}
      (htype : (DeclaredType.ofFieldKind kind).valueType? = some .string)
      (hflat : ∀ filter, condition ≠ .joined filter)
      (hreplaces : c.Replaces condition' condition) : AlikeConditions c kind condition condition'
  | joined {r : Relation} {filter filter' : FilterMap}
      (hfilters : c.AlikeMaps (c.target r) filter filter') :
      AlikeConditions c (.relation r) (.joined filter) (.joined filter')

/-- Whether two nodes differ in their conditions only, of which one can stand in for the other. -/
inductive AlikeNodes (c : FilterContext) (schema : FieldSchema) (n : FilterNode) :
    FilterNode → Prop where
  | mk {kind : FieldKind} {condition' : Condition} (hkind : schema.get? n.field = some kind)
      (htype : n.type = .ofFieldKind kind)
      (hcondition : c.AlikeConditions kind n.condition condition') :
      AlikeNodes c schema n { n with condition := condition' }

/-- What a value states about a field, where that is supported, is stated by one like it. -/
theorem Alike.exists_condition {field : String} {condition : Condition} (h : c.Alike kind v v')
    (hcondition : Condition.ofValue (.ofFieldKind kind) field v = .ok condition)
    (hsuits : ∀ type, (DeclaredType.ofFieldKind kind).valueType? = some type →
      FilterNode.suits type condition = true) :
    ∃ condition', Condition.ofValue (.ofFieldKind kind) field v' = .ok condition' ∧
      c.AlikeConditions kind condition condition' := by
  cases h with
  | same =>
    refine ⟨condition, hcondition, ?_⟩
    by_cases hflat : ∀ filter, condition ≠ .joined filter
    · exact .same hflat
    · obtain ⟨filter, hjoined⟩ := not_forall.1 hflat
      obtain rfl := not_not.1 hjoined
      cases kind with
      | scalar type =>
        exact absurd rfl (Condition.ne_joined_of_ofValue hcondition nofun filter)
      | relation r => exact .joined (.refl _ _)
  | text htype hflat htexts =>
    obtain ⟨condition', hcondition', hreplaces⟩ :=
      Condition.exists_replaces htype htexts hflat hcondition (hsuits _ htype)
    exact ⟨condition', hcondition',
      .text htype (Condition.ne_joined_of_ofValue hcondition hflat) hreplaces⟩
  | @nested r _ _ filter filter' hv hv' hentries =>
    obtain rfl := (Condition.ofValue_relation rfl hcondition filter).2 hv
    obtain ⟨rfl, hrange⟩ := Condition.nested?_eq_some.1 hv'
    exact ⟨_, Condition.ofValue_joined rfl hrange field, .joined hentries⟩

/-- What an entry is read as, where its node is supported, has a counterpart among what is read from
one like it. -/
inductive AlikeReadings (c : FilterContext) (schema : FieldSchema) : Reading → Reading → Prop where
  | unknown (field : String) : AlikeReadings c schema (.unknown field) (.unknown field)
  | node {n n' : FilterNode} (h : c.AlikeNodes schema n n') :
      AlikeReadings c schema (.node n) (.node n')

theorem exists_alikeReading {reading : Reading} (hnegation : e.negation = e'.negation)
    (hkey : e.key = e'.key)
    (hvalue : ∀ kind, schema.get? e.field = some kind → c.Alike kind e.value e'.value)
    (hread : Reading.ofEntry schema combinator e = .ok reading)
    (hsupported : ∀ n, reading = .node n → n.isSupported = true) :
    ∃ reading', Reading.ofEntry schema combinator e' = .ok reading' ∧
      c.AlikeReadings schema reading reading' := by
  have hfield : e'.field = e.field := by rw [FilterEntry.field, FilterEntry.field, hkey]
  cases reading with
  | unknown field =>
    have hnone := Reading.ofEntry_unknown hread
    unfold Reading.ofEntry at hread ⊢
    rw [hnone] at hread
    rw [hfield, hnone]
    exact ⟨_, hread, .unknown field⟩
  | node n =>
    obtain ⟨kind, condition, hkind, hcondition, rfl⟩ := Reading.ofEntry_node hread
    obtain ⟨condition', hcondition', halike⟩ := (hvalue kind hkind).exists_condition hcondition
      (fun type htype => suits_of_isSupported (by exact htype) (hsupported _ rfl))
    refine ⟨_, (ofEntry_eq_node (hfield ▸ hkind)).2 ⟨condition', hfield ▸ hcondition', rfl⟩, ?_⟩
    rw [hfield, ← hnegation]
    exact .node (.mk hkind rfl halike)

theorem AlikeEntries.exists_readings {readings : List Reading}
    (h : c.AlikeEntries schema entries entries')
    (hread : List.Forall₂ (fun e reading => Reading.ofEntry schema combinator e = .ok reading)
      entries readings)
    (hsupported : ∀ n, .node n ∈ readings → n.isSupported = true) :
    ∃ readings', List.Forall₂ (fun e reading => Reading.ofEntry schema combinator e = .ok reading)
        entries' readings' ∧
      List.Forall₂ (c.AlikeReadings schema) readings readings' := by
  induction hread generalizing entries' with
  | nil =>
    cases h
    exact ⟨[], .nil, .nil⟩
  | @cons e reading entries readings hread _ ih =>
    cases h with
    | cons hnegation hkey hvalue hrest =>
      obtain ⟨reading', hread', halike⟩ := exists_alikeReading hnegation hkey hvalue hread
        fun n hn => hsupported n (hn ▸ List.mem_cons_self)
      obtain ⟨readings', hreads', hall⟩ :=
        ih hrest fun n hn => hsupported n (List.mem_cons_of_mem _ hn)
      exact ⟨reading' :: readings', .cons hread' hreads', .cons halike hall⟩

/-- A filter map whose nodes are supported is read like each that is like it: with like nodes, and
with the same unknown names. -/
theorem AlikeMaps.exists_reading {reading : FilterReading} (h : c.AlikeMaps schema filter filter')
    (hreading : FilterReading.ofMap schema c.pageKey combinator filter = .ok reading)
    (hsupported : ∀ n ∈ reading.nodes, n.isSupported = true) :
    ∃ reading', FilterReading.ofMap schema c.pageKey combinator filter' = .ok reading' ∧
      List.Forall₂ (c.AlikeNodes schema) reading.nodes reading'.nodes ∧
      reading'.unknown = reading.unknown := by
  obtain ⟨readings, hreadings, hreading⟩ := bind_eq_ok.1 hreading
  cases hreading
  obtain ⟨readings', hreadings', halike⟩ := AlikeEntries.exists_readings h
    (forall₂_of_mapM hreadings)
    fun n hn => hsupported n (List.mem_filterMap.2 ⟨_, hn, rfl⟩)
  refine ⟨_, bind_eq_ok.2 ⟨readings', mapM_of_forall₂ hreadings', rfl⟩, ?_, ?_⟩
  · refine List.rel_filterMap ?_ halike
    rintro _ _ (_ | hn)
    · exact .none
    · exact .some hn
  · rw [← List.forall₂_eq_eq_eq]
    refine List.rel_filterMap ?_ (halike.flip)
    rintro _ _ (_ | hn)
    · exact .some rfl
    · exact .none

/-! ## Levels -/

theorem isSupported_of_compileNode
    {nested : FieldSchema → Path → List FilterNode → Except FilterError Compiled} {root : Path}
    {n : FilterNode} {part : Compiled} (h : c.compileNode nested schema root n = .ok part) :
    n.isSupported = true := by
  unfold compileNode at h
  dsimp only at h
  split at h
  · assumption
  · cases h

variable {root : Path} {n n' : FilterNode} {part compiled : Compiled}
  {nodes nodes' : List FilterNode}
  {nested nested' : FieldSchema → Path → List FilterNode → Except FilterError Compiled}

/-- A node is compiled in the way that it allows. -/
theorem NodeOutcome.compileNode_eq (hkind : schema.get? n.field = some kind)
    (htype : n.type = .ofFieldKind kind)
    (h : NodeOutcome c (fun target path combinator filter inner => ∃ nodes,
      c.children target combinator filter = .ok nodes ∧ nested target path nodes = .ok inner)
      schema root n part) : c.compileNode nested schema root n = .ok part := by
  have hsupported := h.isSupported hkind htype
  unfold compileNode
  dsimp only
  rw [if_pos hsupported, htype]
  cases h with
  | column hkind' hsuits hp =>
    cases hkind.symm.trans hkind'
    exact bind_eq_ok.2 ⟨_, hp, rfl⟩
  | absent hkind' hnull =>
    cases hkind.symm.trans hkind'
    rw [hkind, hnull]
    rfl
  | key hkind' hcardinality hidentity hpresent _ hp
  | member hkind' hcardinality hidentity hpresent _ hp =>
    cases hkind.symm.trans hkind'
    rw [hkind]
    dsimp only [DeclaredType.ofFieldKind]
    split
    · next filter hjoined => exact absurd hjoined ((compileValue_ok hp).ne_joined filter)
    · next hnull =>
      rw [hnull] at hpresent
      cases hpresent
    · rw [hidentity, hcardinality]
      exact bind_eq_ok.2 ⟨_, hp, rfl⟩
  | joined hkind' hjoined hinner =>
    cases hkind.symm.trans hkind'
    obtain ⟨nodes, hnodes, hinner⟩ := hinner
    rw [hkind, hjoined]
    exact bind_eq_ok.2 ⟨nodes, hnodes, bind_eq_ok.2 ⟨_, hinner, rfl⟩⟩

theorem eq_of_isNullTest {condition : Condition} (h : condition.isNullTest = true) :
    condition = .equals .null := by
  unfold Condition.isNullTest at h
  split at h
  · rfl
  · cases h

/-- What one condition was compiled to, another that can stand in for it is compiled to as well. -/
theorem AlikeConditions.compileValue {condition' : Condition} {type : ScalarType} {path : Path}
    {p : Predicate} (h : c.AlikeConditions kind n.condition condition')
    (htype : (DeclaredType.ofFieldKind kind).valueType? = some type)
    (hsuits : FilterNode.suits type n.condition = true)
    (hp : c.compileValue n type path = .ok p) :
    FilterNode.suits type condition' = true ∧
      condition'.isNullTest = n.condition.isNullTest ∧
      c.compileValue { n with condition := condition' } type path = .ok p := by
  have hvalue := compileValue_ok hp
  generalize hcondition : n.condition = condition at h hsuits hvalue
  cases h with
  | same => exact ⟨hsuits, rfl, hvalue.compileValue_eq⟩
  | text htype' _ hreplaces =>
    cases htype.symm.trans htype'
    exact ⟨hreplaces.suits, hreplaces.isNullTest, (hreplaces.outcome _ _ hvalue).compileValue_eq⟩
  | joined => exact absurd rfl (hvalue.ne_joined _)

/-- Alike nodes are compiled alike, if like filters nested in them are. -/
theorem AlikeNodes.compileNode (h : c.AlikeNodes schema n n')
    (hnested : ∀ {r filter filter' path nodes inner}, n.condition = .joined filter →
      n'.condition = .joined filter' → c.AlikeMaps (c.target r) filter filter' →
      c.children (c.target r) n.combinator filter = .ok nodes →
      nested (c.target r) path nodes = .ok inner →
      ∃ nodes', c.children (c.target r) n.combinator filter' = .ok nodes' ∧
        nested' (c.target r) path nodes' = .ok inner)
    (hpart : c.compileNode nested schema root n = .ok part) :
    c.compileNode nested' schema root n' = .ok part := by
  obtain ⟨hkind, htype, hcondition⟩ := h
  refine NodeOutcome.compileNode_eq hkind htype ?_
  cases compileNode_ok hkind htype hpart with
  | column hscalar hsuits hp =>
    cases hkind.symm.trans hscalar
    obtain ⟨hsuits', -, hp'⟩ := hcondition.compileValue rfl hsuits hp
    exact .column hkind hsuits' hp'
  | absent hrelation hnull =>
    refine .absent hrelation ?_
    generalize n.condition = condition at hcondition hnull
    cases hcondition with
    | same => exact hnull
    | text _ _ hreplaces => exact eq_of_isNullTest (hreplaces.isNullTest.trans (by rw [hnull]; rfl))
    | joined => cases hnull
  | key hrelation hone hidentity hpresent hsuits hp =>
    cases hkind.symm.trans hrelation
    obtain ⟨hsuits', hnull, hp'⟩ :=
      hcondition.compileValue (by rw [DeclaredType.ofFieldKind, hidentity]; rfl) hsuits hp
    exact .key hrelation hone hidentity (hnull.trans hpresent) hsuits' hp'
  | member hrelation hmany hidentity hpresent hsuits hp =>
    cases hkind.symm.trans hrelation
    obtain ⟨hsuits', hnull, hp'⟩ :=
      hcondition.compileValue (by rw [DeclaredType.ofFieldKind, hidentity]; rfl) hsuits hp
    exact .member hrelation hmany hidentity (hnull.trans hpresent) hsuits' hp'
  | joined hrelation hjoined hinner =>
    cases hkind.symm.trans hrelation
    obtain ⟨nodes, hnodes, hinner⟩ := hinner
    generalize hsource : n.condition = condition at hcondition hjoined
    subst hjoined
    cases hcondition with
    | same hflat => exact absurd rfl (hflat _)
    | text _ hflat => exact absurd rfl (hflat _)
    | joined hfilters =>
      obtain ⟨nodes', hnodes', hinner'⟩ := hnested hsource rfl hfilters hnodes hinner
      exact .joined hrelation rfl ⟨nodes', hnodes', hinner'⟩

theorem AlikeMaps.exists_children (h : c.AlikeMaps target filter filter')
    (hnodes : c.children target combinator filter = .ok nodes)
    (hsupported : ∀ n ∈ nodes, n.isSupported = true) :
    ∃ nodes', c.children target combinator filter' = .ok nodes' ∧
      List.Forall₂ (c.AlikeNodes target) nodes nodes' := by
  obtain ⟨reading, hreading, hperm⟩ := children_ok hnodes
  obtain ⟨reading', hreading', halike, -⟩ :=
    h.exists_reading hreading fun n hn => hsupported n (hperm.mem_iff.2 hn)
  obtain ⟨reading₂, hreading₂, hsort⟩ := bind_eq_ok.1 hnodes
  cases hreading.symm.trans hreading₂
  cases hsort
  refine ⟨_, bind_eq_ok.2 ⟨reading', hreading', rfl⟩, StableSort.forall₂_sort ?_ halike⟩
  rintro _ _ _ _ ⟨⟩ ⟨⟩
  rfl

theorem isSupported_of_compileLevel {fuel : Nat}
    (h : c.compileLevel (fuel + 1) schema root nodes = .ok compiled) (hn : n ∈ nodes) :
    n.isSupported = true := by
  obtain ⟨parts, rfl, hparts, -⟩ := compileLevel_ok h
  obtain ⟨part, hpart, rfl⟩ := List.mem_map.1 hn
  exact isSupported_of_compileNode (hparts part hpart)

/-- Alike nodes are compiled alike, with fuel for the filters nested in the ones and in the
others. -/
theorem compileLevel_alike {fuel fuel' : Nat}
    (halike : List.Forall₂ (c.AlikeNodes schema) nodes nodes')
    (hfuel : ∀ n ∈ nodes, n.condition.depth ≤ fuel)
    (hfuel' : ∀ n ∈ nodes', n.condition.depth ≤ fuel')
    (h : c.compileLevel (fuel + 1) schema root nodes = .ok compiled) :
    c.compileLevel (fuel' + 1) schema root nodes' = .ok compiled := by
  -- on the fuel of the first run, since a nested filter is compiled with less of it
  induction fuel using Nat.strong_induction_on
    generalizing fuel' schema root nodes nodes' compiled with
  | _ fuel ih =>
    obtain ⟨pieces, hpieces, h⟩ := bind_eq_ok.1 h
    refine bind_eq_ok.2 ⟨pieces, mapM_eq_of_forall₂ halike hpieces ?_, h⟩
    intro n hn n' hn' hnodes piece hpiece
    obtain ⟨part, hpart, hpiece⟩ := bind_eq_ok.1 hpiece
    have hsame : n'.combinator = n.combinator ∧ n'.negation = n.negation := by
      cases hnodes
      exact ⟨rfl, rfl⟩
    rw [hsame.1, hsame.2]
    refine bind_eq_ok.2 ⟨part, hnodes.compileNode ?_ hpart, hpiece⟩
    intro r filter filter' path inside inner hjoined hjoined' hfilters hinside hinner
    obtain ⟨less, rfl, hless⟩ := exists_fuel_of_joined hjoined (hfuel n hn)
    obtain ⟨less', rfl, hless'⟩ := exists_fuel_of_joined hjoined' (hfuel' n' hn')
    obtain ⟨inside', hinside', halike'⟩ :=
      hfilters.exists_children hinside fun m hm => isSupported_of_compileLevel hinner hm
    refine ⟨inside', hinside', ih less (Nat.lt_succ_self _) halike' ?_ ?_ hinner⟩
    · exact fun m hm => (depth_of_mem_children hinside hm).trans hless
    · exact fun m hm => (depth_of_mem_children hinside' hm).trans hless'

/-! ## Filter maps -/

theorem AlikeMaps.symm (h : c.AlikeMaps schema filter filter') : c.AlikeMaps schema filter' filter :=
  AlikeEntries.symm h

theorem AlikeMaps.compileMap (h : c.AlikeMaps schema filter filter')
    (hcompiled : c.compileMap schema combinator filter = .ok compiled) :
    c.compileMap schema combinator filter' = .ok compiled := by
  obtain ⟨nodes, hnodes, hcompiled⟩ := bind_eq_ok.1 hcompiled
  obtain ⟨reading, hreading, hknown⟩ := bind_eq_ok.1 hnodes
  obtain ⟨inner, hinner, hresult⟩ := bind_eq_ok.1 hcompiled
  obtain rfl := FilterReading.known_ok hknown
  obtain ⟨reading', hreading', halike, hunknown⟩ :=
    h.exists_reading hreading fun n hn => isSupported_of_compileLevel hinner hn
  have hknown' : reading'.known schema.entity = .ok reading'.nodes := by
    unfold FilterReading.known at hknown ⊢
    rw [hunknown]
    split at hknown
    · next hempty => exact if_pos hempty
    · cases hknown
  refine bind_eq_ok.2 ⟨reading'.nodes, bind_eq_ok.2 ⟨reading', hreading', hknown'⟩, ?_⟩
  exact bind_eq_ok.2 ⟨inner, compileLevel_alike halike (fun n hn => depth_le_of_mem hn)
    (fun n hn => depth_le_of_mem hn) hinner, hresult⟩

/-- **Letter case in filters**: filter maps that differ at most in the case of texts given to fields
or identities of type `String` compile to the same predicate and joins, or neither compiles. -/
theorem AlikeMaps.compileMap_iff (h : c.AlikeMaps schema filter filter') :
    c.compileMap schema combinator filter = .ok compiled ↔
      c.compileMap schema combinator filter' = .ok compiled :=
  ⟨h.compileMap, h.symm.compileMap⟩

end FilterContext

end RowFilter
