import RowFilter.Proofs.Filter.Correctness
import RowFilter.Proofs.Filter.Reordering

/-!
# The order of filter entries does not matter

Two filter maps that differ only in the order of object entries open the same relations and hold of
the same rows. So what they compile to follows the same relations and, wherever both can be
evaluated, lets the same rows pass. The order decides only the order of the joins, and which of
several ways to join a relation gives its fetch mode.
-/

namespace RowFilter

/-- The join, fetched in this mode. -/
def Join.withFetch (fetch : FetchMode) (join : Join) : Join := { join with fetch }

/-! ## Combinators -/

theorem Combinator.truth_eq_of_mem_iff {combinator : Combinator} {ts us : List Truth}
    (h : ∀ t, t ∈ ts ↔ t ∈ us) : combinator.truth ts = combinator.truth us := by
  cases ts with
  | nil => rw [List.eq_nil_iff_forall_not_mem.2 fun t ht => List.not_mem_nil ((h t).2 ht)]
  | cons t ts =>
    cases us with
    | nil => exact (List.not_mem_nil ((h t).1 List.mem_cons_self)).elim
    | cons u us =>
      cases combinator with
      | and => exact Truth.all_eq_of_mem_iff h
      | or => exact Truth.any_eq_of_mem_iff h

theorem Literal.memberTruth_eq_of_mem_iff {l : Literal} {candidates candidates' : List Literal}
    (h : ∀ r, r ∈ candidates ↔ r ∈ candidates') :
    l.memberTruth candidates = l.memberTruth candidates' := by
  have hany : Truth.any (candidates.map (l.compareTruth .equal)) =
      Truth.any (candidates'.map (l.compareTruth .equal)) := by
    refine Truth.any_eq_of_mem_iff fun t => ?_
    rw [List.mem_map, List.mem_map]
    exact exists_congr fun r => and_congr_left' (h r)
  rw [memberTruth, memberTruth, hany]

/-! ## Values -/

theorem Json.Reordered.exists_obj {fields : Keyed Json} {value : Json}
    (h : Reordered (.obj fields) value) : ∃ fields', value = .obj fields' := by
  cases h with
  | obj => exact ⟨_, rfl⟩

namespace FilterContext

variable {c : FilterContext} {type : ScalarType} {l : Literal} {value value' : Json}
  {fields fields' filter filter' : FilterMap} {combinator : Combinator} {choice : Path → Row}
  {schema : FieldSchema} {path p : Path} {field name : String}

/-- A cast gives the same in any order, since what has entries to reorder cannot be cast. -/
theorem comparand_castValue_eq (h : value.Reordered value') :
    comparand type (c.casters.castValue c.zone type value) =
      comparand type (c.casters.castValue c.zone type value') := by
  cases h with
  | arr | obj => rfl
  | _ => rfl

theorem comparand_castLeaf_eq (h : value.Reordered value') :
    comparand type (c.casters.castLeaf c.zone type value) =
      comparand type (c.casters.castLeaf c.zone type value') := by
  cases h with
  | arr | obj => cases type <;> rfl
  | _ => rfl

theorem taken_reordered (h : value.Reordered value') :
    (taken type value).Reordered (taken type value') := by
  unfold taken
  split
  · exact h.upper
  · exact h

theorem candidatesOf_subset {values values' : List Json}
    (h : ∀ item ∈ values, ∃ item' ∈ values', item.Reordered item') :
    ∀ r ∈ c.candidatesOf type values, r ∈ c.candidatesOf type values' := by
  intro r hr
  obtain ⟨leaf, hleaf, rfl⟩ := List.mem_map.1 hr
  obtain ⟨leaf', hleaf', hrelated⟩ := Json.exists_leaf_of_items h hleaf
  exact List.mem_map.2 ⟨leaf', hleaf', (comparand_castLeaf_eq (taken_reordered hrelated)).symm⟩

theorem boundsOf_eq (h : Json.Reordered (.obj fields) (.obj fields')) :
    c.boundsOf type fields = c.boundsOf type fields' := by
  unfold boundsOf
  have hfrom := h.getD_get? "from"
  have hto := h.getD_get? "to"
  dsimp only
  rw [hfrom.isNull_eq, hto.isNull_eq, comparand_castValue_eq hfrom, comparand_castValue_eq hto]

theorem boundsTimeOfDay_eq (h : Json.Reordered (.obj fields) (.obj fields')) :
    boundsTimeOfDay fields = boundsTimeOfDay fields' := by
  have hflags := h.getD_get? "flags"
  unfold boundsTimeOfDay
  cases hok : ControlFlag.ofValue ((fields.get? "flags").getD .null) with
  | ok flags => rw [Condition.ofValue_flags hflags hok]
  | error e =>
    cases hok' : ControlFlag.ofValue ((fields'.get? "flags").getD .null) with
    | ok flags =>
      rw [Condition.ofValue_flags hflags.symm hok'] at hok
      cases hok
    | error e' => rfl

/-- What a value states about a literal does not depend on order. -/
theorem valueTruth_eq (h : value.Reordered value') :
    c.valueTruth type l value = c.valueTruth type l value' := by
  cases h with
  | null | bool | num | str => rfl
  | @arr items items' hlength hitems =>
    have harr := Json.Reordered.arr hlength hitems
    rw [valueTruth, valueTruth]
    refine Literal.memberTruth_eq_of_mem_iff fun r => ⟨?_, ?_⟩
    · exact candidatesOf_subset (fun _ => harr.exists_item) r
    · exact candidatesOf_subset (fun _ => harr.symm.exists_item) r
  | @obj fields fields' hkeys hvalues =>
    have hobj : Json.Reordered (.obj fields) (.obj fields') := .obj hkeys hvalues
    have hitem : ∀ {fields fields' : FilterMap}, Json.Reordered (.obj fields) (.obj fields') →
        ∀ item ∈ Keyed.values fields, ∃ item' ∈ Keyed.values fields', item.Reordered item' := by
      intro fields fields' h item hitem
      obtain ⟨entry, hentry, rfl⟩ := List.mem_map.1 hitem
      obtain ⟨entry', hentry', -, hrelated⟩ := h.exists_entry hentry
      exact ⟨_, List.mem_map_of_mem hentry', hrelated⟩
    rw [valueTruth, valueTruth, ← Condition.isRange_eq hobj]
    split
    · rw [rangeTruth, rangeTruth, boundsOf_eq hobj, boundsTimeOfDay_eq hobj]
    · refine Literal.memberTruth_eq_of_mem_iff fun r => ⟨?_, ?_⟩
      · exact candidatesOf_subset (hitem hobj) r
      · exact candidatesOf_subset (hitem hobj.symm) r

theorem identityTruth_eq {r : Relation} (h : value.Reordered value') :
    c.identityTruth choice r path field value = c.identityTruth choice r path field value' := by
  unfold identityTruth
  split
  · exact valueTruth_eq h
  · exact valueTruth_eq h
  · rfl

/-! ## Filter maps -/

theorem mem_entryTruths {t : Truth} :
    t ∈ c.entryTruths combinator choice schema path filter ↔
      ∃ e ∈ FilterEntry.ofMap c.pageKey filter, e.isDeclaredIn schema = true ∧
        c.entryTruth combinator choice schema path e = t := by
  rw [entryTruths_eq, declaredTruths, List.mem_map]
  simp only [List.mem_filter, and_assoc]

/-- Maps have the same truths in any order if related entries have. -/
theorem mem_entryTruths_iff (h : Json.Reordered (.obj filter) (.obj filter'))
    (hentry : ∀ e ∈ FilterEntry.ofMap c.pageKey filter, ∀ e', e.Reordered e' →
      c.entryTruth combinator choice schema path e =
        c.entryTruth combinator choice schema path e') (t : Truth) :
    t ∈ c.entryTruths combinator choice schema path filter ↔
      t ∈ c.entryTruths combinator choice schema path filter' := by
  rw [mem_entryTruths, mem_entryTruths]
  constructor
  · rintro ⟨e, he, hdeclared, rfl⟩
    obtain ⟨e', he', hrelated⟩ := FilterEntry.exists_of_mem h he
    refine ⟨e', he', ?_, (hentry e he e' hrelated).symm⟩
    rwa [FilterEntry.isDeclaredIn, ← hrelated.field_eq]
  · rintro ⟨e', he', hdeclared, rfl⟩
    obtain ⟨e, he, hsymm⟩ := FilterEntry.exists_of_mem h.symm he'
    refine ⟨e, he, ?_, hentry e he e' hsymm.symm⟩
    rwa [FilterEntry.isDeclaredIn, ← hsymm.field_eq]

theorem entryTruth_eq {e e' : FilterEntry} (h : e.Reordered e')
    (hfield : ∀ kind, c.fieldTruth combinator choice kind path e.field e.value =
      c.fieldTruth combinator choice kind path e.field e'.value) :
    c.entryTruth combinator choice schema path e =
      c.entryTruth combinator choice schema path e' := by
  unfold entryTruth
  rw [← h.field_eq, h.negation]
  cases schema.get? e.field with
  | none => rfl
  | some kind => exact congrArg e'.negation.truth (hfield kind)

/-- What a value states about a field does not depend on order. -/
theorem fieldTruth_eq (h : value.Reordered value') (kind : FieldKind) (path : Path)
    (field : String) :
    c.fieldTruth combinator choice kind path field value =
      c.fieldTruth combinator choice kind path field value' := by
  -- the entries of a nested filter, those under `NOT` included, nest less deep than the filter
  induction hdepth : value.depth using Nat.strong_induction_on
    generalizing value value' kind path field with
  | _ depth ih =>
    cases kind with
    | scalar type =>
      rw [fieldTruth, fieldTruth]
      exact valueTruth_eq h
    | relation r =>
      cases h with
      | null | bool | num | str => rfl
      | arr hlength hitems => exact identityTruth_eq (.arr hlength hitems)
      | @obj fields fields' hkeys hvalues =>
        have hobj : Json.Reordered (.obj fields) (.obj fields') := .obj hkeys hvalues
        rw [fieldTruth, fieldTruth, ← Condition.isRange_eq hobj]
        split
        · exact identityTruth_eq hobj
        · refine Combinator.truth_eq_of_mem_iff
            (mem_entryTruths_iff hobj fun e he e' hrelated => ?_)
          have hshallow : e.value.depth < depth := by
            have hle := FilterEntry.depth_value_le he
            rw [Json.depth] at hdepth
            omega
          exact entryTruth_eq hrelated fun kind => ih _ hshallow hrelated.value kind _ _ rfl

theorem entryTruths_mem_iff (h : Json.Reordered (.obj filter) (.obj filter')) (t : Truth) :
    t ∈ c.entryTruths combinator choice schema path filter ↔
      t ∈ c.entryTruths combinator choice schema path filter' :=
  mem_entryTruths_iff h (fun _ _ _ hrelated =>
    entryTruth_eq hrelated fun kind => fieldTruth_eq hrelated.value kind _ _) t

/-! ## Related rows -/

theorem States.exists_reordered {pageKey key : String}
    (h : Json.Reordered (.obj filter) (.obj filter')) (hstates : States pageKey filter key value) :
    ∃ value', States pageKey filter' key value' ∧ value.Reordered value' := by
  obtain ⟨e, he, rfl, rfl⟩ := states_iff.1 hstates
  obtain ⟨e', he', hrelated⟩ := FilterEntry.exists_of_mem h he
  exact ⟨e'.value, states_iff.2 ⟨e', he', hrelated.key.symm, rfl⟩, hrelated.value⟩

/-- A map opens the relations that it opens in another order. -/
theorem Opens.reordered (h : c.Opens schema path filter p name)
    (hfilter : Json.Reordered (.obj filter) (.obj filter')) :
    c.Opens schema path filter' p name := by
  induction h generalizing filter' with
  | nested hstates hr hrange =>
    obtain ⟨value, hstates', hvalue⟩ := hstates.exists_reordered hfilter
    obtain ⟨fields', rfl⟩ := hvalue.exists_obj
    exact .nested hstates' hr (Condition.isRange_eq hvalue ▸ hrange)
  | deeper hstates hr hrange _ ih =>
    obtain ⟨value, hstates', hvalue⟩ := hstates.exists_reordered hfilter
    obtain ⟨fields', rfl⟩ := hvalue.exists_obj
    exact .deeper hstates' hr (Condition.isRange_eq hvalue ▸ hrange) (ih hvalue)
  | member hstates hr hmany hpresent hsingle =>
    obtain ⟨value, hstates', hvalue⟩ := hstates.exists_reordered hfilter
    refine .member hstates' hr hmany (hvalue.isNull_eq ▸ hpresent) ?_
    rintro fields' rfl
    obtain ⟨fields, rfl⟩ := hvalue.symm.exists_obj
    exact Condition.isRange_eq hvalue ▸ hsingle fields rfl

theorem opens_iff_of_reordered (h : Json.Reordered (.obj filter) (.obj filter')) :
    c.Opens schema path filter p name ↔ c.Opens schema path filter' p name :=
  ⟨fun hopens => hopens.reordered h, fun hopens => hopens.reordered h.symm⟩

/-- A map holds of the rows that it holds of in another order. -/
theorem holds_iff_of_reordered {row : Row} (h : Json.Reordered (.obj filter) (.obj filter')) :
    c.Holds combinator schema filter row ↔ c.Holds combinator schema filter' row := by
  unfold Holds
  refine exists_congr fun choice => and_congr_right' (and_congr ?_ ?_)
  · exact forall_congr' fun p => forall_congr' fun name =>
      imp_congr_left (opens_iff_of_reordered h)
  · rw [Combinator.truth_eq_of_mem_iff (entryTruths_mem_iff h)]

/-! ## Joins -/

variable {start s s' : FieldSchema} {join join' : Join} {joins joins' : List Join}

/-- A path leads to the records of one schema. -/
theorem Leads.unique (h : c.Leads start p s) (h' : c.Leads start p s') : s = s' := by
  induction h generalizing s' with
  | root =>
    generalize hp : Path.root = p at h'
    cases h' with
    | root => rfl
    | step => exact (Path.child_ne_root _ _ hp.symm).elim
  | @step q s name r _ hr ih =>
    generalize hp : q.child name = p at h'
    cases h' with
    | root => exact (Path.child_ne_root _ _ hp).elim
    | step h' hr' =>
      obtain ⟨rfl, rfl⟩ := Path.child_inj.1 hp
      cases ih h'
      cases hr.symm.trans hr'
      rfl

/-- Joins that follow relations differ only in how they are fetched if their paths are equal. -/
theorem FollowsRelation.withFetch_eq {fetch : FetchMode} (h : c.FollowsRelation start join)
    (h' : c.FollowsRelation start join') (hpath : join.path = join'.path) :
    join.withFetch fetch = join'.withFetch fetch := by
  obtain ⟨p, s, name, r, hp, hs, hr, hlocal, hforeign, hcollection⟩ := h
  obtain ⟨p', s', name', r', hp', hs', hr', hlocal', hforeign', hcollection'⟩ := h'
  obtain ⟨rfl, rfl⟩ := Path.child_inj.1 (hp.symm.trans (hpath.trans hp'))
  cases hs.unique hs'
  cases hr.symm.trans hr'
  unfold Join.withFetch
  rw [hpath, hlocal, hforeign, hcollection, hlocal', hforeign', hcollection']

theorem nodup_withFetch {fetch : FetchMode} (h : (joins.map Join.path).Nodup) :
    (joins.map (Join.withFetch fetch)).Nodup := by
  have hpaths : (joins.map (Join.withFetch fetch)).map Join.path = joins.map Join.path := by
    rw [List.map_map]
    rfl
  exact List.Nodup.of_map Join.path (hpaths ▸ h)

/-- Joins that follow relations are the same but for their order and how they are fetched if each
occurs once and their paths are the same. -/
theorem perm_withFetch {fetch : FetchMode} (hnodup : (joins.map Join.path).Nodup)
    (hnodup' : (joins'.map Join.path).Nodup) (h : ∀ join ∈ joins, c.FollowsRelation start join)
    (h' : ∀ join ∈ joins', c.FollowsRelation start join)
    (hpaths : ∀ q, q ∈ joins.map Join.path ↔ q ∈ joins'.map Join.path) :
    (joins.map (Join.withFetch fetch)).Perm (joins'.map (Join.withFetch fetch)) := by
  refine (List.perm_ext_iff_of_nodup (nodup_withFetch hnodup) (nodup_withFetch hnodup')).2
    fun join => ?_
  rw [List.mem_map, List.mem_map]
  constructor
  · rintro ⟨join, hjoin, rfl⟩
    obtain ⟨join', hjoin', hpath⟩ := List.mem_map.1 ((hpaths _).1 (List.mem_map_of_mem hjoin))
    exact ⟨join', hjoin', (h' join' hjoin').withFetch_eq (h join hjoin) hpath⟩
  · rintro ⟨join', hjoin', rfl⟩
    obtain ⟨join, hjoin, hpath⟩ := List.mem_map.1 ((hpaths _).2 (List.mem_map_of_mem hjoin'))
    exact ⟨join, hjoin, (h join hjoin).withFetch_eq (h' join' hjoin') hpath⟩

/-! ## Rows -/

variable {nodes nodes' : List FilterNode} {compiled compiled' : Compiled} {row : Row}

theorem nodup_root_paths
    (hnodes : FilterNode.ofMap schema c.pageKey combinator filter = .ok nodes)
    (hcompile : c.compile schema nodes = .ok compiled) :
    (.root :: compiled.joins.map Join.path).Nodup := by
  refine List.nodup_cons.2 ⟨fun hroot => ?_, (scoped_of_compile hnodes hcompile).2⟩
  obtain ⟨p, name, hpath, _⟩ := ((faithful_of_compile hnodes hcompile).joins _).1 hroot
  exact Path.child_ne_root p name hpath.symm

/-- Where evaluation gives a result, even though it may fail under choices that it did not come to,
the row passes exactly if the map holds of it. -/
theorem holds_iff_of_passes {result : Bool}
    (hnodes : FilterNode.ofMap schema c.pageKey combinator filter = .ok nodes)
    (hcompile : c.compile schema nodes = .ok compiled)
    (hpasses : compiled.predicate.passes row compiled.joins = .ok result) :
    c.Holds combinator schema filter row ↔ result = true := by
  have hfaithful := faithful_of_compile hnodes hcompile
  obtain ⟨bindings, hbindings, hresult⟩ := bind_eq_ok.1 hpasses
  cases result with
  | true =>
    refine iff_of_true ?_ rfl
    obtain ⟨b, hb, htrue⟩ := Predicate.exists_of_isTrueUnderSome hresult
    obtain ⟨choice, hagrees, hroot, hjoins⟩ :=
      Binding.exists_choice_of_mem_expand hbindings hb (nodup_root_paths hnodes hcompile)
    exact ⟨choice, hroot, hfaithful.followedBy_iff.1 hjoins,
      (hfaithful.means choice b hagrees _ htrue).symm⟩
  | false =>
    refine iff_of_false ?_ Bool.false_ne_true
    rintro ⟨choice, hroot, hlinks, htrue⟩
    obtain ⟨b, hb, hagrees⟩ :=
      Binding.exists_agrees_of_expand hbindings hroot (hfaithful.followedBy_iff.2 hlinks)
    obtain ⟨t, ht, hne⟩ := Predicate.isTrueUnderSome_eq_false.1 hresult b hb
    exact hne ((hfaithful.means choice b hagrees t ht).trans htrue)

/-- **The order of filter entries does not matter**: of two filter maps that differ only in the
order of object entries, at any depth, one compiles exactly if the other does. They join the same
relations, but for the order and the fetch modes of the joins, and where both can be evaluated on a
row they give the same result. -/
theorem compile_reordered (h : Json.Reordered (.obj filter) (.obj filter')) :
    ((∃ nodes compiled, FilterNode.ofMap schema c.pageKey combinator filter = .ok nodes ∧
        c.compile schema nodes = .ok compiled) ↔
      ∃ nodes compiled, FilterNode.ofMap schema c.pageKey combinator filter' = .ok nodes ∧
        c.compile schema nodes = .ok compiled) ∧
    ∀ nodes compiled nodes' compiled',
      FilterNode.ofMap schema c.pageKey combinator filter = .ok nodes →
      c.compile schema nodes = .ok compiled →
      FilterNode.ofMap schema c.pageKey combinator filter' = .ok nodes' →
      c.compile schema nodes' = .ok compiled' →
      (∀ fetch, (compiled.joins.map (Join.withFetch fetch)).Perm
        (compiled'.joins.map (Join.withFetch fetch))) ∧
      ∀ (row : Row) (result result' : Bool),
        compiled.predicate.passes row compiled.joins = .ok result →
        compiled'.predicate.passes row compiled'.joins = .ok result' → result = result' := by
  constructor
  · constructor
    · rintro ⟨nodes, compiled, hnodes, hcompile⟩
      exact exists_compile_of_reordered h hnodes hcompile
    · rintro ⟨nodes, compiled, hnodes, hcompile⟩
      exact exists_compile_of_reordered h.symm hnodes hcompile
  · intro nodes compiled nodes' compiled' hnodes hcompile hnodes' hcompile'
    constructor
    · intro fetch
      obtain ⟨hscoped, hnodup⟩ := scoped_of_compile hnodes hcompile
      obtain ⟨hscoped', hnodup'⟩ := scoped_of_compile hnodes' hcompile'
      refine perm_withFetch hnodup hnodup' (hscoped.relations schema .root)
        (hscoped'.relations schema .root) fun q => ?_
      rw [(faithful_of_compile hnodes hcompile).joins,
        (faithful_of_compile hnodes' hcompile').joins]
      simp only [opens_iff_of_reordered h]
    · intro row result result' hpasses hpasses'
      rw [Bool.eq_iff_iff, ← holds_iff_of_passes hnodes hcompile hpasses,
        ← holds_iff_of_passes hnodes' hcompile' hpasses', holds_iff_of_reordered h]

/-- People with a friend between 30 and 50 who is not the person 1. Written backwards, the filter
joins the friends first for the sake of their number, so they are fetched in another mode, but the
same people pass. -/
theorem compile_reordered_friends :
    let c : FilterContext := ⟨.people, "page", .builtIn, .utc⟩
    let filter : FilterMap :=
      [("friends", .obj [("age", .obj [("from", .ofNat 30), ("to", .ofNat 50)])]),
        ("NOT", .obj [("friends", .ofNat 1), ("age", .null)])]
    let backwards : FilterMap :=
      [("NOT", .obj [("age", .null), ("friends", .ofNat 1)]),
        ("friends", .obj [("age", .obj [("to", .ofNat 50), ("from", .ofNat 30)])])]
    let person : Record :=
      ⟨.i64 1, [("id", .i64 1), ("age", .i64 40)], [("friends", .many "person" [.i64 1, .i64 2])]⟩
    let friend : Record := ⟨.i64 2, [("id", .i64 2), ("age", .i64 40)], []⟩
    let row : Row := ⟨⟨[("person", [person, friend])]⟩, person⟩
    Json.Reordered (.obj filter) (.obj backwards) ∧
    ∃ schema nodes compiled nodes' compiled', c.catalog.resolve "person" = some schema ∧
      FilterNode.ofMap schema c.pageKey .and filter = .ok nodes ∧
      c.compile schema nodes = .ok compiled ∧
      FilterNode.ofMap schema c.pageKey .and backwards = .ok nodes' ∧
      c.compile schema nodes' = .ok compiled' ∧
      compiled.joins ≠ compiled'.joins ∧
      (compiled.joins.map (Join.withFetch .lazy)).Perm
        (compiled'.joins.map (Join.withFetch .lazy)) ∧
      compiled.predicate.passes row compiled.joins = .ok true ∧
      compiled'.predicate.passes row compiled'.joins = .ok true := by
  intro c filter backwards person friend row
  have hrange : Json.Reordered (.obj [("from", .ofNat 30), ("to", .ofNat 50)])
      (.obj [("to", .ofNat 50), ("from", .ofNat 30)]) :=
    .of_perm (by decide) (.swap _ _ _) (.cons ⟨rfl, .num _⟩ (.cons ⟨rfl, .num _⟩ .nil))
  have hfriend : Json.Reordered (.obj [("age", .obj [("from", .ofNat 30), ("to", .ofNat 50)])])
      (.obj [("age", .obj [("to", .ofNat 50), ("from", .ofNat 30)])]) :=
    .of_perm (by decide) (.refl _) (.cons ⟨rfl, hrange⟩ .nil)
  have hnot : Json.Reordered (.obj [("friends", .ofNat 1), ("age", .null)])
      (.obj [("age", .null), ("friends", .ofNat 1)]) :=
    .of_perm (by decide) (.swap _ _ _) (.cons ⟨rfl, .null⟩ (.cons ⟨rfl, .num _⟩ .nil))
  have hfilter : Json.Reordered (.obj filter) (.obj backwards) :=
    .of_perm (by decide) (.swap _ _ _) (.cons ⟨rfl, hnot⟩ (.cons ⟨rfl, hfriend⟩ .nil))
  obtain ⟨schema, nodes, compiled, nodes', compiled', hschema, hnodes, hcompile, hnodes', hcompile',
      hjoins, hpasses, result', hpasses'⟩ :
      ∃ schema nodes compiled nodes' compiled', c.catalog.resolve "person" = some schema ∧
        FilterNode.ofMap schema c.pageKey .and filter = .ok nodes ∧
        c.compile schema nodes = .ok compiled ∧
        FilterNode.ofMap schema c.pageKey .and backwards = .ok nodes' ∧
        c.compile schema nodes' = .ok compiled' ∧ compiled.joins ≠ compiled'.joins ∧
        compiled.predicate.passes row compiled.joins = .ok true ∧
        ∃ result', compiled'.predicate.passes row compiled'.joins = .ok result' :=
    ⟨_, _, _, _, _, rfl, rfl, rfl, rfl, rfl, by decide, rfl, _, rfl⟩
  obtain ⟨hperm, hsame⟩ :=
    (compile_reordered hfilter).2 nodes compiled nodes' compiled' hnodes hcompile hnodes' hcompile'
  refine ⟨hfilter, schema, nodes, compiled, nodes', compiled', hschema, hnodes, hcompile, hnodes',
    hcompile', hjoins, hperm .lazy, hpasses, ?_⟩
  rw [hpasses', ← hsame row _ _ hpasses hpasses']

end FilterContext

end RowFilter
