import Mathlib.Data.List.Induction
import RowFilter.Proofs.Query.OwnFields
import RowFilter.Proofs.Query.Scope
import RowFilter.Query.Document

/-!
# Choices

The joins of a record ask for one related record each, and where these are looked for depends on the
records chosen before. A choice is told by the positions of the chosen records among their
candidates. The expansion of the joins goes through the choices in the order of these positions,
each of them once, so it finds a choice that makes a predicate true if there is one.
-/

namespace RowFilter

variable {R : Type} {record owner : R} {joins before after : List Join} {join : Join}
  {positions positions' : List Nat} {chosen : List R} {p : Path}

theorem lookup_of_mem_of_nodup {α β : Type} [BEq α] [LawfulBEq α] {key : α} {value : β}
    {entries : List (α × β)} (hnodup : (entries.map Prod.fst).Nodup)
    (h : (key, value) ∈ entries) : entries.lookup key = some value := by
  induction entries with
  | nil => cases h
  | cons entry rest ih =>
    obtain ⟨hkey, hrest⟩ := List.nodup_cons.1 hnodup
    rw [List.lookup_cons]
    rcases List.mem_cons.1 h with rfl | h
    · simp
    · have hne : key ≠ entry.1 := fun heq => hkey (heq ▸ List.mem_map_of_mem h)
      rw [beq_eq_false_iff_ne.2 hne]
      exact ih hrest h

/-- Lists of one length are compared before their last items are. -/
theorem concat_lt_concat {i j : Nat} (h : positions < positions')
    (hlength : positions.length = positions'.length) : positions ++ [i] < positions' ++ [j] := by
  induction positions generalizing positions' with
  | nil =>
    rw [List.eq_nil_of_length_eq_zero hlength.symm] at h
    exact absurd h (List.lt_irrefl _)
  | cons first rest ih =>
    obtain ⟨first', rest', rfl⟩ := List.exists_cons_of_length_eq_add_one hlength.symm
    rw [List.cons_append, List.cons_append, List.cons_lt_cons_iff]
    rcases List.cons_lt_cons_iff.1 h with hfirst | ⟨rfl, hrest⟩
    · exact .inl hfirst
    · exact .inr ⟨rfl, ih hrest (Nat.succ.inj hlength)⟩

namespace Binding

/-- The binding of the records that were chosen for joins. -/
def ofChosen (record : R) (joins : List Join) (chosen : List R) : Binding R :=
  (.root, record) :: (joins.map Join.path).zip chosen

/-- Where a path leads to before its last step: from the root to the record itself, and from the
path of a join to the record that was chosen for it. -/
inductive Owner (record : R) (joins : List Join) (chosen : List R) : Path → R → Prop where
  | root : Owner record joins chosen .root record
  | joined {p : Path} {owner : R} (hp : p ≠ .root)
    (h : (p, owner) ∈ (joins.map Join.path).zip chosen) : Owner record joins chosen p owner

theorem get?_ofChosen (hnodup : (joins.map Join.path).Nodup)
    (hlength : chosen.length = joins.length) :
    (ofChosen record joins chosen).get? p = some owner ↔ Owner record joins chosen p owner := by
  unfold get? ofChosen
  by_cases hp : p = .root
  · subst hp
    rw [List.lookup_cons_self]
    constructor
    · rintro ⟨⟩
      exact .root
    · rintro (_ | ⟨hp, -⟩)
      · rfl
      · exact absurd rfl hp
  · rw [List.lookup_cons, beq_eq_false_iff_ne.2 hp]
    constructor
    · intro h
      obtain ⟨first, rest, hentries, -⟩ := List.lookup_eq_some_iff.1 h
      exact .joined hp (hentries ▸ List.mem_append_right _ List.mem_cons_self)
    · rintro (_ | ⟨-, h⟩)
      · exact absurd rfl hp
      · refine lookup_of_mem_of_nodup ?_ h
        rwa [List.map_fst_zip (by simp [hlength])]

theorem exists_owner (hlength : chosen.length = joins.length)
    (h : p = .root ∨ p ∈ joins.map Join.path) : ∃ owner, Owner record joins chosen p owner := by
  by_cases hp : p = .root
  · exact ⟨record, hp ▸ .root⟩
  · have hmem : p ∈ ((joins.map Join.path).zip chosen).map Prod.fst := by
      rw [List.map_fst_zip (by simp [hlength])]
      exact h.resolve_left hp
    obtain ⟨⟨q, owner⟩, howner, rfl⟩ := List.mem_map.1 hmem
    exact ⟨owner, .joined hp howner⟩

theorem ofChosen_concat (hlength : chosen.length = before.length) (related : R) :
    ofChosen record (before ++ [join]) (chosen ++ [related]) =
      (ofChosen record before chosen).extend join.path related := by
  rw [ofChosen, List.map_append, List.zip_append (by rw [List.length_map, hlength])]
  rfl

variable [Filterable R]

/-- The choices of one related record for each join: the positions of the records among those that
the relation leads to, and the records. -/
inductive Chooses (record : R) : List Join → List Nat → List R → Prop where
  | nil : Chooses record [] [] []
  | concat {joins : List Join} {positions : List Nat} {chosen : List R} {join : Join} {owner : R}
    {records : List R} {i : Nat} {related : R} (h : Chooses record joins positions chosen)
    (howner : Owner record joins chosen join.path.parent owner)
    (hrecords : Filterable.related? owner join.path.property = some records)
    (hrelated : records[i]? = some related) :
    Chooses record (joins ++ [join]) (positions ++ [i]) (chosen ++ [related])

/-- Whether every relation that has to be followed is there. -/
def CanFollow (record : R) (joins : List Join) : Prop :=
  ∀ before join after, joins = before ++ join :: after →
    ∀ positions chosen, Chooses record before positions chosen →
      ∀ owner, Owner record before chosen join.path.parent owner →
        ∃ records, Filterable.related? owner join.path.property = some records

theorem Chooses.length (h : Chooses record joins positions chosen) :
    positions.length = joins.length ∧ chosen.length = joins.length := by
  induction h with
  | nil => exact ⟨rfl, rfl⟩
  | concat _ _ _ _ ih =>
    simp only [List.length_append, List.length_singleton]
    exact ⟨congrArg (· + 1) ih.1, congrArg (· + 1) ih.2⟩

theorem chooses_nil : Chooses record [] positions chosen ↔ positions = [] ∧ chosen = [] := by
  constructor
  · intro h
    exact ⟨List.eq_nil_of_length_eq_zero h.length.1, List.eq_nil_of_length_eq_zero h.length.2⟩
  · rintro ⟨rfl, rfl⟩
    exact .nil

theorem chooses_concat : Chooses record (joins ++ [join]) positions chosen ↔
    ∃ positions' chosen' owner records i related, positions = positions' ++ [i] ∧
      chosen = chosen' ++ [related] ∧ Chooses record joins positions' chosen' ∧
      Owner record joins chosen' join.path.parent owner ∧
      Filterable.related? owner join.path.property = some records ∧
      records[i]? = some related := by
  constructor
  · intro h
    generalize hall : joins ++ [join] = all at h
    cases h with
    | nil => exact absurd hall (by simp)
    | concat h howner hrecords hrelated =>
      obtain ⟨rfl, hjoin⟩ := List.append_inj' hall rfl
      cases hjoin
      exact ⟨_, _, _, _, _, _, rfl, rfl, h, howner, hrecords, hrelated⟩
  · rintro ⟨positions', chosen', owner, records, i, related, rfl, rfl, h, howner, hrecords,
      hrelated⟩
    exact .concat h howner hrecords hrelated

/-! ## One more join -/

/-- The records that a join can be followed to. -/
def candidates (join : Join) (b : Binding R) : List R :=
  ((b.get? join.path.parent).bind fun owner =>
    Filterable.related? owner join.path.property).getD []

theorem getElem?_candidates {b : Binding R} {i : Nat} {related : R} :
    (candidates join b)[i]? = some related ↔ ∃ owner records,
      b.get? join.path.parent = some owner ∧
      Filterable.related? owner join.path.property = some records ∧ records[i]? = some related := by
  unfold candidates
  cases b.get? join.path.parent with
  | none => simp
  | some owner =>
    cases hrecords : Filterable.related? owner join.path.property with
    | none => simp [hrecords]
    | some records => simp [hrecords]

theorem follow_eq_ok {b : Binding R} {records : List R}
    (howner : b.get? join.path.parent = some owner)
    (hrecords : Filterable.related? owner join.path.property = some records) :
    b.follow join = .ok ((candidates join b).map (b.extend join.path)) := by
  rw [follow, candidates, howner, Option.bind_some, hrecords, Option.getD_some]
  dsimp only
  rw [hrecords]

/-- A choice with each of the records that one more join can be followed to. -/
def concatChoices (record : R) (before : List Join) (join : Join) (choice : List Nat × List R) :
    List (List Nat × List R) :=
  (candidates join (ofChosen record before choice.2)).zipIdx.map fun (related, i) =>
    (choice.1 ++ [i], choice.2 ++ [related])

theorem positions_concatChoices (choice : List Nat × List R) :
    (concatChoices record before join choice).map Prod.fst =
      (List.range' 0 (candidates join (ofChosen record before choice.2)).length).map
        fun i => choice.1 ++ [i] := by
  rw [concatChoices, List.map_map, ← List.zipIdx_map_snd, List.map_map]
  rfl

theorem followAll_eq_ok {bindings : List (Binding R)}
    (h : ∀ b ∈ bindings, b.follow join = .ok ((candidates join b).map (b.extend join.path))) :
    followAll join bindings =
      .ok (bindings.flatMap fun b => (candidates join b).map (b.extend join.path)) := by
  induction bindings with
  | nil => rfl
  | cons b rest ih =>
    obtain ⟨hb, hrest⟩ := List.forall_mem_cons.1 h
    rw [followAll, hb, ih hrest]
    rfl

/-- Whether a list goes through the choices for joins, each of them once, by their positions. -/
structure Lists (record : R) (joins : List Join) (choices : List (List Nat × List R)) : Prop where
  increasing : (choices.map Prod.fst).Pairwise (· < ·)
  mem_iff : ∀ positions chosen, (positions, chosen) ∈ choices ↔
    Chooses record joins positions chosen

variable {choices : List (List Nat × List R)}

theorem lists_nil : Lists record [] [([], [])] where
  increasing := List.pairwise_singleton _ _
  mem_iff positions chosen := by rw [List.mem_singleton, Prod.mk.injEq, chooses_nil]

theorem Lists.concat (h : Lists record before choices) (hnodup : (before.map Join.path).Nodup) :
    Lists record (before ++ [join]) (choices.flatMap (concatChoices record before join)) where
  increasing := by
    rw [List.map_flatMap, List.pairwise_flatMap]
    constructor
    · intro choice _
      rw [positions_concatChoices, List.pairwise_map]
      exact (List.pairwise_lt_range' 1).imp fun hlt =>
        List.append_left_lt (List.cons_lt_cons_iff.2 (.inl hlt))
    · refine (List.pairwise_map.1 h.increasing).imp_of_mem ?_
      intro choice choice' hchoice hchoice' hlt first hfirst last hlast
      rw [positions_concatChoices] at hfirst hlast
      obtain ⟨i, -, rfl⟩ := List.mem_map.1 hfirst
      obtain ⟨j, -, rfl⟩ := List.mem_map.1 hlast
      refine concat_lt_concat hlt ?_
      rw [((h.mem_iff _ _).1 hchoice).length.1, ((h.mem_iff _ _).1 hchoice').length.1]
  mem_iff positions chosen := by
    have hmem (choice : List Nat × List R) :
        (positions, chosen) ∈ concatChoices record before join choice ↔ ∃ i related,
          positions = choice.1 ++ [i] ∧ chosen = choice.2 ++ [related] ∧
          (candidates join (ofChosen record before choice.2))[i]? = some related := by
      rw [concatChoices, List.mem_map]
      constructor
      · rintro ⟨⟨related, i⟩, hi, heq⟩
        cases heq
        exact ⟨i, related, rfl, rfl, List.mem_zipIdx_iff_getElem?.1 hi⟩
      · rintro ⟨i, related, rfl, rfl, hi⟩
        exact ⟨(related, i), List.mem_zipIdx_iff_getElem?.2 hi, rfl⟩
    rw [List.mem_flatMap, chooses_concat]
    constructor
    · rintro ⟨choice, hchoice, h'⟩
      obtain ⟨i, related, hpositions, hchosen, hi⟩ := (hmem choice).1 h'
      have hchooses := (h.mem_iff _ _).1 hchoice
      obtain ⟨owner, records, howner, hrecords, hrelated⟩ := getElem?_candidates.1 hi
      exact ⟨_, _, owner, records, i, related, hpositions, hchosen, hchooses,
        (get?_ofChosen hnodup hchooses.length.2).1 howner, hrecords, hrelated⟩
    · rintro ⟨positions', chosen', owner, records, i, related, hpositions, hchosen, hchooses,
        howner, hrecords, hrelated⟩
      refine ⟨(positions', chosen'), (h.mem_iff _ _).2 hchooses, (hmem _).2 ?_⟩
      exact ⟨i, related, hpositions, hchosen, getElem?_candidates.2
        ⟨owner, records, (get?_ofChosen hnodup hchooses.length.2).2 howner, hrecords, hrelated⟩⟩

/-- The bindings of the choices with one more record are those of the choices, each followed. -/
theorem map_concatChoices {choice : List Nat × List R} (hlength : choice.2.length = before.length) :
    (concatChoices record before join choice).map
        (fun choice => ofChosen record (before ++ [join]) choice.2) =
      (candidates join (ofChosen record before choice.2)).map
        ((ofChosen record before choice.2).extend join.path) := by
  rw [concatChoices, List.map_map]
  conv_rhs => rw [← List.zipIdx_map_fst 0 (candidates join (ofChosen record before choice.2))]
  rw [List.map_map]
  refine List.map_congr_left fun item _ => ?_
  exact ofChosen_concat hlength item.1

theorem expand_concat {bindings : List (Binding R)} (h : expand record before = .ok bindings) :
    expand record (before ++ [join]) = followAll join bindings := by
  rw [expand, List.foldlM_append]
  change expand record before >>= _ = _
  rw [h]
  change followAll join bindings >>= pure = _
  exact bind_pure _

/-- The expansion of joins that come after their owners, and can all be followed, goes through the
choices. -/
theorem exists_lists (hpaths : (joins.map Join.path).Nodup)
    (howners : Join.OwnersFirst [.root] joins) (hfollow : CanFollow record joins) :
    ∃ choices, Lists record joins choices ∧
      expand record joins = .ok (choices.map fun choice => ofChosen record joins choice.2) := by
  suffices hprefix : ∀ before after, joins = before ++ after → ∃ choices,
      Lists record before choices ∧
        expand record before = .ok (choices.map fun choice => ofChosen record before choice.2) from
    hprefix joins [] (List.append_nil _).symm
  intro before
  induction before using List.reverseRecOn with
  | nil => exact fun _ _ => ⟨_, lists_nil, rfl⟩
  | append_singleton before join ih =>
    intro after hjoins
    rw [List.append_assoc] at hjoins
    obtain ⟨choices, hlists, hexpand⟩ := ih _ hjoins
    have hnodup : (before.map Join.path).Nodup := by
      rw [hjoins, List.map_append] at hpaths
      exact (List.nodup_append.1 hpaths).1
    refine ⟨_, hlists.concat hnodup, ?_⟩
    rw [expand_concat hexpand, followAll_eq_ok, List.map_flatMap, List.flatMap_map]
    · refine congrArg Except.ok (List.flatMap_congr fun choice hchoice => ?_)
      exact (map_concatChoices ((hlists.mem_iff _ _).1 hchoice).length.2).symm
    · intro b hb
      obtain ⟨⟨positions, chosen⟩, hchoice, rfl⟩ := List.mem_map.1 hb
      have hchooses := (hlists.mem_iff _ _).1 hchoice
      have hparent : join.path.parent = .root ∨ join.path.parent ∈ before.map Join.path :=
        (hjoins ▸ howners).parent.imp_left List.mem_singleton.1
      obtain ⟨owner, howner⟩ : ∃ owner, Owner record before chosen join.path.parent owner :=
        exists_owner hchooses.length.2 hparent
      obtain ⟨records, hrecords⟩ := hfollow _ _ _ hjoins _ _ hchooses owner howner
      exact follow_eq_ok ((get?_ofChosen hnodup hchooses.length.2).2 howner) hrecords

/-! ## Nothing to choose -/

/-- Whether some join leads to no record, whatever was chosen before it. -/
def HasEmptyJoin (record : R) (joins : List Join) : Prop :=
  ∃ before join after, joins = before ++ join :: after ∧
    ∀ positions chosen, Chooses record before positions chosen →
      ∀ owner, Owner record before chosen join.path.parent owner →
        Filterable.related? owner join.path.property = some []

theorem exists_chooses_before (h : Chooses record (before ++ after) positions chosen) :
    ∃ positions' chosen', Chooses record before positions' chosen' := by
  induction after using List.reverseRecOn generalizing positions chosen with
  | nil => exact ⟨_, _, List.append_nil before ▸ h⟩
  | append_singleton after join ih =>
    rw [← List.append_assoc, chooses_concat] at h
    obtain ⟨_, _, _, _, _, _, -, -, hbefore, -⟩ := h
    exact ih hbefore

theorem HasEmptyJoin.not_chooses (h : HasEmptyJoin record joins) :
    ¬ Chooses record joins positions chosen := by
  obtain ⟨before, join, after, rfl, hempty⟩ := h
  intro hchooses
  rw [List.append_cons] at hchooses
  obtain ⟨_, _, hchooses⟩ := exists_chooses_before hchooses
  obtain ⟨_, _, owner, records, i, related, -, -, hbefore, howner, hrecords, hrelated⟩ :=
    chooses_concat.1 hchooses
  rw [hempty _ _ hbefore owner howner] at hrecords
  cases hrecords
  cases hrelated

/-- **The expansion of joins goes through all choices.** Of joins that come after their owners, each
with a path of its own, the expansion gives the binding of every choice of one related record for
each join, once, in the order of the positions of the records, as long as no relation is missing. So
a record passes a predicate exactly if some choice makes it true, and none that has to choose where
there is nothing. -/
theorem expand_lists_choices (hpaths : (joins.map Join.path).Nodup)
    (howners : Join.OwnersFirst [.root] joins) (hfollow : CanFollow record joins) :
    (∃ choices, Lists record joins choices ∧
      expand record joins = .ok (choices.map fun choice => ofChosen record joins choice.2)) ∧
    ∀ p : Predicate,
      (∀ found, p.passes record joins = .ok found →
        (found = true ↔ ∃ positions chosen, Chooses record joins positions chosen ∧
          p.evaluate (ofChosen record joins chosen) = .ok (some true))) ∧
      ((∀ positions chosen, Chooses record joins positions chosen →
          ∃ t, p.evaluate (ofChosen record joins chosen) = .ok t) →
        ∃ found, p.passes record joins = .ok found) ∧
      (HasEmptyJoin record joins → p.passes record joins = .ok false) := by
  obtain ⟨choices, hlists, hexpand⟩ := exists_lists hpaths howners hfollow
  refine ⟨⟨choices, hlists, hexpand⟩, fun p => ?_⟩
  have hpasses : p.passes record joins =
      p.isTrueUnderSome (choices.map fun choice => ofChosen record joins choice.2) := by
    rw [Predicate.passes, hexpand]
    rfl
  rw [hpasses]
  refine ⟨fun found hfound => ?_, fun hevaluates => ?_, fun hempty => ?_⟩
  · rw [Predicate.isTrueUnderSome_iff hfound]
    constructor
    · rintro ⟨b, hb, htrue⟩
      obtain ⟨⟨positions, chosen⟩, hchoice, rfl⟩ := List.mem_map.1 hb
      exact ⟨positions, chosen, (hlists.mem_iff _ _).1 hchoice, htrue⟩
    · rintro ⟨positions, chosen, hchooses, htrue⟩
      exact ⟨_, List.mem_map_of_mem ((hlists.mem_iff _ _).2 hchooses), htrue⟩
  · refine (Predicate.exists_isTrueUnderSome ?_).imp fun found h => h.1
    rw [List.forall_mem_map]
    exact fun choice hchoice => hevaluates _ _ ((hlists.mem_iff _ _).1 hchoice)
  · refine Predicate.isTrueUnderSome_eq_false.2 ?_
    rw [List.forall_mem_map]
    exact fun choice hchoice => absurd ((hlists.mem_iff _ _).1 hchoice) hempty.not_chooses

/-- A library of two books, of which only the second one has tags. -/
theorem expand_lists_choices_tags :
    let book (name : String) (tags : List String) : Document :=
      ⟨[("title", .string name)], [("tags", tags.map fun tag => ⟨[("name", .string tag)], []⟩)]⟩
    let library : Document :=
      ⟨[], [("books", [book "Emma" [], book "Ulysses" ["sea", "city"]])]⟩
    let joins : List Join :=
      [⟨⟨["books"]⟩, "book", "id", "library_id", .lazy⟩,
        ⟨⟨["books", "tags"]⟩, "tag", "id", "book_id", .lazy⟩]
    ∃ choices, Lists library joins choices ∧
      expand library joins = .ok (choices.map fun choice => ofChosen library joins choice.2) := by
  intro book library joins
  have howners : Join.OwnersFirst [.root] joins :=
    ⟨List.mem_singleton_self _, List.mem_cons_self, trivial⟩
  refine (expand_lists_choices (by decide) howners ?_).1
  rintro (_ | ⟨first, _ | ⟨second, rest⟩⟩) join after hjoins positions chosen hchooses owner howner
  · obtain ⟨rfl, -⟩ := List.cons.inj hjoins
    cases howner with
    | root => exact ⟨_, rfl⟩
    | joined hp => exact absurd rfl hp
  · obtain ⟨rfl, hrest⟩ := List.cons.inj hjoins
    obtain ⟨rfl, -⟩ := List.cons.inj hrest
    -- the owner is the book that was chosen
    obtain ⟨_, chosen', _, records, i, related, rfl, rfl, hnone, hlibrary, hrecords, hbook⟩ :=
      chooses_concat.1 (show Chooses library ([] ++ [_]) positions chosen from hchooses)
    obtain ⟨-, rfl⟩ := chooses_nil.1 hnone
    cases howner with
    | joined _ howner =>
      cases List.mem_singleton.1 howner
      cases hlibrary with
      | root =>
        cases hrecords
        match i, hbook with
        | 0, rfl | 1, rfl => exact ⟨_, rfl⟩
      | joined hp => exact absurd rfl hp
  · obtain ⟨-, hrest⟩ := List.cons.inj hjoins
    exact absurd (List.cons.inj hrest).2 (by simp)

end Binding

end RowFilter
