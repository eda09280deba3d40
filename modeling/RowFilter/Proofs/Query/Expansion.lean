import RowFilter.Proofs.Query.Evaluation

/-!
# Expansion

The choices of one related record for each of several joins. A choice is built up join by join, so
what holds before the first join and is kept by following one more join holds of every choice.
-/

namespace RowFilter

theorem Path.child_ne_root (p : Path) (name : String) : p.child name ≠ .root := by
  intro h
  exact List.append_ne_nil_of_right_ne_nil p.steps (List.cons_ne_nil name []) (congrArg steps h)

theorem Path.child_inj {p q : Path} {name name' : String} :
    p.child name = q.child name' ↔ p = q ∧ name = name' := by
  constructor
  · intro h
    have hparent := congrArg parent h
    have hproperty := congrArg property h
    rw [parent_child, parent_child] at hparent
    rw [property_child, property_child] at hproperty
    exact ⟨hparent, hproperty⟩
  · rintro ⟨rfl, rfl⟩
    rfl

namespace Binding

variable {R : Type} {record related : R} {path q : Path} {b b' : Binding R}

theorem lookup_singleton :
    List.lookup q [(path, record)] = if q = path then some record else none := by
  rw [List.lookup_cons]
  by_cases h : q = path
  · rw [if_pos h, beq_iff_eq.2 h]
  · rw [if_neg h, beq_eq_false_iff_ne.2 h]
    rfl

@[simp] theorem get?_root : (root record).get? q = if q = .root then some record else none :=
  lookup_singleton

theorem get?_extend : (b.extend path related).get? q =
    (b.get? q).or (if q = path then some related else none) := by
  unfold get? extend
  rw [List.lookup_append, lookup_singleton]

/-- A record that has been chosen stays chosen. -/
theorem get?_extend_of_some {owner : R} (h : b.get? q = some owner) :
    (b.extend path related).get? q = some owner := by
  rw [get?_extend, h]
  rfl

theorem get?_extend_self (h : b.get? path = none) :
    (b.extend path related).get? path = some related := by
  rw [get?_extend, h, if_pos rfl]
  rfl

theorem get?_extend_of_ne (h : q ≠ path) : (b.extend path related).get? q = b.get? q := by
  rw [get?_extend, if_neg h, Option.or_none]

/-- After a join there is a record for its path. -/
theorem exists_get?_extend : ∃ owner, (b.extend path related).get? path = some owner := by
  rw [get?_extend, if_pos rfl]
  cases b.get? path with
  | none => exact ⟨_, rfl⟩
  | some owner => exact ⟨_, rfl⟩

/-- Whether a choice has the root record and a record for each of some joins. -/
def Covers (b : Binding R) (joins : List Join) : Prop :=
  ∀ p, p = .root ∨ p ∈ joins.map Join.path → ∃ record, b.get? p = some record

theorem covers_root : (root record).Covers [] := by
  rintro p (rfl | hp)
  · exact ⟨record, get?_root.trans (if_pos rfl)⟩
  · cases hp

variable [Filterable R] {join : Join} {joins : List Join} {bindings next : List (Binding R)}
  {e : EvalError}

theorem follow_ok (h : b.follow join = .ok next) :
    ∃ owner records, b.get? join.path.parent = some owner ∧
      Filterable.related? owner join.path.property = some records ∧
      next = records.map (b.extend join.path) := by
  unfold follow at h
  split at h
  · cases h
  · next owner howner =>
    split at h
    · cases h
    · next records hrecords =>
      cases h
      exact ⟨owner, records, howner, hrecords, rfl⟩

theorem Covers.follow {before : List Join} (h : b.Covers before) (hnext : b.follow join = .ok next)
    (hb' : b' ∈ next) : b'.Covers (before ++ [join]) := by
  intro p hp
  obtain ⟨_, records, _, _, rfl⟩ := follow_ok hnext
  obtain ⟨related, _, rfl⟩ := List.mem_map.1 hb'
  rw [List.map_append, List.mem_append, ← or_assoc] at hp
  rcases hp with hp | hp
  · obtain ⟨owner, howner⟩ := h p hp
    exact ⟨owner, get?_extend_of_some howner⟩
  · rw [List.mem_singleton.1 hp]
    exact exists_get?_extend

theorem mem_followAll (h : followAll join bindings = .ok next) :
    b' ∈ next ↔ ∃ b ∈ bindings, ∃ followed, b.follow join = .ok followed ∧ b' ∈ followed := by
  induction bindings generalizing next with
  | nil =>
    cases h
    simp
  | cons b rest ih =>
    rw [followAll] at h
    obtain ⟨first, hfirst, h⟩ := bind_eq_ok.1 h
    obtain ⟨others, hothers, h⟩ := bind_eq_ok.1 h
    cases h
    rw [List.mem_append, ih hothers]
    constructor
    · rintro (hb' | ⟨c, hc, hb'⟩)
      · exact ⟨b, List.mem_cons_self, first, hfirst, hb'⟩
      · exact ⟨c, List.mem_cons_of_mem _ hc, hb'⟩
    · rintro ⟨c, hc, followed, hfollowed, hb'⟩
      rcases List.mem_cons.1 hc with rfl | hc
      · rw [hfirst] at hfollowed
        cases hfollowed
        exact .inl hb'
      · exact .inr ⟨c, hc, followed, hfollowed, hb'⟩

theorem followAll_error (h : followAll join bindings = .error e) :
    ∃ b ∈ bindings, b.follow join = .error e := by
  induction bindings with
  | nil => cases h
  | cons b rest ih =>
    rw [followAll] at h
    rcases bind_eq_error.1 h with h | ⟨first, _, h⟩
    · exact ⟨b, List.mem_cons_self, h⟩
    · rcases bind_eq_error.1 h with h | ⟨others, _, h⟩
      · obtain ⟨c, hc, h⟩ := ih h
        exact ⟨c, List.mem_cons_of_mem _ hc, h⟩
      · cases h

/-- **Induction over joins**: an invariant of the choices after the joins so far, which following
one more join keeps unless it fails in a `tolerated` way, holds of every choice after all joins. -/
theorem expand_induct {motive : List Join → Binding R → Prop} {tolerated : EvalError → Prop}
    (start : motive [] (root record))
    (step : ∀ before join after b, joins = before ++ join :: after → motive before b →
      (∀ e, b.follow join = .error e → tolerated e) ∧
      ∀ next, b.follow join = .ok next → ∀ b' ∈ next, motive (before ++ [join]) b') :
    (∀ e, expand record joins = .error e → tolerated e) ∧
      ∀ bindings, expand record joins = .ok bindings → ∀ b ∈ bindings, motive joins b := by
  unfold expand
  suffices hfrom : ∀ (rest before : List Join) (bindings : List (Binding R)),
      joins = before ++ rest → (∀ b ∈ bindings, motive before b) →
      (∀ e, rest.foldlM (fun bs j => followAll j bs) bindings = .error e → tolerated e) ∧
      ∀ final, rest.foldlM (fun bs j => followAll j bs) bindings = .ok final →
        ∀ b ∈ final, motive joins b from
    hfrom joins [] [root record] rfl (by simpa using start)
  intro rest
  induction rest with
  | nil =>
    rintro before bindings rfl hbefore
    refine ⟨nofun, fun final hfinal => ?_⟩
    cases hfinal
    rwa [List.append_nil]
  | cons join rest ih =>
    intro before bindings hjoins hbefore
    rw [List.foldlM_cons]
    have hstep := fun b hb => step before join rest b hjoins (hbefore b hb)
    have hrest := fun next hnext => ih (before ++ [join]) next (by simp [hjoins]) hnext
    constructor
    · intro e he
      rcases bind_eq_error.1 he with he | ⟨next, hnext, he⟩
      · obtain ⟨b, hb, he⟩ := followAll_error he
        exact (hstep b hb).1 e he
      · refine (hrest next fun b' hb' => ?_).1 e he
        obtain ⟨b, hb, followed, hfollowed, hb'⟩ := (mem_followAll hnext).1 hb'
        exact (hstep b hb).2 followed hfollowed b' hb'
    · intro final hfinal
      obtain ⟨next, hnext, hfinal⟩ := bind_eq_ok.1 hfinal
      refine (hrest next fun b' hb' => ?_).2 final hfinal
      obtain ⟨b, hb, followed, hfollowed, hb'⟩ := (mem_followAll hnext).1 hb'
      exact (hstep b hb).2 followed hfollowed b' hb'

end Binding

/-! ## Choices as functions -/

namespace Join

variable {R : Type} [Filterable R]

/-- Whether a choice of a record for each path follows a join: the record at the path of the join is
one of those that the relation leads to from the record of its owner. -/
def FollowedBy (choice : Path → R) (join : Join) : Prop :=
  ∃ records, Filterable.related? (choice join.path.parent) join.path.property = some records ∧
    choice join.path ∈ records

end Join

namespace Binding

variable {R : Type}

/-- Whether the records of a binding are those that a function chooses for their paths. -/
def Agrees (choice : Path → R) (b : Binding R) : Prop := ∀ p r, b.get? p = some r → r = choice p

variable {chosen : Path → R} {b : Binding R} {record : R} {p : Path}

/-- The choice of the records of a binding, and of one record for all other paths. -/
def choice (b : Binding R) (other : R) (p : Path) : R := (b.get? p).getD other

theorem choice_of_get? {other r : R} (h : b.get? p = some r) : b.choice other p = r := by
  rw [choice, h, Option.getD_some]

theorem agrees_root (h : chosen .root = record) : (root record).Agrees chosen := by
  intro p r hr
  rw [get?_root] at hr
  split at hr
  · next hp =>
    cases hr
    rw [hp, h]
  · cases hr

theorem Agrees.extend (h : b.Agrees chosen) : (b.extend p (chosen p)).Agrees chosen := by
  intro q r hr
  rw [get?_extend] at hr
  cases hq : b.get? q with
  | some r' =>
    rw [hq] at hr
    cases hr
    exact h q r hq
  | none =>
    rw [hq, Option.none_or] at hr
    split at hr
    · next hp =>
      cases hr
      rw [hp]
    · cases hr

variable [Filterable R] {join : Join} {joins : List Join} {bindings next : List (Binding R)}

theorem exists_follow (h : followAll join bindings = .ok next) :
    ∀ b ∈ bindings, ∃ followed, b.follow join = .ok followed := by
  induction bindings generalizing next with
  | nil => exact List.forall_mem_nil _
  | cons b rest ih =>
    rw [followAll] at h
    obtain ⟨first, hfirst, h⟩ := bind_eq_ok.1 h
    obtain ⟨others, hothers, _⟩ := bind_eq_ok.1 h
    exact List.forall_mem_cons.2 ⟨⟨first, hfirst⟩, ih hothers⟩

/-- Every choice that follows the joins from the record is among the expanded ones. -/
theorem exists_agrees_of_expand (hbindings : expand record joins = .ok bindings)
    (hroot : chosen .root = record) (hjoins : ∀ join ∈ joins, join.FollowedBy chosen) :
    ∃ b ∈ bindings, b.Agrees chosen := by
  unfold expand at hbindings
  suffices hfrom : ∀ (start : List (Binding R)), (∃ b ∈ start, b.Agrees chosen) →
      joins.foldlM (fun bs j => followAll j bs) start = .ok bindings →
      ∃ b ∈ bindings, b.Agrees chosen from
    hfrom _ ⟨_, List.mem_singleton_self _, agrees_root hroot⟩ hbindings
  clear hbindings
  induction joins with
  | nil =>
    intro start hstart h
    cases h
    exact hstart
  | cons join rest ih =>
    rintro start ⟨b, hb, hagrees⟩ h
    obtain ⟨hjoin, hrest⟩ := List.forall_mem_cons.1 hjoins
    rw [List.foldlM_cons] at h
    obtain ⟨next, hnext, h⟩ := bind_eq_ok.1 h
    refine ih hrest next ?_ h
    obtain ⟨followed, hfollowed⟩ := exists_follow hnext b hb
    refine ⟨b.extend join.path (chosen join.path),
      (mem_followAll hnext).2 ⟨b, hb, followed, hfollowed, ?_⟩, hagrees.extend⟩
    obtain ⟨owner, records, howner, hrecords, rfl⟩ := follow_ok hfollowed
    obtain ⟨records', hrecords', hmem⟩ := hjoin
    rw [← hagrees _ _ howner, hrecords] at hrecords'
    cases hrecords'
    exact List.mem_map_of_mem hmem

/-- What a binding that was built up by following joins from a record holds: the record, and for
each join one of the records that its relation leads to. -/
structure Follows (record : R) (joins : List Join) (b : Binding R) : Prop where
  root : b.get? .root = some record
  bound : ∀ p r, b.get? p = some r → p = .root ∨ p ∈ joins.map Join.path
  joined : ∀ join ∈ joins, ∃ owner records related,
    b.get? join.path.parent = some owner ∧
    Filterable.related? owner join.path.property = some records ∧
    b.get? join.path = some related ∧ related ∈ records

theorem follows_root : (Binding.root record).Follows record [] := by
  refine ⟨get?_root.trans (if_pos rfl), fun p r hr => ?_, List.forall_mem_nil _⟩
  rw [get?_root] at hr
  split at hr
  · next hp => exact .inl hp
  · cases hr

theorem Follows.follow {before : List Join} {b' : Binding R} (h : b.Follows record before)
    (hnew : join.path ≠ .root ∧ join.path ∉ before.map Join.path)
    (hnext : b.follow join = .ok next) (hb' : b' ∈ next) :
    b'.Follows record (before ++ [join]) := by
  obtain ⟨owner, records, howner, hrecords, rfl⟩ := follow_ok hnext
  obtain ⟨related, hrelated, rfl⟩ := List.mem_map.1 hb'
  have hfree : b.get? join.path = none := by
    cases hget : b.get? join.path with
    | none => rfl
    | some r => exact ((h.bound _ r hget).elim hnew.1 hnew.2).elim
  refine ⟨get?_extend_of_some h.root, fun p r hr => ?_, ?_⟩
  · rw [List.map_append, List.mem_append, ← or_assoc]
    by_cases hp : p = join.path
    · exact .inr (List.mem_singleton.2 hp)
    · rw [get?_extend_of_ne hp] at hr
      exact .inl (h.bound p r hr)
  · refine List.forall_mem_append.2 ⟨fun join' hjoin' => ?_, List.forall_mem_singleton.2 ?_⟩
    · obtain ⟨owner', records', related', howner', hrecords', hget', hmem'⟩ := h.joined join' hjoin'
      exact ⟨owner', records', related', get?_extend_of_some howner', hrecords',
        get?_extend_of_some hget', hmem'⟩
    · exact ⟨owner, records, related, get?_extend_of_some howner, hrecords,
        get?_extend_self hfree, hrelated⟩

/-- Every expanded choice follows the joins from the record, if no path is joined twice. -/
theorem exists_choice_of_mem_expand (hbindings : expand record joins = .ok bindings)
    (hb : b ∈ bindings) (hnodup : (.root :: joins.map Join.path).Nodup) :
    ∃ chosen : Path → R, b.Agrees chosen ∧ chosen .root = record ∧
      ∀ join ∈ joins, join.FollowedBy chosen := by
  have hexpand : (∀ e, expand record joins = .error e → True) ∧
      ∀ bindings, expand record joins = .ok bindings → ∀ b ∈ bindings, b.Follows record joins := by
    refine expand_induct (motive := fun before b => b.Follows record before) follows_root ?_
    rintro before join after b rfl hb
    refine ⟨fun _ _ => trivial, fun next hnext b' hb' => hb.follow ?_ hnext hb'⟩
    obtain ⟨hroot, hnodup⟩ := List.nodup_cons.1 hnodup
    rw [List.map_append, List.map_cons] at hroot hnodup
    exact ⟨fun h => hroot (h ▸ List.mem_append_right _ List.mem_cons_self),
      fun h => (List.nodup_append.1 hnodup).2.2 _ h _ List.mem_cons_self rfl⟩
  obtain ⟨hroot, _, hjoined⟩ := hexpand.2 bindings hbindings b hb
  have hagrees : b.Agrees (b.choice record) := fun p r hr => (choice_of_get? hr).symm
  refine ⟨b.choice record, hagrees, choice_of_get? hroot, fun join hjoin => ?_⟩
  obtain ⟨owner, records, related, howner, hrecords, hrelated, hmem⟩ := hjoined join hjoin
  exact ⟨records, choice_of_get? howner ▸ hrecords, (choice_of_get? hrelated).symm ▸ hmem⟩

end Binding

end RowFilter
