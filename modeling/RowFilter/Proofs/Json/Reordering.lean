import RowFilter.Proofs.Cast

/-!
# The order of object entries

Two JSON values differ only in the order of object entries if their scalars are equal, their arrays
are related item by item, and their objects have the same keys, in any order, with related values.
A cast does not see the order, because only scalars can be cast.
-/

namespace RowFilter

namespace Json

/-- Whether two values differ only in the order of object entries, at any depth. -/
inductive Reordered : Json → Json → Prop
  | null : Reordered null null
  | bool (b : Bool) : Reordered (bool b) (bool b)
  | num (n : JsonNumber) : Reordered (num n) (num n)
  | str (s : String) : Reordered (str s) (str s)
  | arr {items items' : List Json} (hlength : items.length = items'.length)
      (hitems : ∀ (i : Nat) (h : i < items.length) (h' : i < items'.length),
        Reordered (items.get ⟨i, h⟩) (items'.get ⟨i, h'⟩)) : Reordered (arr items) (arr items')
  | obj {fields fields' : Keyed Json} (hkeys : fields.keys.Perm fields'.keys)
      (hvalues : ∀ key value value', (key, value) ∈ fields → (key, value') ∈ fields' →
        Reordered value value') : Reordered (obj fields) (obj fields')

/-- Whether a value is neither an array nor an object. -/
def isScalar : Json → Bool
  | arr _ | obj _ => false
  | _ => true

variable {v v' : Json} {items items' : List Json} {fields fields' : Keyed Json}

theorem Reordered.symm (h : v.Reordered v') : v'.Reordered v := by
  induction h with
  | null => exact .null
  | bool b => exact .bool b
  | num n => exact .num n
  | str s => exact .str s
  | arr hlength _ ih => exact .arr hlength.symm fun i h h' => ih i h' h
  | obj hkeys _ ih =>
    exact .obj hkeys.symm fun key value value' h h' => ih key value' value h' h

theorem Reordered.trans {v'' : Json} (h : v.Reordered v') (h' : v'.Reordered v'') :
    v.Reordered v'' := by
  induction h generalizing v'' with
  | null | bool | num | str => exact h'
  | arr hlength _ ih =>
    cases h' with
    | arr hlength' hitems' =>
      refine .arr (hlength.trans hlength') fun i hi hi'' => ?_
      exact ih i hi (hlength ▸ hi) (hitems' i (hlength ▸ hi) hi'')
  | obj hkeys _ ih =>
    cases h' with
    | obj hkeys' hvalues' =>
      refine .obj (hkeys.trans hkeys') fun key value value'' hvalue hvalue'' => ?_
      obtain ⟨⟨_, value'⟩, hvalue', rfl⟩ :=
        List.mem_map.1 (hkeys.mem_iff.1 (List.mem_map_of_mem hvalue))
      exact ih _ value value' hvalue hvalue' (hvalues' _ value' value'' hvalue' hvalue'')

theorem Reordered.isNull_eq (h : v.Reordered v') : v.isNull = v'.isNull := by
  cases h <;> rfl

/-- A scalar has no entries to reorder. -/
theorem Reordered.eq_of_isScalar (h : v.Reordered v') (hscalar : v.isScalar = true) : v' = v := by
  cases h with
  | arr | obj => cases hscalar
  | _ => rfl

theorem Reordered.exists_item (h : Reordered (.arr items) (.arr items')) {item : Json}
    (hitem : item ∈ items) : ∃ item' ∈ items', item.Reordered item' := by
  cases h with
  | arr hlength hitems =>
    obtain ⟨⟨i, hi⟩, rfl⟩ := List.get_of_mem hitem
    exact ⟨_, List.get_mem items' ⟨i, hlength ▸ hi⟩, hitems i hi _⟩

/-! ## Entries -/

theorem Reordered.exists_entry (h : Reordered (.obj fields) (.obj fields'))
    {entry : String × Json} (hentry : entry ∈ fields) :
    ∃ entry' ∈ fields', entry.1 = entry'.1 ∧ entry.2.Reordered entry'.2 := by
  cases h with
  | obj hkeys hvalues =>
    obtain ⟨key, value⟩ := entry
    have hkey : key ∈ fields'.keys := hkeys.mem_iff.1 (List.mem_map_of_mem hentry)
    obtain ⟨⟨_, value'⟩, hentry', rfl⟩ := List.mem_map.1 hkey
    exact ⟨_, hentry', rfl, hvalues _ _ _ hentry hentry'⟩

/-- The entries of a map that has no key twice can be permuted, and their values reordered. -/
theorem Reordered.of_perm {middle : Keyed Json} (hnodup : fields.keys.Nodup)
    (hperm : fields.Perm middle)
    (hvalues : List.Forall₂ (fun entry entry' => entry.1 = entry'.1 ∧
      Reordered entry.2 entry'.2) middle fields') : Reordered (.obj fields) (.obj fields') := by
  have hkeys : middle.keys = fields'.keys := by
    rw [Keyed.keys, Keyed.keys, ← List.forall₂_eq_eq_eq, List.forall₂_map_left_iff,
      List.forall₂_map_right_iff]
    exact hvalues.imp fun _ _ h => h.1
  refine .obj (hkeys ▸ hperm.map Prod.fst) fun key value value' h h' => ?_
  obtain ⟨⟨i, hi⟩, hentry'⟩ := List.get_of_mem h'
  have hi' : i < middle.length := hvalues.length_eq ▸ hi
  obtain ⟨hkey, hrelated⟩ := hvalues.get hi' hi
  rw [hentry'] at hkey hrelated
  have hmem : middle.get ⟨i, hi'⟩ ∈ fields := hperm.mem_iff.2 (List.get_mem _ _)
  have hsame : middle.get ⟨i, hi'⟩ = (key, value) :=
    List.inj_on_of_nodup_map hnodup hmem h hkey
  rwa [hsame] at hrelated

/-- An entry of a map can be moved to the front, and its value reordered. That the map is related to
itself says that it states nothing different under a key that it has twice. -/
theorem Reordered.exists_cons (h : Reordered (.obj fields) (.obj fields)) {key : String}
    {value value' : Json} (hentry : (key, value) ∈ fields) (hvalue : value.Reordered value') :
    ∃ rest, Reordered (.obj fields) (.obj ((key, value') :: rest)) := by
  cases h with
  | obj _ hvalues =>
    obtain ⟨before, after, rfl⟩ := List.append_of_mem hentry
    refine ⟨before ++ after, .obj (List.perm_middle.map Prod.fst) ?_⟩
    intro key₁ value₁ value₂ hfirst hsecond
    rcases List.mem_cons.1 hsecond with heq | hrest
    · cases heq
      exact (hvalues _ _ _ hfirst hentry).trans hvalue
    · exact hvalues _ _ _ hfirst (List.perm_middle.mem_iff.2 (List.mem_cons_of_mem _ hrest))

theorem Reordered.keys_perm (h : Reordered (.obj fields) (.obj fields')) :
    fields.keys.Perm fields'.keys := by
  cases h with
  | obj hkeys _ => exact hkeys

theorem Reordered.contains_eq (h : Reordered (.obj fields) (.obj fields')) (key : String) :
    fields.contains key = fields'.contains key := by
  rw [Bool.eq_iff_iff, Keyed.contains_iff, Keyed.contains_iff, h.keys_perm.mem_iff]

/-- What stands under a key, or null, is related to what stands there in the other order. -/
theorem Reordered.getD_get? (h : Reordered (.obj fields) (.obj fields')) (key : String) :
    Reordered ((fields.get? key).getD .null) ((fields'.get? key).getD .null) := by
  have hcontains := h.contains_eq key
  unfold Keyed.contains at hcontains
  cases hvalue : fields.get? key with
  | none =>
    rw [hvalue, Option.isSome_none, eq_comm, Option.isSome_eq_false_iff, Option.isNone_iff_eq_none]
      at hcontains
    rw [hcontains]
    exact .null
  | some value =>
    rw [hvalue, Option.isSome_some, eq_comm, Option.isSome_iff_exists] at hcontains
    obtain ⟨value', hvalue'⟩ := hcontains
    rw [hvalue']
    cases h with
    | obj _ hvalues => exact hvalues key _ _ (Keyed.mem_of_get? hvalue) (Keyed.mem_of_get? hvalue')

/-! ## Leaves -/

theorem mem_leavesOfItems {leaf : Json} :
    leaf ∈ leavesOfItems items ↔ ∃ item ∈ items, leaf ∈ item.leaves := by
  induction items with
  | nil => simp [leavesOfItems]
  | cons item rest ih => rw [leavesOfItems, List.mem_append, ih, List.exists_mem_cons_iff]

theorem Reordered.exists_leaf (h : v.Reordered v') {leaf : Json} (hleaf : leaf ∈ v.leaves) :
    ∃ leaf' ∈ v'.leaves, leaf.Reordered leaf' := by
  induction h with
  | arr hlength _ ih =>
    obtain ⟨item, hitem, hleaf⟩ := mem_leavesOfItems.1 hleaf
    obtain ⟨⟨i, hi⟩, rfl⟩ := List.get_of_mem hitem
    obtain ⟨leaf', hleaf', hrelated⟩ := ih i hi (hlength ▸ hi) hleaf
    exact ⟨leaf', mem_leavesOfItems.2 ⟨_, List.get_mem _ _, hleaf'⟩, hrelated⟩
  | null | bool | num | str => exact ⟨_, hleaf, List.mem_singleton.1 hleaf ▸ by constructor⟩
  | obj hkeys hvalues =>
    rw [List.mem_singleton.1 hleaf]
    exact ⟨_, List.mem_singleton_self _, .obj hkeys hvalues⟩

/-- Related items, in whatever order, have related leaves. -/
theorem exists_leaf_of_items (h : ∀ item ∈ items, ∃ item' ∈ items', item.Reordered item')
    {leaf : Json} (hleaf : leaf ∈ leavesOfItems items) :
    ∃ leaf' ∈ leavesOfItems items', leaf.Reordered leaf' := by
  obtain ⟨item, hitem, hleaf⟩ := mem_leavesOfItems.1 hleaf
  obtain ⟨item', hitem', hrelated⟩ := h item hitem
  obtain ⟨leaf', hleaf', hrelated⟩ := hrelated.exists_leaf hleaf
  exact ⟨leaf', mem_leavesOfItems.2 ⟨item', hitem', hleaf'⟩, hrelated⟩

end Json

/-! ## Casts -/

namespace Casters

variable {casters : Casters} {zone : Civil.LocalZone} {type : ScalarType} {value : Json}
  {values : List Json} {l : Literal}

theorem isScalar_of_castValue (h : casters.castValue zone type value = .ok l) :
    value.isScalar = true := by
  cases value with
  | arr | obj => cases h
  | _ => rfl

theorem isScalar_of_castLeaf (h : casters.castLeaf zone type value = .ok l) :
    value.isScalar = true := by
  unfold castLeaf at h
  split at h
  · rfl
  · exact isScalar_of_castValue h

/-- A list can be cast if each of its leaves can. -/
theorem exists_castList
    (h : ∀ leaf ∈ Json.leavesOfItems values, ∃ l, casters.castLeaf zone type leaf = .ok l) :
    ∃ ls, casters.castList zone type values = .ok ls := by
  rw [castList_eq_mapM]
  exact exists_mapM h

end Casters

end RowFilter
