import Mathlib.Data.List.Basic
import Mathlib.Data.List.Flatten
import RowFilter.Proofs.Literal.Equality
import RowFilter.Store.Memory

/-!
# Linked records

A relation leads to the records whose keys are equal to the keys of its links, while a filter takes
the rows whose values compare equal with the value it asks for. The two differ where a link compares
equal with a key of another kind, which it does not find, and where an absent link finds an absent
key, with which it does not compare.
-/

namespace RowFilter

/-- Equal concatenations of lists, of which each is a sublist of its counterpart, have equal
parts. -/
theorem eq_of_flatMap_eq {α β : Type} {f g : α → List β} {l : List α}
    (hsub : ∀ x ∈ l, (f x).Sublist (g x)) (heq : l.flatMap f = l.flatMap g) :
    ∀ x ∈ l, f x = g x := by
  induction l with
  | nil => exact List.forall_mem_nil _
  | cons x rest ih =>
    obtain ⟨hx, hrest⟩ := List.forall_mem_cons.1 hsub
    rw [List.flatMap_cons, List.flatMap_cons] at heq
    have htotal := congrArg List.length heq
    rw [List.length_append, List.length_append] at htotal
    have hle := hx.length_le
    have hrestLe := (List.Sublist.flatMap_right rest hrest).length_le
    have hhead : f x = g x := hx.eq_of_length (by omega)
    rw [hhead, List.append_cancel_left_eq] at heq
    exact List.forall_mem_cons.2 ⟨hhead, ih hrest heq⟩

namespace MemoryStore

variable {store : MemoryStore} {collection : String} {key : Literal}

/-- The records of a collection whose keys compare equal with a key. -/
def comparedRecords (store : MemoryStore) (collection : String) (key : Literal) : List Record :=
  (store.records collection).filter fun record => record.key.collate key == some .eq

/-- Whether no two keys of a collection compare equal. -/
def HasDistinctKeys (store : MemoryStore) (collection : String) : Prop :=
  (store.records collection).Pairwise fun a b => a.key.collate b.key ≠ some .eq

/-- Whether the keys of a collection that compare equal with a key are all of its kind, and none is
absent if it is. -/
def ComparesWithinKind (store : MemoryStore) (collection : String) (key : Literal) : Prop :=
  ∀ record ∈ store.records collection,
    (record.key.collate key = some .eq → record.key.kind? = key.kind?) ∧
      (key = .null → record.key ≠ .null)

/-- An absent key compares with none. -/
theorem comparedRecords_null : store.comparedRecords collection .null = [] := by
  rw [comparedRecords, List.filter_eq_nil_iff]
  intro record _
  cases record.key <;> exact Bool.false_ne_true

theorem equal_of_find? {record : Record} (h : store.find? collection key = some record) :
    record.key.equal key = true :=
  List.find?_some (p := fun record : Record => record.key.equal key) h

theorem find?_sublist_comparedRecords (hkey : key ≠ .null) :
    (store.find? collection key).toList.Sublist (store.comparedRecords collection key) := by
  cases h : store.find? collection key with
  | none => exact List.nil_sublist _
  | some record =>
    obtain ⟨hkind, hcompares⟩ := Literal.equal_iff.1 (equal_of_find? h)
    refine List.singleton_sublist.2 (List.mem_filter.2 ⟨List.mem_of_find?_eq_some h, ?_⟩)
    rcases hcompares with hcompares | hnull
    · exact beq_iff_eq.2 hcompares
    · rw [hnull] at hkind
      exact absurd (Literal.kind?_eq_none.1 hkind.symm) hkey

/-- Among distinct keys at most one of a kind compares equal with a key of that kind. -/
theorem comparedRecords_length_le (hdistinct : store.HasDistinctKeys collection)
    (hkey : key ≠ .null) (hwithin : store.ComparesWithinKind collection key) :
    (store.comparedRecords collection key).length ≤ 1 := by
  obtain ⟨kind, hkind⟩ := Option.ne_none_iff_exists'.1 (mt Literal.kind?_eq_none.1 hkey)
  have hmem : ∀ record ∈ store.comparedRecords collection key,
      record.key.kind? = some kind ∧ record.key.collate key = some .eq := by
    intro record hrecord
    obtain ⟨hrecord, hcompares⟩ := List.mem_filter.1 hrecord
    have hcompares := beq_iff_eq.1 hcompares
    exact ⟨((hwithin record hrecord).1 hcompares).trans hkind, hcompares⟩
  have hpairs : (store.comparedRecords collection key).Pairwise
      fun a b => a.key.collate b.key ≠ some .eq := hdistinct.filter _
  match hlist : store.comparedRecords collection key with
  | [] => exact Nat.zero_le 1
  | [_] => exact Nat.le_refl 1
  | a :: b :: rest =>
    -- the first two would compare equal with each other through the key
    rw [hlist] at hmem hpairs
    obtain ⟨ha, hacompares⟩ := hmem a List.mem_cons_self
    obtain ⟨hb, hbcompares⟩ := hmem b (List.mem_cons_of_mem _ List.mem_cons_self)
    have hback : key.collate b.key = some .eq := by
      rw [Literal.collate_swap b.key key, hbcompares]
      rfl
    exact absurd (Literal.collate_eq_trans ha hkind hb hacompares hback)
      (List.rel_of_pairwise_cons hpairs List.mem_cons_self)

/-- A key that compares within its kind finds exactly what it compares equal with. -/
theorem find?_eq_comparedRecords (hdistinct : store.HasDistinctKeys collection)
    (hwithin : store.ComparesWithinKind collection key) :
    (store.find? collection key).toList = store.comparedRecords collection key := by
  by_cases hkey : key = .null
  · have hnone : store.find? collection key = none := by
      refine List.find?_eq_none.2 fun record hrecord hequal => ?_
      have hkind := (Literal.equal_iff.1 hequal).1
      rw [hkey] at hkind
      exact (hwithin record hrecord).2 hkey (Literal.kind?_eq_none.1 hkind)
    rw [hnone, hkey, comparedRecords_null]
    rfl
  · refine (find?_sublist_comparedRecords hkey).eq_of_length_le ?_
    have hle := comparedRecords_length_le hdistinct hkey hwithin
    cases h : store.find? collection key with
    | some record => exact hle
    | none =>
      -- a record that compares equal with the key would be equal to it
      have hnil : store.comparedRecords collection key = [] := by
        refine List.filter_eq_nil_iff.2 fun record hrecord hcompares => ?_
        have hcompares := beq_iff_eq.1 hcompares
        exact List.find?_eq_none.1 h record hrecord
          (Literal.equal_iff.2 ⟨(hwithin record hrecord).1 hcompares, .inl hcompares⟩)
      rw [hnil]
      exact Nat.le_refl 0

/-- A key that finds exactly what it compares equal with compares within its kind. -/
theorem comparesWithinKind_of_eq
    (heq : (store.find? collection key).toList = store.comparedRecords collection key) :
    store.ComparesWithinKind collection key := by
  intro record hrecord
  constructor
  · intro hcompares
    have hmem : record ∈ store.comparedRecords collection key :=
      List.mem_filter.2 ⟨hrecord, beq_iff_eq.2 hcompares⟩
    rw [← heq, Option.mem_toList] at hmem
    exact (Literal.equal_iff.1 (equal_of_find? hmem)).1
  · rintro rfl hnull
    rw [comparedRecords_null, Option.toList_eq_nil_iff] at heq
    refine List.find?_eq_none.1 heq record hrecord ?_
    rw [hnull]
    rfl

end MemoryStore

namespace Row

variable {row : Row} {name : String} {links : Links}

/-- The rows whose keys compare equal with the keys of links, link by link. -/
def comparedRows (row : Row) (links : Links) : List Row :=
  (links.keys.flatMap (row.store.comparedRecords links.collection)).map (Row.mk row.store)

theorem related?_of_links (hlinks : row.record.links? name = some links) :
    row.related? name = some ((links.keys.flatMap fun key =>
      (row.store.find? links.collection key).toList).map (Row.mk row.store)) := by
  rw [related?, hlinks, ← List.filterMap_eq_flatMap_toList, List.map_filterMap]

/-- If the links find exactly what they compare equal with, no absent link finds an absent key. -/
theorem find?_null_of_eq
    (heq : (links.keys.flatMap fun key => (row.store.find? links.collection key).toList) =
      links.keys.flatMap (row.store.comparedRecords links.collection))
    (hnull : .null ∈ links.keys) : row.store.find? links.collection .null = none := by
  refine Option.eq_none_iff_forall_ne_some.2 fun record hrecord => ?_
  have hkey : record.key = .null := by
    have hkind := (Literal.equal_iff.1 (MemoryStore.equal_of_find? hrecord)).1
    exact Literal.kind?_eq_none.1 hkind
  have hmem : record ∈ links.keys.flatMap (row.store.comparedRecords links.collection) := by
    rw [← heq, List.mem_flatMap]
    exact ⟨.null, hnull, Option.mem_toList.2 hrecord⟩
  obtain ⟨key, -, hmem⟩ := List.mem_flatMap.1 hmem
  have hcompares := beq_iff_eq.1 (List.mem_filter.1 hmem).2
  rw [hkey] at hcompares
  cases hcompares

/-- **What a join matches by comparison**: a relation leads, link by link, to the first record
whose key is of the kind of the link and compares equal with it, or is absent like the link. Among
distinct keys these are exactly the records that the links compare equal with if and only if every
link compares equal within its kind only, and no link is absent where a key is. -/
theorem related?_compared (hlinks : row.record.links? name = some links)
    (hdistinct : row.store.HasDistinctKeys links.collection) :
    row.related? name = some (links.keys.filterMap fun key =>
      ((row.store.records links.collection).find? fun record =>
        record.key.kind? = key.kind? ∧
          (record.key.collate key = some .eq ∨ record.key = .null)).map (Row.mk row.store)) ∧
    (row.related? name = some (row.comparedRows links) ↔
      ∀ key ∈ links.keys, row.store.ComparesWithinKind links.collection key) := by
  refine ⟨?_, ?_⟩
  · rw [related?, hlinks]
    have hequal : ∀ key : Literal, (fun record : Record => record.key.equal key) =
        fun record => decide (record.key.kind? = key.kind? ∧
          (record.key.collate key = some .eq ∨ record.key = .null)) := by
      intro key
      funext record
      rw [Bool.eq_iff_iff, decide_eq_true_iff, Literal.equal_iff]
    simp only [MemoryStore.find?, hequal]
  · rw [related?_of_links hlinks, comparedRows, Option.some_inj,
      List.map_inj_right fun _ _ h => (Row.mk.inj h).2]
    constructor
    · intro heq key hkey
      refine MemoryStore.comparesWithinKind_of_eq
        (eq_of_flatMap_eq (fun key hkey => ?_) heq key hkey)
      by_cases hnull : key = .null
      · subst hnull
        rw [find?_null_of_eq heq hkey]
        exact List.nil_sublist _
      · exact MemoryStore.find?_sublist_comparedRecords hnull
    · intro hwithin
      exact List.flatMap_congr fun key hkey =>
        MemoryStore.find?_eq_comparedRecords hdistinct (hwithin key hkey)

end Row

/-- Authors with numbers of 64 bits. -/
def MemoryStore.authors : MemoryStore :=
  ⟨[("author", [.ofKey "id" (.i64 2), .ofKey "id" (.i64 5)])]⟩

theorem MemoryStore.authors_hasDistinctKeys : authors.HasDistinctKeys "author" := by
  unfold HasDistinctKeys
  decide

/-- A book by several authors, of whom one is not known. -/
def Row.bookBySeveral : Row :=
  ⟨.authors, (Record.ofKey "id" (.i64 1)).linkMany "author" "author" [.i64 5, .i64 7, .i64 2]⟩

/-- A book whose author is numbered with 32 bits. -/
def Row.bookByFive : Row :=
  ⟨.authors, (Record.ofKey "id" (.i64 1)).link "author" "author" (.i32 5)⟩

namespace Row

/-- The authors of a book are found in the order of its links. -/
theorem related?_compared_several :
    bookBySeveral.related? "author" =
      some (bookBySeveral.comparedRows (.many "author" [.i64 5, .i64 7, .i64 2])) ∧
    bookBySeveral.comparedRows (.many "author" [.i64 5, .i64 7, .i64 2]) =
      [⟨.authors, .ofKey "id" (.i64 5)⟩, ⟨.authors, .ofKey "id" (.i64 2)⟩] := by
  refine ⟨(related?_compared rfl MemoryStore.authors_hasDistinctKeys).2.2 ?_, rfl⟩
  show ∀ key ∈ [Literal.i64 5, .i64 7, .i64 2],
    MemoryStore.authors.ComparesWithinKind "author" key
  unfold MemoryStore.ComparesWithinKind
  decide

/-- A number of 32 bits compares equal with the number of an author, and a filter that asks for the
author by number takes the book; a join finds no author. -/
theorem related?_not_compared_five :
    MemoryStore.authors.HasDistinctKeys "author" ∧
    bookByFive.record.links? "author" = some (.one "author" (some (.i32 5))) ∧
    bookByFive.comparedRows (.one "author" (some (.i32 5))) =
      [⟨.authors, .ofKey "id" (.i64 5)⟩] ∧
    (Predicate.compare (.path ⟨["author"]⟩) .equal (.literal (.i64 5))).passes bookByFive [] =
      .ok true ∧
    bookByFive.related? "author" = some [] :=
  ⟨MemoryStore.authors_hasDistinctKeys, rfl, rfl, rfl, rfl⟩

end Row

end RowFilter
