import Mathlib.Data.List.Basic
import Mathlib.Data.List.Forall2

/-!
# Successful computations

What a computation that can fail went through when it succeeded: a sequence of two steps passed
through the result of the first, and a function that was mapped over a list succeeded on each item.
-/

namespace RowFilter

variable {ε ε' α β : Type}

theorem bind_eq_ok {x : Except ε α} {f : α → Except ε β} {b : β} :
    (x >>= f) = .ok b ↔ ∃ a, x = .ok a ∧ f a = .ok b := by
  constructor
  · intro h
    cases x with
    | error e => cases h
    | ok a => exact ⟨a, rfl, h⟩
  · rintro ⟨a, rfl, h⟩
    exact h

theorem bind_eq_error {x : Except ε α} {f : α → Except ε β} {e : ε} :
    (x >>= f) = .error e ↔ x = .error e ∨ ∃ a, x = .ok a ∧ f a = .error e := by
  constructor
  · intro h
    cases x with
    | error e' => cases h; exact .inl rfl
    | ok a => exact .inr ⟨a, rfl, h⟩
  · rintro (rfl | ⟨a, rfl, h⟩)
    · rfl
    · exact h

/-- Whether two computations fail with the same error or give related results. -/
inductive RelatedResults (r : α → β → Prop) : Except ε α → Except ε β → Prop where
  | error (e : ε) : RelatedResults r (.error e) (.error e)
  | ok {a : α} {b : β} (h : r a b) : RelatedResults r (.ok a) (.ok b)

theorem RelatedResults.bind {γ δ : Type} {r : α → β → Prop} {s : γ → δ → Prop} {x : Except ε α}
    {y : Except ε β} {f : α → Except ε γ} {g : β → Except ε δ} (h : RelatedResults r x y)
    (hnext : ∀ a b, r a b → RelatedResults s (f a) (g b)) :
    RelatedResults s (x >>= f) (y >>= g) := by
  cases h with
  | error e => exact .error e
  | ok h => exact hnext _ _ h

/-- Two computations in two steps agree on what `g` sees of their results, if the first steps agree
on what `f` sees and the second ones need no more than that. -/
theorem map_bind_congr {γ δ : Type} {f : α → γ} {g : β → δ} {x y : Except ε α}
    {k k' : α → Except ε β} (hxy : f <$> x = f <$> y)
    (hk : ∀ a b, f a = f b → g <$> k a = g <$> k' b) : g <$> (x >>= k) = g <$> (y >>= k') := by
  cases x with
  | error e =>
    cases y with
    | error e' => cases hxy; rfl
    | ok b => cases hxy
  | ok a =>
    cases y with
    | error e => cases hxy
    | ok b => exact hk a b (Except.ok.inj hxy)

/-- Two steps succeed with what the second one makes of the result of the first. -/
theorem toOption_bind {x : Except ε α} {f : α → Except ε β} :
    (x >>= f).toOption = x.toOption.bind fun a => (f a).toOption := by
  cases x <;> rfl

/-- Two computations in two steps succeed alike if their steps do. -/
theorem toOption_bind_congr {x y : Except ε α} {f g : α → Except ε β}
    (hxy : x.toOption = y.toOption) (hfg : ∀ a, (f a).toOption = (g a).toOption) :
    (x >>= f).toOption = (y >>= g).toOption := by
  rw [toOption_bind, toOption_bind, hxy, funext hfg]

theorem mapError_eq_ok {x : Except ε α} {f : ε → ε'} {a : α} :
    x.mapError f = .ok a ↔ x = .ok a := by
  cases x with
  | error e => exact ⟨(nomatch ·), (nomatch ·)⟩
  | ok a' => simp [Except.mapError]

theorem mapError_eq_error {x : Except ε α} {f : ε → ε'} {e : ε'} :
    x.mapError f = .error e ↔ ∃ cause, x = .error cause ∧ f cause = e := by
  cases x with
  | error cause => simp [Except.mapError]
  | ok a => exact ⟨(nomatch ·), (nomatch ·)⟩

/-- A function mapped over a list succeeded on every item, in order. -/
theorem forall₂_of_mapM {f : α → Except ε β} {as : List α} {bs : List β}
    (h : as.mapM f = .ok bs) : List.Forall₂ (fun a b => f a = .ok b) as bs := by
  induction as generalizing bs with
  | nil =>
    cases h
    exact .nil
  | cons a as ih =>
    rw [List.mapM_cons] at h
    obtain ⟨b, hb, h⟩ := bind_eq_ok.1 h
    obtain ⟨bs', hbs, h⟩ := bind_eq_ok.1 h
    cases h
    exact .cons hb (ih hbs)

theorem mapM_of_forall₂ {f : α → Except ε β} {as : List α} {bs : List β}
    (h : List.Forall₂ (fun a b => f a = .ok b) as bs) : as.mapM f = .ok bs := by
  induction h with
  | nil => rfl
  | cons ha _ ih =>
    rw [List.mapM_cons, ha, ih]
    rfl

/-- A function can be mapped over a list with the results that another one has on a list that
corresponds to it item by item, if it has these on the items. -/
theorem mapM_eq_of_forall₂ {α' : Type} {f : α → Except ε β} {g : α' → Except ε β}
    {r : α → α' → Prop} {as : List α} {as' : List α'} {bs : List β} (hr : List.Forall₂ r as as')
    (h : as.mapM f = .ok bs)
    (hresult : ∀ a ∈ as, ∀ a' ∈ as', r a a' → ∀ b, f a = .ok b → g a' = .ok b) :
    as'.mapM g = .ok bs := by
  induction hr generalizing bs with
  | nil => exact h
  | @cons a a' as as' ha _ ih =>
    rw [List.mapM_cons] at h ⊢
    obtain ⟨b, hb, h⟩ := bind_eq_ok.1 h
    obtain ⟨bs', hbs, h⟩ := bind_eq_ok.1 h
    refine bind_eq_ok.2 ⟨b, hresult a List.mem_cons_self a' List.mem_cons_self ha b hb, ?_⟩
    refine bind_eq_ok.2 ⟨bs', ih hbs fun x hx x' hx' => ?_, h⟩
    exact hresult x (List.mem_cons_of_mem _ hx) x' (List.mem_cons_of_mem _ hx')

theorem mapM_append_ok {f : α → Except ε β} {as as' : List α} {bs bs' : List β}
    (h : as.mapM f = .ok bs) (h' : as'.mapM f = .ok bs') :
    (as ++ as').mapM f = .ok (bs ++ bs') := by
  rw [List.mapM_append, h, h']
  rfl

theorem exists_forall₂ {r : α → β → Prop} {as : List α} (h : ∀ a ∈ as, ∃ b, r a b) :
    ∃ bs, List.Forall₂ r as bs := by
  induction as with
  | nil => exact ⟨[], .nil⟩
  | cons a as ih =>
    obtain ⟨⟨b, hb⟩, has⟩ := List.forall_mem_cons.1 h
    obtain ⟨bs, hbs⟩ := ih has
    exact ⟨b :: bs, .cons hb hbs⟩

/-- A function that succeeds on every item can be mapped over a list. -/
theorem exists_mapM {f : α → Except ε β} {as : List α} (h : ∀ a ∈ as, ∃ b, f a = .ok b) :
    ∃ bs, as.mapM f = .ok bs :=
  (exists_forall₂ h).imp fun _ => mapM_of_forall₂

/-- A function that could not be mapped over a list failed on one of the items. -/
theorem exists_of_mapM_error {f : α → Except ε β} {as : List α} {e : ε}
    (h : as.mapM f = .error e) : ∃ a ∈ as, f a = .error e := by
  induction as with
  | nil => cases h
  | cons a rest ih =>
    rw [List.mapM_cons] at h
    rcases bind_eq_error.1 h with h | ⟨b, -, h⟩
    · exact ⟨a, List.mem_cons_self, h⟩
    · rcases bind_eq_error.1 h with h | ⟨bs, -, h⟩
      · obtain ⟨a', ha', h⟩ := ih h
        exact ⟨a', List.mem_cons_of_mem _ ha', h⟩
      · cases h

theorem mapM_eq_ok_iff {f : α → Except ε β} {as : List α} {bs : List β} :
    as.mapM f = .ok bs ↔ List.Forall₂ (fun a b => f a = .ok b) as bs :=
  ⟨forall₂_of_mapM, mapM_of_forall₂⟩

/-- A function mapped over a list fails as it does on the first item on which it fails. -/
theorem mapM_eq_error_iff {f : α → Except ε β} {as : List α} {e : ε} :
    as.mapM f = .error e ↔ ∃ before a after, as = before ++ a :: after ∧
      (∀ x ∈ before, ∃ b, f x = .ok b) ∧ f a = .error e := by
  constructor
  · intro h
    induction as with
    | nil => cases h
    | cons first rest ih =>
      rw [List.mapM_cons] at h
      rcases bind_eq_error.1 h with h | ⟨b, hb, h⟩
      · exact ⟨[], first, rest, rfl, List.forall_mem_nil _, h⟩
      · rcases bind_eq_error.1 h with h | ⟨bs, -, h⟩
        · obtain ⟨before, a, after, rfl, hbefore, ha⟩ := ih h
          exact ⟨first :: before, a, after, rfl, List.forall_mem_cons.2 ⟨⟨b, hb⟩, hbefore⟩, ha⟩
        · cases h
  · rintro ⟨before, a, after, rfl, hbefore, ha⟩
    obtain ⟨bs, hbs⟩ := exists_mapM hbefore
    rw [List.mapM_append, hbs, List.mapM_cons, ha]
    rfl

/-- A function mapped over the images of items gives the images of the results that another one has
on the items, if it does so item by item. -/
theorem mapM_map_eq {α' β' : Type} {f : α → Except ε β} {f' : α' → Except ε β'} {g : α → α'}
    {h : β → β'} {as : List α} (hfg : ∀ a ∈ as, f' (g a) = h <$> f a) :
    (as.map g).mapM f' = List.map h <$> as.mapM f := by
  induction as with
  | nil => rfl
  | cons a rest ih =>
    obtain ⟨ha, hrest⟩ := List.forall_mem_cons.1 hfg
    rw [List.map_cons, List.mapM_cons, List.mapM_cons, ha, ih hrest]
    cases f a with
    | error e => rfl
    | ok b =>
      cases rest.mapM f with
      | error e => rfl
      | ok bs => rfl

/-- A function that never fails can be mapped over a list. -/
theorem mapM_eq_ok {f : α → Except ε β} {g : α → β} (h : ∀ a, f a = .ok (g a))
    (as : List α) : as.mapM f = .ok (as.map g) := by
  induction as with
  | nil => rfl
  | cons a rest ih =>
    rw [List.mapM_cons, h a, ih]
    rfl

/-- Of lists that correspond item by item, an item of the first has a related one in the second. -/
theorem exists_of_forall₂ {r : α → β → Prop} {as : List α} {bs : List β} (h : List.Forall₂ r as bs)
    {a : α} (ha : a ∈ as) : ∃ b ∈ bs, r a b := by
  induction h with
  | nil => cases ha
  | @cons first b as bs hfirst _ ih =>
    rcases List.mem_cons.1 ha with rfl | ha
    · exact ⟨b, List.mem_cons_self, hfirst⟩
    · obtain ⟨b', hb', hr⟩ := ih ha
      exact ⟨b', List.mem_cons_of_mem _ hb', hr⟩

theorem exists_of_mapM {f : α → Except ε β} {as : List α} {bs : List β} (h : as.mapM f = .ok bs)
    {a : α} (ha : a ∈ as) : ∃ b, f a = .ok b :=
  (exists_of_forall₂ (forall₂_of_mapM h) ha).imp fun _ hb => hb.2

/-- The results of a function that was mapped over a list are its results on the items. -/
theorem mem_of_mapM {f : α → Except ε β} {as : List α} {bs : List β} (h : as.mapM f = .ok bs)
    {b : β} : b ∈ bs ↔ ∃ a ∈ as, f a = .ok b := by
  have hall := forall₂_of_mapM h
  clear h
  induction hall with
  | nil => simp
  | cons ha _ ih =>
    rw [List.mem_cons, List.exists_mem_cons_iff, ha]
    exact or_congr ⟨fun h => h ▸ rfl, fun h => (Except.ok.inj h).symm⟩ ih

/-- A function can be mapped over a list if each item is covered by one of a list over which another
function was mapped, and each result then has a related one. -/
theorem exists_mapM_of_cover {α' β' : Type} {f : α → Except ε β} {g : α' → Except ε β'}
    {related : β → β' → Prop} {as : List α} {as' : List α'} {bs : List β}
    (h : as.mapM f = .ok bs)
    (hcover : ∀ a' ∈ as', ∃ a ∈ as, ∀ b, f a = .ok b → ∃ b', g a' = .ok b' ∧ related b b') :
    ∃ bs', as'.mapM g = .ok bs' ∧ ∀ b' ∈ bs', ∃ b ∈ bs, related b b' := by
  have hresult : ∀ a' ∈ as', ∃ b ∈ bs, ∃ b', g a' = .ok b' ∧ related b b' := by
    intro a' ha'
    obtain ⟨a, ha, hrelated⟩ := hcover a' ha'
    obtain ⟨b, hb⟩ := exists_of_mapM h ha
    exact ⟨b, (mem_of_mapM h).2 ⟨a, ha, hb⟩, hrelated b hb⟩
  have hall : ∀ a' ∈ as', ∃ b', g a' = .ok b' := by
    intro a' ha'
    obtain ⟨_, _, b', hb', _⟩ := hresult a' ha'
    exact ⟨b', hb'⟩
  obtain ⟨bs', hbs'⟩ := exists_mapM hall
  refine ⟨bs', hbs', fun b' hb' => ?_⟩
  obtain ⟨a', ha', hb'⟩ := (mem_of_mapM hbs').1 hb'
  obtain ⟨b, hb, found, hfound, hrelated⟩ := hresult a' ha'
  cases hb'.symm.trans hfound
  exact ⟨b, hb, hrelated⟩

/-- Lists that correspond item by item have an item of a kind if one of them does. -/
theorem exists_mem_iff_of_forall₂ {p : α → Prop} {q : β → Prop} {as : List α} {bs : List β}
    (h : List.Forall₂ (fun a b => p a ↔ q b) as bs) : (∃ a ∈ as, p a) ↔ ∃ b ∈ bs, q b := by
  induction h with
  | nil => simp
  | cons hab _ ih => rw [List.exists_mem_cons_iff, List.exists_mem_cons_iff, hab, ih]

end RowFilter
