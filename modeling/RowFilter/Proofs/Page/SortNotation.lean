import RowFilter.Page.SortToken
import RowFilter.Proofs.Success
import RowFilter.Proofs.Text.Split

/-!
# Two notations of an order

Sort tokens are given as a list of texts, or as one text with commas in it. Texts joined with commas
are read as the list of all their pieces, so that texts without a comma are read alike in both
notations: as the tokens they stand for, in order, or with the complaint about the first of them
that stands for none.
-/

namespace RowFilter.SortToken

variable {token : String} {tokens : List String} {e : FilterError}

/-- A text that stands for no token is complained about as it was given. -/
theorem exists_fault (h : ofText token = .error e) :
    ∃ fault, e = .invalidSortToken token fault := by
  unfold ofText at h
  dsimp only at h
  split at h
  · cases h
    exact ⟨_, rfl⟩
  · split at h
    · cases h
    · cases h
      exact ⟨_, rfl⟩

/-- A list of texts is read text by text. -/
theorem ofValue_list (tokens : List String) :
    ofValue (.arr (tokens.map .str)) = tokens.mapM ofText := by
  have hitem : ofItem ∘ Json.str = ofText := funext fun token => by rw [Function.comp_apply, ofItem]
  change (tokens.map Json.str).mapM ofItem = tokens.mapM ofText
  rw [List.mapM_map, hitem]

/-- Texts joined with commas are read as the list of all their pieces. -/
theorem ofValue_joined (hne : tokens ≠ []) :
    ofValue (.str (Text.join "," tokens)) = (tokens.flatMap (Text.split ',')).mapM ofText := by
  have hpieces : Text.split ',' (Text.join "," tokens) = tokens.flatMap (Text.split ',') := by
    change (Text.splitChars ',' (Text.join (String.singleton ',') tokens).toList).map
        String.ofList =
      tokens.flatMap fun token => (Text.splitChars ',' token.toList).map String.ofList
    rw [Text.splitChars_join_eq_flatMap hne, List.map_flatMap]
  change (Text.split ',' (Text.join "," tokens)).mapM ofText = _
  rw [hpieces]

theorem split_of_no_comma (h : ',' ∉ token.toList) : Text.split ',' token = [token] := by
  rw [Text.split, Text.splitChars_of_not_mem h, List.map_singleton, String.ofList_toList]

/-- **Both notations of an order are read alike.** A list of texts without commas and these texts
joined with commas give the same tokens, which are those of the texts in order, or the same error,
which is that of the first text that stands for no token and names this text. -/
theorem notations_agree (hne : tokens ≠ []) (hcomma : ∀ token ∈ tokens, ',' ∉ token.toList) :
    ofValue (.str (Text.join "," tokens)) = ofValue (.arr (tokens.map .str)) ∧
      (∀ sort, ofValue (.arr (tokens.map .str)) = .ok sort ↔
        List.Forall₂ (fun token t => ofText token = .ok t) tokens sort) ∧
      ∀ e, ofValue (.arr (tokens.map .str)) = .error e ↔
        ∃ before token after fault, tokens = before ++ token :: after ∧
          (∀ earlier ∈ before, ∃ t, ofText earlier = .ok t) ∧ ofText token = .error e ∧
          e = .invalidSortToken token fault := by
  rw [ofValue_list]
  refine ⟨?_, fun sort => mapM_eq_ok_iff, fun e => mapM_eq_error_iff.trans ?_⟩
  · -- a text without a comma is its own only piece
    have hown : ∀ token ∈ tokens, Text.split ',' token = [token] :=
      fun token htoken => split_of_no_comma (hcomma token htoken)
    rw [ofValue_joined hne, List.flatMap_congr hown, List.flatMap_singleton']
  · constructor
    · rintro ⟨before, token, after, rfl, hbefore, he⟩
      obtain ⟨fault, hfault⟩ := exists_fault he
      exact ⟨before, token, after, fault, rfl, hbefore, he, hfault⟩
    · rintro ⟨before, token, after, fault, rfl, hbefore, he, -⟩
      exact ⟨before, token, after, rfl, hbefore, he⟩

/-- The first doubled sign is complained about in both notations, and the blank token behind it in
neither. -/
theorem notations_agree_doubled_sign :
    ["+col_string", " -col_long", "--title", ""] ≠ [] ∧
      (∀ token ∈ ["+col_string", " -col_long", "--title", ""], ',' ∉ token.toList) ∧
      ofValue (.str "+col_string, -col_long,--title,") =
        .error (.invalidSortToken "--title" .notFieldName) ∧
      ofValue (.arr [.str "+col_string", .str " -col_long", .str "--title", .str ""]) =
        .error (.invalidSortToken "--title" .notFieldName) := by
  have hcomma : ∀ token ∈ ["+col_string", " -col_long", "--title", ""], ',' ∉ token.toList := by
    decide
  have hjoin : Text.join "," ["+col_string", " -col_long", "--title", ""] =
      "+col_string, -col_long,--title," := by decide
  have hstring : ofText "+col_string" = .ok ⟨"colString", .ascending⟩ := rfl
  have hlong : ofText " -col_long" = .ok ⟨"colLong", .descending⟩ := rfl
  have htitle : ofText "--title" = .error (.invalidSortToken "--title" .notFieldName) := rfl
  obtain ⟨hagree, -, herror⟩ := notations_agree (List.cons_ne_nil _ _) hcomma
  rw [hjoin] at hagree
  have hlist : ofValue (.arr [.str "+col_string", .str " -col_long", .str "--title", .str ""]) =
      .error (.invalidSortToken "--title" .notFieldName) := by
    refine (herror _).2 ⟨["+col_string", " -col_long"], "--title", [""], _, rfl, ?_, htitle, rfl⟩
    exact List.forall_mem_cons.2 ⟨⟨_, hstring⟩, List.forall_mem_singleton.2 ⟨_, hlong⟩⟩
  exact ⟨List.cons_ne_nil _ _, hcomma, hagree.trans hlist, hlist⟩

end RowFilter.SortToken
