import RowFilter.Proofs.Sql.Shape

/-!
# No literal in the text of a statement

A literal is seen in the text of a statement as a placeholder, and the placeholders count the
arguments from the first to the last.

Placeholders are looked for in the finished text, as a database does it: a `$` with digits after it
that stands in no quotes. Every piece of text leaves a reader who is outside of quotes there
(`IsSilent`), whatever quotes a name has in it, so no name can bring a placeholder in or hide one.
-/

namespace RowFilter

/-! ## The arguments of a predicate -/

namespace Expr

mutual

/-- The literals that are not absent, from left to right. -/
def arguments : Expr → List Literal
  | literal .null => []
  | literal l => [l]
  | path _ => []
  | upper inner => inner.arguments
  | timeOfDay inner => inner.arguments
  | list items => argumentsOfAll items

/-- The literals of several expressions that are not absent, from left to right. -/
def argumentsOfAll : List Expr → List Literal
  | [] => []
  | e :: rest => e.arguments ++ argumentsOfAll rest

end

end Expr

/-- The literals that are not absent and the patterns, from left to right, without those of a
membership test with an empty list. -/
def Predicate.arguments : Predicate → List Literal
  | compare _ .isIn (.list []) => []
  | compare left _ right => left.arguments ++ right.arguments
  | like expr pattern => expr.arguments ++ [.string pattern]
  | between expr low high => expr.arguments ++ low.arguments ++ high.arguments
  | isNull expr => expr.arguments
  | and left right => left.arguments ++ right.arguments
  | or left right => left.arguments ++ right.arguments
  | not inner => inner.arguments
  | true => []
  | false => []

namespace Sql

variable {fs : List Fragment} {scope : Scope}

/-! ## Placeholders in a text -/

/-- Where a reader of a statement stands. -/
inductive Position where
  | outside
  /-- Between double quotes. -/
  | identifier
  /-- Between single quotes. -/
  | string
  /-- After a `$` and the digits. -/
  | placeholder (digits : List Char)

/-- Where a reader outside of quotes stands after one more character. -/
def Position.enter (c : Char) : Position :=
  if c = '$' then .placeholder []
  else if c = '"' then .identifier
  else if c = '\x27' then .string
  else .outside

/-- The numbers of the placeholders in the rest of a statement. A quote that is doubled inside
quotes ends them and begins them again. -/
def placeholdersFrom : Position → List Char → List Nat
  | .placeholder digits, [] => [Number.ofDigits digits]
  | _, [] => []
  | .outside, c :: rest => placeholdersFrom (.enter c) rest
  | .identifier, c :: rest => placeholdersFrom (if c = '"' then .outside else .identifier) rest
  | .string, c :: rest => placeholdersFrom (if c = '\x27' then .outside else .string) rest
  | .placeholder digits, c :: rest =>
    if c.isDigit then placeholdersFrom (.placeholder (digits ++ [c])) rest
    else Number.ofDigits digits :: placeholdersFrom (.enter c) rest

/-- The numbers of the placeholders in a statement, from left to right. -/
def placeholders (statement : String) : List Nat := placeholdersFrom .outside statement.toList

example : placeholders "\"a$1\" = $1 AND 'it''s $2' <> $12" = [1, 12] := by decide +kernel

/-- Whether a piece of a statement has no placeholder and leaves a reader outside of quotes. -/
def IsSilent (cs : List Char) : Prop :=
  ∀ rest, placeholdersFrom .outside (cs ++ rest) = placeholdersFrom .outside rest

theorem IsSilent.append {cs ds : List Char} (hcs : IsSilent cs) (hds : IsSilent ds) :
    IsSilent (cs ++ ds) := by
  intro rest
  rw [List.append_assoc, hcs, hds]

theorem isSilent_of_plain {cs : List Char} (h : ∀ c ∈ cs, Position.enter c = .outside) :
    IsSilent cs := by
  intro rest
  induction cs with
  | nil => rfl
  | cons c cs ih =>
    obtain ⟨hc, hcs⟩ := List.forall_mem_cons.1 h
    rw [List.cons_append, placeholdersFrom, hc, ih hcs]

/-- Whatever the name is, its quotes enclose it. -/
theorem isSilent_identifier (name : String) : IsSilent (identifier name).toList := by
  intro rest
  have hname : ∀ cs : List Char, placeholdersFrom .identifier
      ((cs.flatMap fun x => if x = '"' then ['"', '"'] else [x]) ++ '"' :: rest) =
        placeholdersFrom .outside rest := by
    intro cs
    induction cs with
    | nil => rfl
    | cons x cs ih =>
      by_cases hx : x = '"'
      · subst hx
        exact ih
      · simpa [List.flatMap_cons, hx, placeholdersFrom] using ih
  simpa [identifier, Text.doubled, placeholdersFrom, Position.enter] using hname name.toList

/-- Whether a text is silent and cannot go on with the number of the placeholder before it. -/
def IsQuiet (s : String) : Prop :=
  IsSilent s.toList ∧ s.toList.head?.map Char.isDigit = some false

theorem IsQuiet.exists_cons {s : String} (h : IsQuiet s) :
    ∃ c cs, s.toList = c :: cs ∧ c.isDigit = false := by
  have hhead := h.2
  cases hs : s.toList with
  | nil => simp [hs] at hhead
  | cons c cs => exact ⟨c, cs, rfl, by simpa [hs] using hhead⟩

theorem IsQuiet.append {s t : String} (hs : IsQuiet s) (ht : IsSilent t.toList) :
    IsQuiet (s ++ t) := by
  obtain ⟨c, cs, hchars, hc⟩ := hs.exists_cons
  have hsilent := hs.1.append ht
  rw [← String.toList_append] at hsilent
  exact ⟨hsilent, by simp [hchars, hc]⟩

theorem isQuiet_identifier (name : String) : IsQuiet (identifier name) := by
  refine ⟨isSilent_identifier name, ?_⟩
  simp [identifier]

theorem isQuiet_column (table name : String) : IsQuiet (column table name) :=
  ((isQuiet_identifier table).append fun _ => rfl).append (isSilent_identifier name)

/-- Fragments with these arguments, in which every text is quiet. -/
inductive Carries : List Fragment → List Literal → Prop
  | nil : Carries [] []
  | text {s : String} {fs : List Fragment} {ls : List Literal} :
      IsQuiet s → Carries fs ls → Carries (.text s :: fs) ls
  | argument {l : Literal} {fs : List Fragment} {ls : List Literal} :
      Carries fs ls → Carries (.argument l :: fs) (l :: ls)

theorem Carries.append {gs : List Fragment} {ls ms : List Literal} (hfs : Carries fs ls)
    (hgs : Carries gs ms) : Carries (fs ++ gs) (ls ++ ms) := by
  induction hfs with
  | nil => exact hgs
  | text hs _ ih => exact .text hs ih
  | argument _ ih => exact .argument ih

theorem Carries.enclose {s t : String} {ls : List Literal} (hs : IsQuiet s) (hfs : Carries fs ls)
    (ht : IsQuiet t) : Carries (.text s :: fs ++ [.text t]) ls := by
  have h := (Carries.text hs hfs).append (.text ht .nil)
  rwa [List.append_nil] at h

theorem Carries.arguments_eq {ls : List Literal} (h : Carries fs ls) : arguments fs = ls := by
  induction h with
  | nil => rfl
  | text _ _ ih => rw [arguments, ih]
  | argument _ ih => rw [arguments, ih]

theorem placeholdersFrom_digits (ds es rest : List Char) (hes : ∀ c ∈ es, c.isDigit = true) :
    placeholdersFrom (.placeholder ds) (es ++ rest) =
      placeholdersFrom (.placeholder (ds ++ es)) rest := by
  induction es generalizing ds with
  | nil => rw [List.nil_append, List.append_nil]
  | cons c es ih =>
    obtain ⟨hc, hes⟩ := List.forall_mem_cons.1 hes
    rw [List.cons_append, placeholdersFrom, if_pos hc, ih _ hes, List.append_assoc,
      List.singleton_append]

/-- What comes after the number of a placeholder ends it. -/
theorem Carries.placeholdersFrom_eq {ls : List Literal} (h : Carries fs ls) (n : Nat)
    (digits : List Char) :
    placeholdersFrom (.placeholder digits) (numberedText n fs).toList =
      Number.ofDigits digits :: placeholdersFrom .outside (numberedText n fs).toList := by
  cases h with
  | nil => rfl
  | text hs _ =>
    obtain ⟨c, cs, hchars, hc⟩ := hs.exists_cons
    rw [numberedText, String.toList_append, hchars, List.cons_append]
    simp [placeholdersFrom, hc]
  | argument _ => simp [numberedText, placeholdersFrom]

/-- The placeholders of a statement count its arguments. -/
theorem Carries.placeholders_eq {ls : List Literal} (h : Carries fs ls) (n : Nat) :
    placeholders (numberedText n fs) = List.range' n ls.length := by
  induction h generalizing n with
  | nil => rfl
  | @text s fs ls hs _ ih =>
    rw [placeholders, numberedText, String.toList_append, hs.1]
    exact ih n
  | @argument l fs ls hfs ih =>
    have htext : (numberedText n (.argument l :: fs)).toList =
        '$' :: (Number.natDigits n ++ (numberedText (n + 1) fs).toList) := by
      simp [numberedText, Number.natText]
    rw [placeholders, htext, placeholdersFrom, Position.enter, if_pos rfl,
      placeholdersFrom_digits _ _ _ fun _ => Number.isDigit_of_mem_natDigits,
      hfs.placeholdersFrom_eq, List.nil_append, Number.ofDigits_natDigits, List.length_cons,
      List.range'_succ]
    exact congrArg _ (ih (n + 1))

/-! ## What the renderings carry -/

theorem carries_ofLiteral (l : Literal) : Carries [ofLiteral l] (Expr.literal l).arguments := by
  cases l with
  | null => exact .text ⟨fun _ => rfl, rfl⟩ .nil
  | _ => exact .argument .nil

theorem carries_ofItems {items : List Expr} (h : ofItems items = .ok fs) :
    Carries fs (Expr.argumentsOfAll items) := by
  fun_induction ofItems items generalizing fs with
  | case1 => cases h; exact .nil
  | case2 l =>
    cases h
    exact (carries_ofLiteral l).append .nil
  | case3 l rest hrest ih =>
    obtain ⟨others, hothers, h⟩ := bind_eq_ok.1 h
    cases h
    exact (carries_ofLiteral l).append (.text ⟨fun _ => rfl, rfl⟩ (ih hothers))
  | case4 => cases h

theorem Scope.isQuiet_of_column {path : Path} {c : String} (h : scope.column path = .ok c) :
    IsQuiet c := by
  unfold Scope.column at h
  grind [isQuiet_identifier, isQuiet_column]

theorem carries_ofExpr {e : Expr} (h : ofExpr scope e = .ok fs) : Carries fs e.arguments := by
  fun_induction ofExpr scope e generalizing fs with
  | case1 l =>
    cases h
    exact carries_ofLiteral l
  | case2 p =>
    obtain ⟨c, hc, h⟩ := bind_eq_ok.1 h
    cases h
    exact .text (scope.isQuiet_of_column hc) .nil
  | case3 inner ih =>
    obtain ⟨gs, hgs, h⟩ := bind_eq_ok.1 h
    cases h
    exact .enclose ⟨fun _ => rfl, rfl⟩ (ih hgs) ⟨fun _ => rfl, rfl⟩
  | case4 inner ih =>
    obtain ⟨gs, hgs, h⟩ := bind_eq_ok.1 h
    cases h
    exact .enclose ⟨fun _ => rfl, rfl⟩ (ih hgs) ⟨fun _ => rfl, rfl⟩
  | case5 items =>
    obtain ⟨gs, hgs, h⟩ := bind_eq_ok.1 h
    cases h
    exact .enclose ⟨fun _ => rfl, rfl⟩ (carries_ofItems hgs)
      ⟨fun _ => rfl, rfl⟩

theorem isQuiet_operator (operator : Comparison) : IsQuiet (" " ++ operator.sign ++ " ") := by
  cases operator <;> exact ⟨fun _ => rfl, rfl⟩

theorem carries_ofPredicate {p : Predicate} (h : ofPredicate scope p = .ok fs) :
    Carries fs p.arguments := by
  induction p generalizing fs with
  | compare left operator right =>
    rw [ofPredicate] at h
    unfold ofComparison at h
    split at h
    · cases h
      exact .text ⟨fun _ => rfl, rfl⟩ .nil
    · next hempty =>
      obtain ⟨l, hl, h⟩ := bind_eq_ok.1 h
      obtain ⟨r, hr, h⟩ := bind_eq_ok.1 h
      cases h
      rw [Predicate.arguments]
      · exact (carries_ofExpr hl).append (.text (isQuiet_operator operator) (carries_ofExpr hr))
      · exact hempty
  | like expr pattern =>
    obtain ⟨e, he, h⟩ := bind_eq_ok.1 h
    cases h
    exact (carries_ofExpr he).append (.text ⟨fun _ => rfl, rfl⟩ (.argument .nil))
  | between expr low high =>
    obtain ⟨e, he, h⟩ := bind_eq_ok.1 h
    obtain ⟨l, hl, h⟩ := bind_eq_ok.1 h
    obtain ⟨g, hg, h⟩ := bind_eq_ok.1 h
    cases h
    have hlow : Carries (.text " BETWEEN " :: l) low.arguments :=
      .text ⟨fun _ => rfl, rfl⟩ (carries_ofExpr hl)
    have hhigh : Carries (.text " AND " :: g) high.arguments :=
      .text ⟨fun _ => rfl, rfl⟩ (carries_ofExpr hg)
    exact ((carries_ofExpr he).append hlow).append hhigh
  | isNull expr =>
    obtain ⟨e, he, h⟩ := bind_eq_ok.1 h
    cases h
    rw [Predicate.arguments, ← List.append_nil expr.arguments]
    exact (carries_ofExpr he).append (.text ⟨fun _ => rfl, rfl⟩ .nil)
  | and left right ihl ihr =>
    obtain ⟨l, hl, h⟩ := bind_eq_ok.1 h
    obtain ⟨r, hr, h⟩ := bind_eq_ok.1 h
    cases h
    exact (ihl hl).append (.text ⟨fun _ => rfl, rfl⟩ (ihr hr))
  | or left right ihl ihr =>
    obtain ⟨l, hl, h⟩ := bind_eq_ok.1 h
    obtain ⟨r, hr, h⟩ := bind_eq_ok.1 h
    cases h
    have hinner : Carries (l ++ .text " OR " :: r) (left.arguments ++ right.arguments) :=
      (ihl hl).append (.text ⟨fun _ => rfl, rfl⟩ (ihr hr))
    have h : Carries (.text "(" :: (l ++ .text " OR " :: r) ++ [.text ")"]) _ :=
      .enclose ⟨fun _ => rfl, rfl⟩ hinner ⟨fun _ => rfl, rfl⟩
    simpa [Predicate.arguments] using h
  | not inner ih =>
    obtain ⟨gs, hgs, h⟩ := bind_eq_ok.1 h
    cases h
    exact .enclose ⟨fun _ => rfl, rfl⟩ (ih hgs) ⟨fun _ => rfl, rfl⟩
  | true =>
    cases h
    exact .text ⟨fun _ => rfl, rfl⟩ .nil
  | false =>
    cases h
    exact .text ⟨fun _ => rfl, rfl⟩ .nil

theorem carries_joinClauses {table : String} {joined : List Path} {joins : List Join}
    (h : joinClauses table joined joins = .ok fs) : Carries fs [] := by
  induction joins generalizing joined fs with
  | nil => cases h; exact .nil
  | cons join rest ih =>
    obtain ⟨owner, -, h⟩ := bind_eq_ok.1 h
    obtain ⟨others, hothers, h⟩ := bind_eq_ok.1 h
    cases h
    refine .text ?_ (ih hothers)
    have hjoin : IsQuiet " INNER JOIN " := ⟨fun _ => rfl, rfl⟩
    have has : IsSilent " AS ".toList := fun _ => rfl
    have hon : IsSilent " ON ".toList := fun _ => rfl
    have hequal : IsSilent " = ".toList := fun _ => rfl
    exact (((((((hjoin.append (isSilent_identifier _)).append has).append
      (isSilent_identifier _)).append hon).append (isQuiet_column _ _).1).append hequal).append
      (isQuiet_column _ _).1)

theorem carries_fromWhere {table : String} {s : Selection} (h : fromWhere table s = .ok fs) :
    Carries fs s.predicate.arguments := by
  obtain ⟨joins, hjoins, h⟩ := bind_eq_ok.1 h
  obtain ⟨condition, hcondition, h⟩ := bind_eq_ok.1 h
  cases h
  have hfrom : IsQuiet (" FROM " ++ identifier table) :=
    IsQuiet.append ⟨fun _ => rfl, rfl⟩ (isSilent_identifier table)
  have hwhere : Carries (.text " WHERE " :: condition) s.predicate.arguments :=
    .text ⟨fun _ => rfl, rfl⟩ (carries_ofPredicate hcondition)
  exact (Carries.text hfrom (carries_joinClauses hjoins)).append hwhere

theorem isSilent_join {separator : String} {texts : List String}
    (hseparator : IsSilent separator.toList) (h : ∀ s ∈ texts, IsSilent s.toList) :
    IsSilent (Text.join separator texts).toList := by
  fun_induction Text.join separator texts with
  | case1 => exact fun _ => rfl
  | case2 s => exact h s (List.mem_singleton_self s)
  | case3 s rest _ ih =>
    obtain ⟨hs, hrest⟩ := List.forall_mem_cons.1 h
    rw [String.toList_append, String.toList_append]
    exact (hs.append hseparator).append (ih hrest)

theorem isSilent_of_mem_orderColumns {items : List OrderItem} {columns : List String}
    (h : orderColumns scope items = .ok columns) : ∀ c ∈ columns, IsSilent c.toList := by
  induction items generalizing columns with
  | nil => cases h; exact List.forall_mem_nil _
  | cons item rest ih =>
    obtain ⟨c, hc, h⟩ := bind_eq_ok.1 h
    obtain ⟨others, hothers, h⟩ := bind_eq_ok.1 h
    cases h
    have hdirection : IsSilent (directionText item.direction).toList := by
      cases item.direction <;> exact fun _ => rfl
    have hcolumn := ((scope.isQuiet_of_column hc).append hdirection).1
    exact List.forall_mem_cons.2 ⟨hcolumn, ih hothers⟩

theorem carries_orderClause {items : List OrderItem} (h : orderClause scope items = .ok fs) :
    Carries fs [] := by
  unfold orderClause at h
  split at h
  · cases h; exact .nil
  · obtain ⟨columns, hcolumns, h⟩ := bind_eq_ok.1 h
    cases h
    have hcomma : IsSilent ", ".toList := fun _ => rfl
    have hsilent := isSilent_join hcomma (isSilent_of_mem_orderColumns hcolumns)
    exact .text (IsQuiet.append ⟨fun _ => rfl, rfl⟩ hsilent) .nil

theorem isSilent_natText (n : Nat) : IsSilent (Number.natText n).toList := by
  rw [Number.natText, String.toList_ofList]
  refine isSilent_of_plain fun c hc => ?_
  have hdigit := Number.isDigit_of_mem_natDigits hc
  unfold Position.enter
  rw [if_neg, if_neg, if_neg] <;> (rintro rfl; cases hdigit)

theorem carries_windowClause (word : String) (n : Option Nat) (hword : IsSilent word.toList) :
    Carries (windowClause word n) [] := by
  cases n with
  | none => exact .nil
  | some n =>
    have hspace : IsQuiet " " := ⟨fun _ => rfl, rfl⟩
    exact .text (((hspace.append hword).append fun _ => rfl).append (isSilent_natText n)) .nil

/-! ## Statements -/

/-- The statement of fragments has a placeholder for each of their arguments, in order. -/
theorem Carries.statement {ls : List Literal} (h : Carries fs ls) :
    placeholders (assemble fs).text = List.range' 1 (assemble fs).arguments.length ∧
      (assemble fs).arguments = ls := by
  have harguments : (assemble fs).arguments = ls := h.arguments_eq
  rw [harguments]
  exact ⟨h.placeholders_eq 1, rfl⟩

theorem carries_whereClause {p : Predicate} {statement : Statement}
    (h : whereClause p = .ok statement) :
    ∃ fs, statement = assemble fs ∧ Carries fs p.arguments := by
  obtain ⟨fs, hfs, h⟩ := bind_eq_ok.1 h
  cases h
  exact ⟨fs, rfl, carries_ofPredicate hfs⟩

theorem carries_select {table : String} {s : Selection} {statement : Statement}
    (h : select table s = .ok statement) :
    ∃ fs, statement = assemble fs ∧ Carries fs s.predicate.arguments := by
  obtain ⟨rows, hrows, h⟩ := bind_eq_ok.1 h
  obtain ⟨order, horder, h⟩ := bind_eq_ok.1 h
  cases h
  refine ⟨_, rfl, ?_⟩
  have hdistinct : IsSilent (if s.joins.isEmpty then "" else "DISTINCT ").toList := by
    split <;> exact fun _ => rfl
  have hhead : IsQuiet ("SELECT " ++ (if s.joins.isEmpty then "" else "DISTINCT ") ++
      identifier table ++ ".*") :=
    ((IsQuiet.append ⟨fun _ => rfl, rfl⟩ hdistinct).append (isSilent_identifier table)).append
      fun _ => rfl
  have htail := (carries_orderClause horder).append
    ((carries_windowClause "LIMIT" s.limit fun _ => rfl).append
      (carries_windowClause "OFFSET" s.offset fun _ => rfl))
  simpa using (Carries.text hhead (carries_fromWhere hrows)).append htail

theorem carries_count {table : String} {s : Selection} {statement : Statement}
    (h : count table s = .ok statement) :
    ∃ fs, statement = assemble fs ∧ Carries fs s.predicate.arguments := by
  obtain ⟨rows, hrows, h⟩ := bind_eq_ok.1 h
  cases h
  have hhead : IsQuiet ("SELECT COUNT(*) FROM (SELECT DISTINCT " ++ identifier table ++ ".*") :=
    (IsQuiet.append ⟨fun _ => rfl, rfl⟩ (isSilent_identifier table)).append fun _ => rfl
  exact ⟨_, rfl, .enclose hhead (carries_fromWhere hrows) ⟨fun _ => rfl, rfl⟩⟩

/-- **No literal reaches the text of a statement**: selections of one shape are rendered as one text
or fail alike, and the placeholders in the text count the arguments, which are the literals and the
patterns of the predicate from left to right. -/
theorem text_of_shape (table : String) {s t : Selection} (h : s.masked = t.masked) :
    ∀ render ∈ [select table, count table, fun s => whereClause s.predicate],
      Statement.text <$> render s = Statement.text <$> render t ∧
      ∀ statement, render s = .ok statement →
        placeholders statement.text = List.range' 1 statement.arguments.length ∧
          statement.arguments = s.predicate.arguments := by
  obtain ⟨p, rfl, hmasked⟩ := s.exists_of_masked h
  simp only [List.forall_mem_cons, List.not_mem_nil, false_implies, implies_true, and_true]
  refine ⟨⟨select_congr hmasked, fun statement hstatement => ?_⟩,
    ⟨count_congr hmasked, fun statement hstatement => ?_⟩,
    ⟨whereClause_congr hmasked, fun statement hstatement => ?_⟩⟩
  · obtain ⟨fs, rfl, hfs⟩ := carries_select hstatement
    exact hfs.statement
  · obtain ⟨fs, rfl, hfs⟩ := carries_count hstatement
    exact hfs.statement
  · obtain ⟨fs, rfl, hfs⟩ := carries_whereClause hstatement
    exact hfs.statement

/-- Values that look like a part of a statement change nothing in its text, and a column named like
a placeholder is none. -/
theorem text_of_shape_hostile_values :
    let named (name pattern : String) : Selection :=
      ⟨.and (.compare (.path (.simple "a\"$1")) .isIn
          (.list [.literal (.string name), .literal .null]))
        (.like (.upper (.path (.simple "title"))) pattern), [], none, some 10, none⟩
    Statement.text <$> select "book" (named "$9\" OR 1" "%$2%") =
        Statement.text <$> select "book" (named "x" "y") ∧
      ∃ statement, select "book" (named "$9\" OR 1" "%$2%") = .ok statement ∧
        placeholders statement.text = [1, 2] ∧
        statement.arguments = [.string "$9\" OR 1", .string "%$2%"] := by
  intro named
  have hshape : (named "$9\" OR 1" "%$2%").masked = (named "x" "y").masked := rfl
  obtain ⟨htext, hplaceholders⟩ := text_of_shape "book" hshape (select "book") List.mem_cons_self
  refine ⟨htext, _, rfl, ?_⟩
  exact hplaceholders _ rfl

end Sql

end RowFilter
