import RowFilter.Proofs.Query.Scope
import RowFilter.Proofs.Sql.Grammar

/-!
# The tokens of a rendered predicate

A piece of a statement makes up its tokens whatever arguments come before and after its own
(`Reads`). That its last token ends where the next piece begins is due to the first character of
that piece, which is a blank, a comma or a closing parenthesis (`Delimits`).
-/

namespace RowFilter

/-! ## The tokens -/

/-- The token of a literal. -/
def Literal.token : Literal → Sql.Token
  | null => .keyword .null
  | l => .value l

namespace Expr

/-- The tokens of the items of a list, with commas between them. -/
def itemTokens : List Expr → List Sql.Token
  | [.literal l] => [l.token]
  | .literal l :: rest => l.token :: .comma :: itemTokens rest
  | _ => []

/-- The tokens of an expression. -/
def tokens : Expr → List Sql.Token
  | literal l => [l.token]
  | path p => [.name p.property]
  | upper inner => .keyword .upper :: .opening :: inner.tokens ++ [.closing]
  | timeOfDay inner =>
    .keyword .cast :: .opening :: .opening :: inner.tokens ++
      [.keyword .at, .keyword .time, .keyword .zone, .quoted ['U', 'T', 'C'], .closing,
        .keyword .as, .keyword .time, .closing]
  | list items => .opening :: itemTokens items ++ [.closing]

end Expr

namespace Predicate

/-- The token of the sign of a comparison. -/
def operatorToken : Comparison → Sql.Token
  | .isIn => .keyword .isIn
  | operator => .sign operator

/-- The tokens of a predicate. -/
def tokens : Predicate → List Sql.Token
  | compare _ .isIn (.list []) => [.keyword .false]
  | compare left operator right => left.tokens ++ operatorToken operator :: right.tokens
  | like expr pattern => expr.tokens ++ [.keyword .like, .value (.string pattern)]
  | between expr low high =>
    expr.tokens ++ .keyword .between :: low.tokens ++ .keyword .and :: high.tokens
  | isNull expr => expr.tokens ++ [.keyword .is, .keyword .null]
  | and left right => left.tokens ++ .keyword .and :: right.tokens
  | or left right =>
    .opening :: left.tokens ++ .keyword .or :: right.tokens ++ [.closing]
  | not inner => .keyword .not :: .opening :: inner.tokens ++ [.closing]
  | true => [.keyword .true]
  | false => [.keyword .false]

end Predicate

namespace Sql

/-! ## Reading on -/

variable {args : List Literal} {cs ds : List Char} {ts us : List Token} {m m' m'' : Mode}

theorem scan?_append (hcs : scan? args m cs = some (ts, m'))
    (hds : scan? args m' ds = some (us, m'')) :
    scan? args m (cs ++ ds) = some (ts ++ us, m'') := by
  induction cs generalizing m ts with
  | nil =>
    cases hcs
    exact hds
  | cons c cs ih =>
    obtain ⟨⟨first, next⟩, hstep, hcs⟩ := Option.bind_eq_some_iff.1 hcs
    obtain ⟨⟨others, last⟩, hscan, hcs⟩ := Option.bind_eq_some_iff.1 hcs
    cases hcs
    simp [scan?, hstep, ih hscan]

/-- Whether a character ends every token that a value can end with. -/
def Delimits (c : Char) : Prop := c = ' ' ∨ c = ')' ∨ c = ','

/-- Whether characters between tokens make up these tokens, once a delimiter comes after them. -/
def Yields (args : List Literal) (cs : List Char) (ts : List Token) : Prop :=
  ∃ early late m, scan? args .blank cs = some (early, m) ∧ m.finish? args = some late ∧
    ts = early ++ late ∧ ∀ c, Delimits c → m.extend? c = none

/-- What is read after a delimiter does not depend on what came before it. -/
theorem scan?_delimiter {c : Char} {late : List Token} (hextend : m.extend? c = none)
    (hfinish : m.finish? args = some late)
    (hds : scan? args .blank (c :: ds) = some (us, m')) :
    scan? args m (c :: ds) = some (late ++ us, m') := by
  obtain ⟨⟨first, next⟩, hstep, hds⟩ := Option.bind_eq_some_iff.1 hds
  obtain ⟨⟨others, last⟩, hscan, hds⟩ := Option.bind_eq_some_iff.1 hds
  cases hds
  obtain ⟨⟨entered, mode⟩, henter, hstep⟩ := Option.bind_eq_some_iff.1 hstep
  cases hstep
  simp [scan?, step?, hextend, hfinish, henter, hscan]

theorem Yields.append {c : Char} (hcs : Yields args cs ts) (hds : Yields args (c :: ds) us)
    (hc : Delimits c) : Yields args (cs ++ c :: ds) (ts ++ us) := by
  obtain ⟨early, late, m, hscan, hfinish, rfl, hextend⟩ := hcs
  obtain ⟨early', late', m', hscan', hfinish', rfl, hextend'⟩ := hds
  have hrest := scan?_delimiter (hextend c hc) hfinish hscan'
  refine ⟨early ++ (late ++ early'), late', m', scan?_append hscan hrest, hfinish', ?_, hextend'⟩
  simp

/-- What ends between tokens is read apart from what comes after it. -/
theorem Yields.after (hcs : scan? args .blank cs = some (ts, .blank)) (hds : Yields args ds us) :
    Yields args (cs ++ ds) (ts ++ us) := by
  obtain ⟨early, late, m, hscan, hfinish, rfl, hextend⟩ := hds
  refine ⟨ts ++ early, late, m, scan?_append hcs hscan, hfinish, ?_, hextend⟩
  rw [List.append_assoc]

theorem Yields.tokens? {s : String} (h : Yields args s.toList ts) : tokens? args s = some ts := by
  obtain ⟨early, late, m, hscan, hfinish, rfl, -⟩ := h
  simp [Sql.tokens?, hscan, hfinish]

/-! ## Pieces that values end with -/

theorem yields_of_closing (h : scan? args .blank cs = some (ts, .blank)) : Yields args cs ts := by
  refine ⟨ts, [], .blank, h, rfl, ?_, fun _ _ => rfl⟩
  rw [List.append_nil]

theorem yields_word (ts : List Token) {letters : List Char} {k : Keyword}
    (h : scan? args .blank cs = some (ts, .word letters)) (hk : keywords.lookup letters = some k) :
    Yields args cs (ts ++ [.keyword k]) := by
  refine ⟨ts, [.keyword k], .word letters, h, by rw [Mode.finish?, hk]; rfl, rfl, ?_⟩
  rintro c (rfl | rfl | rfl) <;> rfl

theorem scan?_quoted (q : Char) (acc cs : List Char) :
    scan? args (.quoted q acc) ((cs.flatMap fun x => if x = q then [q, q] else [x]) ++ [q]) =
      some ([], .quotedEnd q (acc ++ cs)) := by
  induction cs generalizing acc with
  | nil => simp [scan?, step?, Mode.extend?]
  | cons x cs ih =>
    by_cases hx : x = q
    · subst hx
      simp [scan?, step?, Mode.extend?, ih]
    · simp [scan?, step?, Mode.extend?, hx, ih]

theorem yields_identifier (name : String) : Yields args (identifier name).toList [.name name] := by
  have hchars : (identifier name).toList =
      '"' :: ((name.toList.flatMap fun x => if x = '"' then ['"', '"'] else [x]) ++ ['"']) := by
    simp [identifier, Text.doubled]
  refine ⟨[], [.name name], .quotedEnd '"' name.toList, ?_, ?_, rfl, ?_⟩
  · rw [hchars, scan?]
    simp [step?, Mode.extend?, Mode.finish?, enter?, scan?_quoted]
  · simp [Mode.finish?]
  · rintro c (rfl | rfl | rfl) <;> rfl

theorem scan?_digits (digits more : List Char) (h : ∀ c ∈ more, c.isDigit = true) :
    scan? args (.placeholder digits) more = some ([], .placeholder (digits ++ more)) := by
  induction more generalizing digits with
  | nil => simp [scan?]
  | cons c more ih =>
    obtain ⟨hc, hmore⟩ := List.forall_mem_cons.1 h
    simp [scan?, step?, Mode.extend?, hc, ih _ hmore]

/-- A placeholder is read as the argument with its number. -/
theorem yields_placeholder {n : Nat} {l : Literal} (h : args[n]? = some l) :
    Yields args ('$' :: Number.natDigits (n + 1)) [.value l] := by
  refine ⟨[], [.value l], .placeholder (Number.natDigits (n + 1)), ?_, ?_, rfl, ?_⟩
  · rw [scan?]
    simp [step?, Mode.extend?, Mode.finish?, enter?,
      scan?_digits [] _ fun _ => Number.isDigit_of_mem_natDigits]
  · rw [Mode.finish?, Number.ofDigits_natDigits]
    simp [h]
  · rintro c (rfl | rfl | rfl) <;> rfl

/-! ## Fragments -/

section Fragments

variable {fs gs : List Fragment} {s : String}

theorem arguments_append (fs gs : List Fragment) :
    arguments (fs ++ gs) = arguments fs ++ arguments gs := by
  fun_induction arguments fs with
  | case1 => rfl
  | case2 s rest ih => exact ih
  | case3 l rest ih => rw [List.cons_append, arguments, ih, List.cons_append]

theorem numberedText_append (n : Nat) (fs gs : List Fragment) :
    numberedText n (fs ++ gs) =
      numberedText n fs ++ numberedText (n + (arguments fs).length) gs := by
  fun_induction numberedText n fs with
  | case1 n => simp [arguments]
  | case2 n s rest ih => rw [List.cons_append, numberedText, ih, arguments, String.append_assoc]
  | case3 n l rest ih =>
    have hn : n + ((arguments rest).length + 1) = n + 1 + (arguments rest).length := by omega
    rw [List.cons_append, numberedText, ih, arguments, List.length_cons, hn]
    simp only [String.append_assoc]

/-- Whether fragments make up these tokens wherever they stand in a statement. -/
def Reads (fs : List Fragment) (ts : List Token) : Prop :=
  ∀ before after, Yields (before ++ arguments fs ++ after)
    (numberedText (before.length + 1) fs).toList ts

theorem reads_text (h : ∀ args, Yields args s.toList ts) : Reads [.text s] ts := by
  intro before after
  simpa [numberedText] using h _

theorem reads_argument (l : Literal) : Reads [.argument l] [.value l] := by
  intro before after
  have hl : (before ++ arguments [.argument l] ++ after)[before.length]? = some l := by
    simp [arguments]
  simpa [numberedText, Number.natText] using yields_placeholder hl

/-- Fragments can be followed by others that begin with a delimiter. -/
theorem Reads.append (hfs : Reads fs ts) (hgs : Reads (.text s :: gs) us)
    (hs : ∃ c cs, s.toList = c :: cs ∧ Delimits c) : Reads (fs ++ .text s :: gs) (ts ++ us) := by
  intro before after
  obtain ⟨c, cs, hchars, hc⟩ := hs
  have hleft := hfs before (arguments gs ++ after)
  have hright := hgs (before ++ arguments fs) after
  rw [numberedText, String.toList_append, hchars, List.cons_append] at hright
  rw [numberedText_append, String.toList_append, arguments_append, numberedText,
    String.toList_append, hchars, List.cons_append]
  simp only [arguments, List.append_assoc, List.length_append] at hleft hright ⊢
  rw [Nat.add_right_comm] at hright
  exact hleft.append hright hc

/-- Fragments can follow a text that ends between tokens. -/
theorem Reads.after (hfs : Reads fs us) (ts : List Token)
    (hs : ∀ args, scan? args .blank s.toList = some (ts, .blank)) :
    Reads (.text s :: fs) (ts ++ us) := by
  intro before after
  rw [numberedText, String.toList_append]
  exact .after (hs _) (hfs before after)

/-! ## Renderings -/

theorem reads_ofLiteral (l : Literal) : Reads [ofLiteral l] [l.token] := by
  cases l with
  | null => exact reads_text fun _ => yields_word [] rfl rfl
  | _ => exact reads_argument _

theorem delimits_blank {s : String} {cs : List Char} (h : s.toList = ' ' :: cs) :
    ∃ c cs, s.toList = c :: cs ∧ Delimits c := ⟨' ', cs, h, .inl rfl⟩

theorem delimits_comma : ∃ c cs, ", ".toList = c :: cs ∧ Delimits c :=
  ⟨',', _, rfl, .inr (.inr rfl)⟩

theorem delimits_closing : ∃ c cs, ")".toList = c :: cs ∧ Delimits c :=
  ⟨')', _, rfl, .inr (.inl rfl)⟩

theorem reads_closing : Reads [.text ")"] [.closing] :=
  reads_text fun _ => yields_of_closing rfl

/-- A list of literals with at least one item is rendered and read. -/
theorem reads_ofItems {items : List Expr} (h : items.all Expr.isLiteral = true) (hne : items ≠ []) :
    ∃ fs, ofItems items = .ok fs ∧ Reads fs (Expr.itemTokens items) := by
  induction items with
  | nil => exact absurd rfl hne
  | cons item rest ih =>
    rw [List.all_cons, Bool.and_eq_true] at h
    cases item with
    | literal l =>
      cases rest with
      | nil => exact ⟨_, rfl, reads_ofLiteral l⟩
      | cons next rest =>
        obtain ⟨fs, hfs, hreads⟩ := ih h.2 (List.cons_ne_nil _ _)
        have hcomma : Reads (.text ", " :: fs) (.comma :: Expr.itemTokens (next :: rest)) :=
          hreads.after [.comma] fun _ => rfl
        refine ⟨ofLiteral l :: .text ", " :: fs, by simp only [ofItems, hfs]; rfl, ?_⟩
        exact (reads_ofLiteral l).append hcomma delimits_comma
    | path | upper | timeOfDay | list => cases h.1

theorem Path.eq_simple {path : Path} (h : path.isSimple = true) : path = .simple path.property := by
  obtain ⟨step, hsteps⟩ := List.length_eq_one_iff.1 (beq_iff_eq.1 h)
  obtain rfl : path = .simple step := congrArg Path.mk hsteps
  rfl

theorem column_of_isSimple {path : Path} (h : path.isSimple = true) :
    Scope.column ⟨none, []⟩ path = .ok (identifier path.property) := by
  rw [Path.eq_simple h]
  rfl

theorem reads_ofExpr {e : Expr} (hsingle : e.isSingle = true)
    (hpaths : ∀ p ∈ e.paths, p.isSimple = true) :
    ∃ fs, ofExpr ⟨none, []⟩ e = .ok fs ∧ Reads fs e.tokens := by
  fun_induction Expr.isSingle e with
  | case1 l => exact ⟨_, rfl, reads_ofLiteral l⟩
  | case2 p =>
    have hcolumn := column_of_isSimple (hpaths p List.mem_cons_self)
    refine ⟨[.text (identifier p.property)], by rw [ofExpr, hcolumn]; rfl, ?_⟩
    exact reads_text fun _ => yields_identifier _
  | case3 inner ih =>
    obtain ⟨fs, hfs, hreads⟩ := ih hsingle hpaths
    refine ⟨_, by rw [ofExpr, hfs]; rfl, ?_⟩
    exact (hreads.append reads_closing delimits_closing).after [.keyword .upper, .opening]
      fun _ => rfl
  | case4 inner ih =>
    obtain ⟨fs, hfs, hreads⟩ := ih hsingle hpaths
    refine ⟨_, by rw [ofExpr, hfs]; rfl, ?_⟩
    have hzone : Reads [.text " AT TIME ZONE 'UTC') AS TIME)"]
        [.keyword .at, .keyword .time, .keyword .zone, .quoted ['U', 'T', 'C'], .closing,
          .keyword .as, .keyword .time, .closing] :=
      reads_text fun _ => yields_of_closing rfl
    exact (hreads.append hzone (delimits_blank rfl)).after
      [.keyword .cast, .opening, .opening] fun _ => rfl
  | case5 items => cases hsingle

theorem reads_compare {left right : Expr} {operator : Comparison} {l r : List Fragment}
    (hl : Reads l left.tokens) (hr : Reads r right.tokens) :
    Reads (l ++ .text (" " ++ operator.sign ++ " ") :: r)
      (left.tokens ++ Predicate.operatorToken operator :: right.tokens) := by
  have hsign : ∀ args, scan? args .blank (" " ++ operator.sign ++ " ").toList =
      some ([Predicate.operatorToken operator], .blank) := by
    intro args
    cases operator <;> rfl
  have hblank : (" " ++ operator.sign ++ " ").toList = ' ' :: (operator.sign.toList ++ [' ']) := by
    simp
  exact hl.append (hr.after [_] hsign) (delimits_blank hblank)

/-- A well-formed predicate over single steps is rendered, and the fragments make up its tokens. -/
theorem reads_ofPredicate {p : Predicate} (hwell : p.isWellFormed = true)
    (hpaths : ∀ path ∈ p.paths, path.isSimple = true) :
    ∃ fs, ofPredicate ⟨none, []⟩ p = .ok fs ∧ Reads fs p.tokens := by
  induction p with
  | compare left operator right =>
    simp only [Predicate.paths, List.forall_mem_append] at hpaths
    obtain ⟨hleft, hright⟩ := Predicate.isWellFormed_compare hwell
    obtain ⟨l, hl, hreadsl⟩ := reads_ofExpr hleft hpaths.1
    by_cases hempty : operator = .isIn ∧ right = .list []
    · obtain ⟨rfl, rfl⟩ := hempty
      exact ⟨_, rfl, reads_text fun _ => yields_word [] rfl rfl⟩
    · have hrest : ∃ r, ofExpr ⟨none, []⟩ right = .ok r ∧ Reads r right.tokens := by
        rcases hright with ⟨_, hright⟩ | ⟨rfl, items, rfl, hitems⟩
        · exact reads_ofExpr hright hpaths.2
        · have hne : items ≠ [] := fun hnil => hempty ⟨rfl, by rw [hnil]⟩
          obtain ⟨fs, hfs, hreads⟩ := reads_ofItems hitems hne
          refine ⟨_, by rw [ofExpr, hfs]; rfl, ?_⟩
          exact (hreads.append reads_closing delimits_closing).after [.opening] fun _ => rfl
      obtain ⟨r, hr, hreadsr⟩ := hrest
      have hnot : operator = .isIn → right = .list [] → False := fun h h' => hempty ⟨h, h'⟩
      rw [ofPredicate, ofComparison, hl, hr, Predicate.tokens]
      · exact ⟨_, rfl, reads_compare hreadsl hreadsr⟩
      · exact hnot
      · exact hnot
  | like expr pattern =>
    obtain ⟨e, he, hreads⟩ := reads_ofExpr hwell hpaths
    have hlike := (reads_argument (.string pattern)).after (s := " LIKE ") [.keyword .like]
      fun _ => rfl
    refine ⟨_, by rw [ofPredicate, he]; rfl, hreads.append hlike (delimits_blank rfl)⟩
  | between expr low high =>
    simp only [Predicate.paths, List.forall_mem_append] at hpaths
    simp only [Predicate.isWellFormed, Bool.and_eq_true] at hwell
    obtain ⟨e, he, hreadse⟩ := reads_ofExpr hwell.1.1 hpaths.1.1
    obtain ⟨l, hl, hreadsl⟩ := reads_ofExpr hwell.1.2 hpaths.1.2
    obtain ⟨h, hh, hreadsh⟩ := reads_ofExpr hwell.2 hpaths.2
    have hlow := hreadsl.after (s := " BETWEEN ") [.keyword .between] fun _ => rfl
    have hhigh := hreadsh.after (s := " AND ") [.keyword .and] fun _ => rfl
    refine ⟨_, by rw [ofPredicate, he, hl, hh]; rfl, ?_⟩
    exact (hreadse.append hlow (delimits_blank rfl)).append hhigh (delimits_blank rfl)
  | isNull expr =>
    obtain ⟨e, he, hreads⟩ := reads_ofExpr hwell hpaths
    have hnull : Reads [.text " IS NULL"] [.keyword .is, .keyword .null] :=
      reads_text fun _ => yields_word [.keyword .is] rfl rfl
    exact ⟨_, by rw [ofPredicate, he]; rfl, hreads.append hnull (delimits_blank rfl)⟩
  | and left right ihl ihr =>
    simp only [Predicate.paths, List.forall_mem_append] at hpaths
    simp only [Predicate.isWellFormed, Bool.and_eq_true] at hwell
    obtain ⟨l, hl, hreadsl⟩ := ihl hwell.1 hpaths.1
    obtain ⟨r, hr, hreadsr⟩ := ihr hwell.2 hpaths.2
    have hright := hreadsr.after (s := " AND ") [.keyword .and] fun _ => rfl
    exact ⟨_, by rw [ofPredicate, hl, hr]; rfl, hreadsl.append hright (delimits_blank rfl)⟩
  | or left right ihl ihr =>
    simp only [Predicate.paths, List.forall_mem_append] at hpaths
    simp only [Predicate.isWellFormed, Bool.and_eq_true] at hwell
    obtain ⟨l, hl, hreadsl⟩ := ihl hwell.1 hpaths.1
    obtain ⟨r, hr, hreadsr⟩ := ihr hwell.2 hpaths.2
    have hleft := hreadsl.after (s := "(") [.opening] fun _ => rfl
    have hright := hreadsr.after (s := " OR ") [.keyword .or] fun _ => rfl
    refine ⟨_, by rw [ofPredicate, hl, hr]; rfl, ?_⟩
    exact (hleft.append hright (delimits_blank rfl)).append reads_closing delimits_closing
  | not inner ih =>
    obtain ⟨fs, hfs, hreads⟩ := ih hwell hpaths
    refine ⟨_, by rw [ofPredicate, hfs]; rfl, ?_⟩
    exact (hreads.append reads_closing delimits_closing).after [.keyword .not, .opening]
      fun _ => rfl
  | true => exact ⟨_, rfl, reads_text fun _ => yields_word [] rfl rfl⟩
  | false => exact ⟨_, rfl, reads_text fun _ => yields_word [] rfl rfl⟩

end Fragments

/-- The clause of a well-formed predicate over single steps has its tokens. -/
theorem tokens?_whereClause {p : Predicate} (hwell : p.isWellFormed = true)
    (hpaths : ∀ path ∈ p.paths, path.isSimple = true) :
    ∃ statement, whereClause p = .ok statement ∧
      tokens? statement.arguments statement.text = some p.tokens := by
  obtain ⟨fs, hfs, hreads⟩ := reads_ofPredicate hwell hpaths
  refine ⟨assemble fs, by rw [whereClause, hfs]; rfl, ?_⟩
  have hyields := hreads [] []
  rw [List.nil_append, List.append_nil] at hyields
  exact hyields.tokens?

end Sql

end RowFilter
