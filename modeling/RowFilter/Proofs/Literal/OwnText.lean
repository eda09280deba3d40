import RowFilter.Literal.Collation
import RowFilter.Proofs.Cast.Integers
import RowFilter.Proofs.Cast.Temporal
import RowFilter.Proofs.Number.Decimal
import RowFilter.Proofs.Uuid

/-!
# Values read back from their own texts

The written form of a value that is no text, without its quotes, is cast to the value again. For
dates and times this needs a year of four digits, no leap second and an offset of whole minutes; for
a member of an enumerated type, that no other member has its name in another case.
-/

namespace RowFilter

/-! ## Members of an enumerated type -/

theorem Text.equalIgnoringAsciiCase_self (s : String) :
    Text.equalIgnoringAsciiCase s s = true := by
  simp [Text.equalIgnoringAsciiCase]

/-- A member is found by its name where no two members are equal up to case. -/
theorem EnumType.member?_self {e : EnumType} {member : String} (hmember : member ∈ e.members)
    (hdistinct : e.members.Pairwise fun a b => Text.equalIgnoringAsciiCase a b = false) :
    e.member? member = some member := by
  obtain ⟨name, members⟩ := e
  change members.find? (Text.equalIgnoringAsciiCase · member) = some member
  induction members with
  | nil => cases hmember
  | cons first rest ih =>
    obtain ⟨hfirst, hrest⟩ := List.pairwise_cons.1 hdistinct
    rcases List.mem_cons.1 hmember with rfl | hmember
    · exact List.find?_cons_of_pos (Text.equalIgnoringAsciiCase_self member)
    · rw [List.find?_cons_of_neg (by rw [hfirst member hmember]; decide)]
      exact ih hmember hrest

namespace Literal

/-! ## Written forms -/

/-- The written form without the quotes around it. -/
def bareChars (v : Literal) : List Char :=
  if v.isQuoted then (v.display.toList.drop 1).dropLast else v.display.toList

/-- The written form as a filter value: without quotes, and with a `T` in the place of the blank of a
date-time. -/
def ownText (v : Literal) : String :=
  match v with
  | .dateTime _ => String.ofList (v.bareChars.map fun c => if c = ' ' then 'T' else c)
  | _ => String.ofList v.bareChars

/-- Whether a value belongs to a type that is no text, and can be read back from its written form. -/
inductive IsPlain : ScalarType → Literal → Prop where
  | i8 (n : Int8) : IsPlain .i8 (.i8 n)
  | i16 (n : Int16) : IsPlain .i16 (.i16 n)
  | i32 (n : Int32) : IsPlain .i32 (.i32 n)
  | i64 (n : Int64) : IsPlain .i64 (.i64 n)
  | bigInt (n : Int) : IsPlain .bigInt (.bigInt n)
  | decimal (d : Number.Decimal) : IsPlain .decimal (.decimal d)
  | bool (b : Bool) : IsPlain .bool (.bool b)
  | uuid (u : Uuid) : IsPlain .uuid (.uuid u)
  | date {d : Civil.Date} (h : d.HasPlainYear) : IsPlain .date (.date d)
  | time {t : Civil.Time} (h : t.isLeap = false) : IsPlain .time (.time t)
  | dateTime {dt : Civil.DateTime} (h : dt.IsPlain) : IsPlain .dateTime (.dateTime dt)
  | instant {i : Civil.Instant} (h : i.utc.IsPlain) : IsPlain .instant (.instant i)
  | offsetDateTime {o : Civil.OffsetDateTime} (h : o.IsPlain) :
    IsPlain .offsetDateTime (.offsetDateTime o)
  | enum {e : EnumType} {member : String} (hmember : member ∈ e.members)
    (hplain : Text.Plain member.toList)
    (hdistinct : e.members.Pairwise fun a b => Text.equalIgnoringAsciiCase a b = false) :
    IsPlain (.enum e) (.enum member)

variable {type : ScalarType} {v : Literal}

/-- Only strings have quotes inside that are written twice. -/
theorem bareChars_eq (h : ∀ s, v ≠ .string s) : v.bareChars = v.text.toList := by
  have hdisplay : v.display = if v.isQuoted then "\x27" ++ v.text ++ "\x27" else v.text := by
    cases v with
    | string s => exact absurd rfl (h s)
    | _ => rfl
  unfold bareChars
  rw [hdisplay]
  split <;> simp [String.toList_append]

theorem toList_ownText (h : ∀ s, v ≠ .string s) (hdateTime : ∀ dt, v ≠ .dateTime dt) :
    v.ownText.toList = v.text.toList := by
  rw [← bareChars_eq h]
  cases v with
  | dateTime dt => exact absurd rfl (hdateTime dt)
  | _ => exact String.toList_ofList

/-- The blank is the only one of a date-time. -/
theorem toList_ownText_dateTime (dt : Civil.DateTime) :
    (dateTime dt).ownText.toList = dt.chars 'T' := by
  have hkept {cs : List Char} (h : Text.Plain cs) :
      cs.map (fun c => if c = ' ' then 'T' else c) = cs := by
    refine (List.map_congr_left fun c hc => ?_).trans (List.map_id _)
    have hblank : c ≠ ' ' := by
      rintro rfl
      exact absurd (h ' ' hc) (by decide)
    exact if_neg hblank
  have hbare : (dateTime dt).bareChars = (dateTime dt).text.toList := bareChars_eq fun _ => nofun
  rw [ownText, String.toList_ofList, hbare, text, Civil.DateTime.text, String.toList_ofList,
    Civil.DateTime.chars, List.map_append, List.map_cons,
    hkept dt.date.plain_chars, hkept dt.time.plain_chars]
  rfl

theorem IsPlain.ne_string (h : IsPlain type v) (s : String) : v ≠ .string s := by
  cases h <;> exact nofun

theorem IsPlain.ne_dateTime (h : IsPlain type v) (htype : type ≠ .dateTime)
    (dt : Civil.DateTime) : v ≠ .dateTime dt := by
  rintro rfl
  cases h
  exact htype rfl

theorem IsPlain.plain_ownText (h : IsPlain type v) : Text.Plain v.ownText.toList := by
  by_cases hdateTime : ∃ dt, v = .dateTime dt
  · obtain ⟨dt, rfl⟩ := hdateTime
    rw [toList_ownText_dateTime]
    exact dt.plain_chars
  · rw [toList_ownText h.ne_string (not_exists.1 hdateTime)]
    cases h with
    | i8 | i16 | i32 | i64 | bigInt =>
      rw [text, Number.toList_intText]
      exact Number.plain_intDigits _
    | decimal d => exact d.plain_text
    | bool b => cases b <;> exact Text.plain_of_all (by decide)
    | uuid u => exact u.plain_text
    | @date d =>
      rw [text, Civil.Date.text, String.toList_ofList]
      exact d.plain_chars
    | @time t =>
      rw [text, Civil.Time.text, String.toList_ofList]
      exact t.plain_chars
    | dateTime => exact absurd ⟨_, rfl⟩ hdateTime
    | @instant i => exact i.withoutOffset.plain_text
    | @offsetDateTime o => exact o.plain_text
    | enum _ hplain _ => exact hplain

theorem IsPlain.isText_eq_false (h : IsPlain type v) : type.isText = false := by
  cases h <;> rfl

theorem IsPlain.kind_ne_other (h : IsPlain type v) : type.kind ≠ .other := by
  cases h <;> exact nofun

theorem IsPlain.collate_self (h : IsPlain type v) : v.collate v = some .eq := by
  cases h with
  | i8 | i16 | i32 | i64 | bigInt | decimal | bool | uuid | enum =>
    exact congrArg some Std.compare_self
  | date | time | dateTime | instant | offsetDateTime =>
    simp [collate, collateAcrossKinds, Numeric.ofLiteral?, characters?, instant?,
      Civil.Date.order, Civil.Time.order, Civil.DateTime.order, Civil.Instant.order]

end Literal

/-! ## Casting -/

namespace Cast

variable {zone : Civil.LocalZone} {target : ScalarType} {raw : String}

/-- **The own text of a plain value** is cast to the value. -/
theorem toLiteral_ownText {v : Literal} (h : v.IsPlain target) :
    toLiteral zone target v.ownText = .ok (some v) := by
  have htrim := Text.trimChars_of_plain h.plain_ownText
  have htext (htarget : target ≠ .dateTime) : v.ownText.toList = v.text.toList :=
    Literal.toList_ownText h.ne_string (h.ne_dateTime htarget)
  have hwrites {n : Int} (hdigits : v.ownText.toList = Number.intDigits n) :
      Number.Writes (Text.trimChars v.ownText.toList) n := by
    rw [htrim, hdigits]
    exact Number.writes_intDigits n
  cases h with
  | i8 n =>
    have hdigits := (htext (by decide)).trans (Number.toList_intText n.toInt)
    have hlow := n.le_toInt
    have hhigh := n.toInt_lt
    have hfits : Number.fitsInt64 n.toInt = true := Number.fitsInt64_iff.2 (by omega)
    rw [toLiteral, toBounded_of_writes (hwrites hdigits) hfits, if_pos (by omega)]
    simp [bind, Except.bind]
  | i16 n =>
    have hdigits := (htext (by decide)).trans (Number.toList_intText n.toInt)
    have hlow := n.le_toInt
    have hhigh := n.toInt_lt
    have hfits : Number.fitsInt64 n.toInt = true := Number.fitsInt64_iff.2 (by omega)
    rw [toLiteral, toBounded_of_writes (hwrites hdigits) hfits, if_pos (by omega)]
    simp [bind, Except.bind]
  | i32 n =>
    have hdigits := (htext (by decide)).trans (Number.toList_intText n.toInt)
    have hlow := n.le_toInt
    have hhigh := n.toInt_lt
    have hfits : Number.fitsInt64 n.toInt = true := Number.fitsInt64_iff.2 (by omega)
    have hclamp : max (-2147483648) (min n.toInt 2147483647) = n.toInt := by omega
    rw [toLiteral, toInt64_of_writes (hwrites hdigits) hfits]
    simp [bind, Except.bind, hclamp]
  | i64 n =>
    have hdigits := (htext (by decide)).trans (Number.toList_intText n.toInt)
    have hlow := n.le_toInt
    have hhigh := n.toInt_lt
    have hfits : Number.fitsInt64 n.toInt = true := Number.fitsInt64_iff.2 (by omega)
    rw [toLiteral, toInt64_of_writes (hwrites hdigits) hfits]
    simp [bind, Except.bind]
  | bigInt n =>
    have hdigits := (htext (by decide)).trans (Number.toList_intText n)
    rw [toLiteral, Number.readBigInt?_of_writes (hwrites hdigits)]
    rfl
  | decimal d =>
    have hread : Number.Decimal.read? (Text.trimChars (Literal.decimal d).ownText.toList) =
        some d := by
      rw [htrim, htext (by decide)]
      exact d.read?_text
    rw [toLiteral, hread]
    rfl
  | bool b =>
    rw [toLiteral, htrim, htext (by decide)]
    cases b <;> rfl
  | uuid u =>
    have hread : Uuid.read? (Text.trimChars (Literal.uuid u).ownText.toList) = some u := by
      rw [htrim, htext (by decide)]
      exact u.read?_text
    rw [toLiteral, hread]
    rfl
  | @date d hyear =>
    have hsays : Civil.Says (Literal.date d).ownText.toList (.date d) := by
      rw [htext (by decide), Literal.text, Civil.Date.text, String.toList_ofList]
      exact Civil.says_date hyear
    exact gives_of_says hsays (by decide)
  | @time t hsecond =>
    rw [toLiteral, htext (by decide), Literal.text, Civil.readTime?_text hsecond]
    rfl
  | @dateTime dt hplain =>
    have hsays : Civil.Says (Literal.dateTime dt).ownText.toList (.wallClock dt) := by
      rw [Literal.toList_ownText_dateTime]
      exact Civil.says_dateTime hplain
    exact gives_of_says hsays (by decide)
  | @instant i hplain =>
    have hsays : Civil.Says (Literal.instant i).ownText.toList (.zoned i.withoutOffset) := by
      rw [htext (by decide)]
      exact Civil.says_offsetDateTime hplain.withoutOffset
    exact gives_of_says hsays (by decide)
  | @offsetDateTime o hplain =>
    have hsays : Civil.Says (Literal.offsetDateTime o).ownText.toList (.zoned o) := by
      rw [htext (by decide)]
      exact Civil.says_offsetDateTime hplain
    exact gives_of_says hsays (by decide)
  | @enum e member hmember hplain hdistinct =>
    rw [toLiteral, htrim, htext (by simp), Literal.text, String.ofList_toList,
      EnumType.member?_self hmember hdistinct]
    rfl

end Cast

end RowFilter
