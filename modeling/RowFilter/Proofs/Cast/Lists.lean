import RowFilter.Proofs.Cast.Integers

/-!
# Lists are cast leaf by leaf

A list of JSON values, with lists nested in it to any depth, is cast to what its leaves are cast to
one by one, from left to right, and fails as the first leaf does that fails. The built-in casters
take a leaf for what it is alone. This holds also for the whole numbers of 64 bits that a list takes
as they are, because the text of such a number is cast to the number.
-/

namespace RowFilter.Casters

/-- A whole number of 64 bits is read back from its text. -/
theorem castText_int {zone : Civil.LocalZone} {n : Int} (h : Number.fitsInt64 n = true) :
    builtIn.castText zone .i64 (JsonNumber.int n).text = .ok (.i64 (Int64.ofInt n)) := by
  have hregistered : builtIn.isRegistered ScalarType.i64.kind = true := rfl
  have hread : Cast.toInt64 .i64 (Number.intText n) = .ok n :=
    Cast.toInt64_of_writes (Number.writes_intText n) h
  have htext : (JsonNumber.int n).text = Number.intText n := rfl
  simp [castText, cast, hregistered, Cast.toLiteral, htext, hread, bind, Except.bind]

/-- The built-in casters take a member of a list as they take a value alone. -/
theorem castLeaf_builtIn (zone : Civil.LocalZone) (type : ScalarType) (value : Json) :
    builtIn.castLeaf zone type value = builtIn.castValue zone type value := by
  unfold castLeaf
  split
  · split
    · next h => exact (castText_int h).symm
    · rfl
  · rfl

/-- **A list is cast as its leaves are**: to the literals of the leaves in order, or with the error
of the first leaf that has one. The whole numbers that a list for 64 bits takes as they are, are
what their texts are cast to. -/
theorem castList_by_leaves (zone : Civil.LocalZone) (type : ScalarType) (values : List Json) :
    (∀ ls, builtIn.castList zone type values = .ok ls ↔
      List.Forall₂ (fun leaf l => builtIn.castValue zone type leaf = .ok l)
        (Json.leavesOfItems values) ls) ∧
    (∀ e, builtIn.castList zone type values = .error e ↔
      ∃ before leaf after, Json.leavesOfItems values = before ++ leaf :: after ∧
        (∀ v ∈ before, ∃ l, builtIn.castValue zone type v = .ok l) ∧
        builtIn.castValue zone type leaf = .error e) ∧
    ∀ n, Number.fitsInt64 n = true →
      builtIn.castLeaf zone .i64 (.num (.int n)) = .ok (.i64 (Int64.ofInt n)) ∧
      builtIn.castText zone .i64 (JsonNumber.int n).text = .ok (.i64 (Int64.ofInt n)) := by
  have hcast : builtIn.castList zone type values =
      (Json.leavesOfItems values).mapM (builtIn.castValue zone type) := by
    rw [castList_eq_mapM]
    exact congrArg (fun f => (Json.leavesOfItems values).mapM f)
      (funext (castLeaf_builtIn zone type))
  refine ⟨fun ls => ?_, fun e => ?_, fun n hn => ⟨?_, castText_int hn⟩⟩
  · rw [hcast]
    exact mapM_eq_ok_iff
  · rw [hcast]
    exact mapM_eq_error_iff
  · rw [castLeaf_builtIn]
    exact castText_int hn

/-- In a list that is nested the first number that cannot be cast decides, and the greatest number
of 64 bits is taken for itself. -/
theorem castList_by_leaves_nested :
    let values : List Json := [.ofInt 1, .arr [.ofInt 2, .arr [.str "x"], .str "y"]]
    Json.leavesOfItems values = [.ofInt 1, .ofInt 2, .str "x", .str "y"] ∧
    builtIn.castList .utc .i64 values = .error (.invalidFormat "x" .i64) ∧
    Number.fitsInt64 9223372036854775807 = true ∧
    builtIn.castText .utc .i64 (JsonNumber.int 9223372036854775807).text =
      .ok (.i64 9223372036854775807) := by
  intro values
  obtain ⟨-, herror, hint⟩ := castList_by_leaves .utc .i64 values
  have hfits : Number.fitsInt64 9223372036854775807 = true := by decide
  refine ⟨rfl, ?_, hfits, (hint _ hfits).2⟩
  refine (herror _).2 ⟨[.ofInt 1, .ofInt 2], .str "x", [.str "y"], rfl, ?_, rfl⟩
  intro v hv
  rcases List.mem_pair.1 hv with rfl | rfl
  · exact ⟨_, castText_int (n := 1) rfl⟩
  · exact ⟨_, castText_int (n := 2) rfl⟩

end RowFilter.Casters
