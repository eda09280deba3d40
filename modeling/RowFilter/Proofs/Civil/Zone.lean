import RowFilter.Proofs.Civil.Recognise

/-!
# Readings in a zone

A zone takes one of its distances off a reading to place it, and adds one to an instant to read it.
Both lead to the same day or to one next to it. So only a reading on the first or the last day that
can be read may have no instant, and only an instant on these days no reading.
-/

namespace RowFilter.Civil

namespace Zone

variable {reading : DateTime} {s offset : Int} {since : Option Int} {changes : List (Int × Int)}

theorem offsetAfter_mem (instant offset : Int) (changes : List (Int × Int)) :
    offsetAfter instant offset changes ∈ offset :: changes.map Prod.snd := by
  induction changes generalizing offset with
  | nil => exact List.mem_cons_self
  | cons change rest ih =>
    rw [offsetAfter]
    split
    · exact List.mem_cons_of_mem _ (ih change.2)
    · exact List.mem_cons_self

theorem exists_of_earliestFrom {i : Int} (h : earliestFrom s since offset changes = some i) :
    ∃ taken ∈ offset :: changes.map Prod.snd, s - taken = i := by
  induction changes generalizing since offset with
  | nil =>
    obtain ⟨-, heq⟩ := Option.ite_none_right_eq_some.1 h
    exact ⟨offset, List.mem_cons_self, Option.some.inj heq⟩
  | cons change rest ih =>
    rw [earliestFrom] at h
    split at h
    · exact ⟨offset, List.mem_cons_self, Option.some.inj h⟩
    · obtain ⟨taken, hmem, heq⟩ := ih h
      exact ⟨taken, List.mem_cons_of_mem _ hmem, heq⟩

theorem ofChanges?_eq_some {name : String} {initial : Int}
    (h : ∀ offset ∈ initial :: changes.map Prod.snd, offset.natAbs < 86400) :
    ofChanges? name initial changes = some ⟨name, initial, changes, h⟩ := dif_pos h

theorem natAbs_offsetAt_lt (z : Zone) (instant : Int) : (z.offsetAt instant).natAbs < 86400 :=
  z.small _ (offsetAfter_mem instant z.initial z.changes)

/-- A reading is placed by taking a distance of less than a day off it. -/
theorem exists_toUtc?_eq (z : Zone) (reading : DateTime) :
    ∃ taken : Int, taken.natAbs < 86400 ∧
      z.toUtc? reading = (reading.shift? (-taken)).map Instant.mk := by
  have hplaced : ∃ taken : Int, taken.natAbs < 86400 ∧
      (z.earliest? reading.seconds).getD (reading.seconds - z.offsetAt reading.seconds) -
        reading.seconds = -taken := by
    cases hearliest : z.earliest? reading.seconds with
    | none => exact ⟨_, z.natAbs_offsetAt_lt reading.seconds, by rw [Option.getD_none]; omega⟩
    | some i =>
      obtain ⟨taken, hmem, rfl⟩ := exists_of_earliestFrom hearliest
      exact ⟨taken, z.small taken hmem, by rw [Option.getD_some]; omega⟩
  obtain ⟨taken, hday, heq⟩ := hplaced
  exact ⟨taken, hday, by rw [toUtc?, heq]⟩

/-- Whether the clock of a zone always shows UTC. -/
def IsUtc (z : Zone) : Prop := z.initial = 0 ∧ z.changes = []

theorem IsUtc.toUtc? {z : Zone} (h : z.IsUtc) (hrange : reading.date.inRange = true) :
    z.toUtc? reading = some ⟨reading⟩ := by
  obtain ⟨hinitial, hchanges⟩ := h
  have hearliest : z.earliest? reading.seconds = some reading.seconds := by
    simp [earliest?, hinitial, hchanges, earliestFrom]
  simp [Zone.toUtc?, hearliest, DateTime.shift?_zero hrange]

end Zone

namespace LocalZone

variable {reading : DateTime} {i : Instant}

/-- A reading that is neither on the first day nor on the last has an instant. -/
theorem exists_toUtc? (z : LocalZone) (h : reading.date.IsInner) :
    ∃ i, z.toUtc? reading = some i := by
  obtain ⟨taken, hday, heq⟩ := z.zone.exists_toUtc?_eq reading
  have hshift : reading.shift? (-taken) = some (reading.shift (-taken)) :=
    DateTime.shift?_of_isInner h (by rwa [Int.natAbs_neg])
  exact ⟨_, heq.trans (congrArg (Option.map Instant.mk) hshift)⟩

/-- An instant that is neither on the first day nor on the last has a reading. -/
theorem exists_fromUtc? (z : LocalZone) (h : i.utc.date.IsInner) :
    ∃ reading, z.fromUtc? i = some reading :=
  ⟨_, DateTime.shift?_of_isInner h (z.zone.natAbs_offsetAt_lt _)⟩

end LocalZone

end RowFilter.Civil
