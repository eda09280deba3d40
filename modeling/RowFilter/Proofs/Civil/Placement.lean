import Mathlib.Data.List.Chain
import RowFilter.Proofs.Civil.Notation

/-!
# Placing readings on the time line

A local reading is placed by taking a distance from UTC off it: the one before a change of the zone
or the one after it. Which of the two is decided by the reading alone. At the turn of the change,
the placement goes over from one distance to the other. Where clocks are put back, the turn is the
end of the readings that occur twice. Where they are put forward, it lies among the skipped
readings, or at an end of them, and there the placement jumps back: a reading in front of the turn
is placed behind readings that follow it. That much holds of every zone whose changes lie so far
apart that no reading is concerned by two of them.
-/

namespace RowFilter.Civil

variable {a b reading : DateTime} {s u t offset next : Int} {m : Nat} {since : Option Int}
  {changes : List (Int × Int)}

/-! ## Readings as numbers -/

/-- A reading as one number. A leap second has a fraction of its own, so a second counts twice its
nanoseconds. -/
def DateTime.ticks (dt : DateTime) : Int := dt.seconds * 2000000000 + dt.time.nanos.val

namespace DateTime

theorem ticks_shift (dt : DateTime) (distance : Int) :
    (dt.shift distance).ticks = dt.ticks + distance * 2000000000 := by
  rw [ticks, shift, seconds_ofSeconds, ticks, Int.add_mul]
  exact Int.add_right_comm _ _ _

theorem order_eq_lt : a.order b = .lt ↔ a.ticks < b.ticks := by
  have ha := a.time.nanos.isLt
  have hb := b.time.nanos.isLt
  have ha' := a.time.second.isLt
  have hb' := b.time.second.isLt
  simp only [order, Date.order, Time.order, Ordering.then_eq_lt, Int.compare_eq_lt,
    Nat.compare_eq_lt, Int.compare_eq_eq, Nat.compare_eq_eq, ticks, seconds]
  omega

theorem order_ne_gt : a.order b ≠ .gt ↔ a.ticks ≤ b.ticks := by
  have ha := a.time.nanos.isLt
  have hb := b.time.nanos.isLt
  have ha' := a.time.second.isLt
  have hb' := b.time.second.isLt
  simp only [order, Date.order, Time.order, ne_eq, Ordering.then_eq_gt, Int.compare_eq_gt,
    Nat.compare_eq_gt, Int.compare_eq_eq, Nat.compare_eq_eq, ticks, seconds]
  omega

theorem seconds_le_of_ticks_le (h : a.ticks ≤ b.ticks) : a.seconds ≤ b.seconds := by
  have ha := a.time.nanos.isLt
  have hb := b.time.nanos.isLt
  simp only [ticks] at h
  omega

end DateTime

/-! ## Transitions -/

/-- A change of a zone with the distances from UTC on both sides of it. -/
structure Transition where
  instant : Int
  before : Int
  after : Int
  deriving DecidableEq

namespace Transition

variable {g g' : Transition} {gs : List Transition}

/-- Whether a change puts the clock forward over a reading. -/
def Skips (g : Transition) (reading : DateTime) : Prop :=
  g.instant + g.before ≤ reading.seconds ∧ reading.seconds < g.instant + g.after

/-- The first reading that is placed by the distance after the change. The skipped readings are
taken as if they were in UTC, and so compared with the instant of the change. -/
def turn (g : Transition) : Int :=
  max (g.instant + g.before) (min g.instant (g.instant + g.after))

/-- Whether the turn of a change falls between two readings that are less apart than the clock is
put forward. -/
def Inverts (g : Transition) (a b : DateTime) : Prop :=
  a.seconds < g.turn ∧ g.turn ≤ b.seconds ∧ b.order (a.shift (g.after - g.before)) = .lt

theorem inverts_iff : g.Inverts a b ↔ a.seconds < g.turn ∧ g.turn ≤ b.seconds ∧
    b.ticks < a.ticks + (g.after - g.before) * 2000000000 := by
  rw [Inverts, DateTime.order_eq_lt, DateTime.ticks_shift]

/-- Whether both distances are below a bound. -/
def IsSmall (m : Nat) (g : Transition) : Prop := g.before.natAbs < m ∧ g.after.natAbs < m

instance (m : Nat) (g : Transition) : Decidable (g.IsSmall m) :=
  inferInstanceAs (Decidable (_ ∧ _))

theorem not_inverts_of_far (hsmall : g.IsSmall m) (hfar : a.seconds + 2 * m ≤ b.seconds) :
    ¬ g.Inverts a b := by
  intro h
  have hnear := (inverts_iff.1 h).2.2
  have hanos := a.time.nanos.isLt
  simp only [IsSmall, DateTime.ticks] at hsmall hnear
  omega

theorem turn_bounds (hsmall : g.IsSmall m) :
    g.instant - m < g.turn ∧ g.turn < g.instant + m := by
  simp only [IsSmall, turn] at *
  omega

/-- One of two readings that are placed in the wrong order is skipped. -/
theorem Inverts.skips (h : g.Inverts a b) : g.Skips a ∨ g.Skips b := by
  obtain ⟨ha, hb, hnear⟩ := inverts_iff.1 h
  have hanos := a.time.nanos.isLt
  have hbnanos := b.time.nanos.isLt
  simp only [turn, DateTime.ticks, Skips] at *
  omega

/-- Whether a change comes four times a bound before another, or earlier. -/
def IsLongBefore (m : Nat) (g g' : Transition) : Prop := g.instant + 4 * m ≤ g'.instant

instance (m : Nat) : DecidableRel (IsLongBefore m) := fun g g' =>
  inferInstanceAs (Decidable (g.instant + 4 * m ≤ g'.instant))

instance : Trans (IsLongBefore m) (IsLongBefore m) (IsLongBefore m) where
  trans {g g' g''} h h' := by
    unfold IsLongBefore at *
    omega

/-- Whether no two changes meet in the readings that they concern, for a bound on the distances. -/
structure AreSpaced (m : Nat) (gs : List Transition) : Prop where
  small : ∀ g ∈ gs, g.IsSmall m
  spaced : gs.Pairwise (IsLongBefore m)

/-- The changes of a table that begins with a distance. -/
def ofChanges : Int → List (Int × Int) → List Transition
  | _, [] => []
  | offset, (instant, next) :: rest => ⟨instant, offset, next⟩ :: ofChanges next rest

theorem AreSpaced.of_cons (h : AreSpaced m (ofChanges offset ((t, next) :: changes))) :
    offset.natAbs < m ∧ next.natAbs < m ∧
      (∀ g ∈ ofChanges next changes, t + 4 * m ≤ g.instant ∧ g.IsSmall m) ∧
      AreSpaced m (ofChanges next changes) := by
  obtain ⟨⟨hbefore, hafter⟩, hsmall⟩ := List.forall_mem_cons.1 h.small
  obtain ⟨hlater, hspaced⟩ := List.pairwise_cons.1 h.spaced
  exact ⟨hbefore, hafter, fun g hg => ⟨hlater g hg, hsmall g hg⟩, hsmall, hspaced⟩

/-- The distance after the last of the changes that have come, where a change has come from a
number on. -/
def distanceBy (start : Transition → Int) (s : Int) : Int → List Transition → Int
  | offset, [] => offset
  | offset, g :: gs => if start g ≤ s then distanceBy start s g.after gs else offset

variable {start : Transition → Int}

theorem distanceBy_of_early (h : ∀ g ∈ gs, s < start g) :
    distanceBy start s offset gs = offset := by
  cases gs with
  | nil => rfl
  | cons g gs => exact if_neg (Int.not_le.2 (h g List.mem_cons_self))

theorem natAbs_distanceBy_lt (hoffset : offset.natAbs < m) (h : ∀ g ∈ gs, g.IsSmall m) :
    (distanceBy start s offset gs).natAbs < m := by
  induction gs generalizing offset with
  | nil => exact hoffset
  | cons g gs ih =>
    obtain ⟨hsmall, hrest⟩ := List.forall_mem_cons.1 h
    rw [distanceBy]
    split
    · exact ih hsmall.2 hrest
    · exact hoffset

theorem offsetAfter_eq (u offset : Int) (changes : List (Int × Int)) :
    Zone.offsetAfter u offset changes = distanceBy instant u offset (ofChanges offset changes) := by
  induction changes generalizing offset with
  | nil => rfl
  | cons change rest ih => rw [Zone.offsetAfter, ih, ofChanges, distanceBy]

/-- A clock that has not come to a change never shows the readings behind it, and one that has
come to it none in front of it. -/
theorem not_skips_of_shown (hspaced : AreSpaced m (ofChanges offset changes))
    (hreading : reading.seconds = u + distanceBy instant u offset (ofChanges offset changes)) :
    ∀ g ∈ ofChanges offset changes, ¬ g.Skips reading := by
  induction changes generalizing offset with
  | nil => simp [ofChanges]
  | cons change rest ih =>
    obtain ⟨t, next⟩ := change
    obtain ⟨hbefore, hafter, hlater, hrest⟩ := hspaced.of_cons
    rw [ofChanges, distanceBy] at hreading
    rw [ofChanges, List.forall_mem_cons]
    dsimp only at hreading
    by_cases hreached : t ≤ u
    · rw [if_pos hreached] at hreading
      refine ⟨fun hskips => ?_, ih hrest hreading⟩
      have hshort : reading.seconds < t + next := hskips.2
      by_cases hlast : ∃ g ∈ ofChanges next rest, g.instant ≤ u
      · obtain ⟨g, hg, hcome⟩ := hlast
        have hinstant := (hlater g hg).1
        have hsize : (distanceBy instant u next (ofChanges next rest)).natAbs < m :=
          natAbs_distanceBy_lt hafter fun g' hg' => (hlater g' hg').2
        omega
      · have hdistance : distanceBy instant u next (ofChanges next rest) = next :=
          distanceBy_of_early fun g hg => Int.not_le.1 fun hcome => hlast ⟨g, hg, hcome⟩
        omega
    · rw [if_neg hreached] at hreading
      refine ⟨fun hskips => ?_, fun g hg hskips => ?_⟩
      · have hshort : t + offset ≤ reading.seconds := hskips.1
        omega
      · obtain ⟨hinstant, hsmall, -⟩ := hlater g hg
        have hshort := hskips.1
        omega

/-- Readings with the turn of a change between them are placed in order if that change does not
invert them. Where the second one has come to a later turn too, they are far apart, and no change
does. -/
theorem placed_iff_of_turn_between (hsmall : g.IsSmall m) (ha : a.seconds < g.turn)
    (hb : g.turn ≤ b.seconds) (hlater : ∀ g' ∈ gs, g.turn + 2 * m < g'.turn ∧ g'.IsSmall m) :
    a.ticks - g.before * 2000000000 ≤
        b.ticks - distanceBy turn b.seconds g.after gs * 2000000000 ↔
      ∀ g' ∈ g :: gs, ¬ g'.Inverts a b := by
  rw [List.forall_mem_cons]
  by_cases hlast : ∃ g' ∈ gs, g'.turn ≤ b.seconds
  · obtain ⟨g', hg', hcome⟩ := hlast
    have hfar : a.seconds + 2 * m ≤ b.seconds := by
      have := (hlater g' hg').1
      omega
    have hsize : (distanceBy turn b.seconds g.after gs).natAbs < m :=
      natAbs_distanceBy_lt hsmall.2 fun g' hg' => (hlater g' hg').2
    refine iff_of_true ?_ ⟨not_inverts_of_far hsmall hfar, fun g' hg' =>
      not_inverts_of_far (hlater g' hg').2 hfar⟩
    have hanos := a.time.nanos.isLt
    have hbefore := hsmall.1
    simp only [DateTime.ticks]
    omega
  · have hearly (g' : Transition) (hg' : g' ∈ gs) : b.seconds < g'.turn :=
      Int.not_le.1 fun hcome => hlast ⟨g', hg', hcome⟩
    rw [distanceBy_of_early hearly, inverts_iff]
    constructor
    · intro hplaced
      refine ⟨fun hinverts => ?_, fun g' hg' hinverts => ?_⟩
      · have hnear := hinverts.2.2
        omega
      · exact absurd hinverts.2.1 (Int.not_le.2 (hearly g' hg'))
    · intro hkept
      have hapart : ¬ b.ticks < a.ticks + (g.after - g.before) * 2000000000 :=
        fun hnear => hkept.1 ⟨ha, hb, hnear⟩
      omega

/-- Two readings in order are placed in order if no change inverts them, and otherwise are not. -/
theorem placed_iff (hspaced : AreSpaced m (ofChanges offset changes)) (h : a.ticks ≤ b.ticks) :
    a.ticks - distanceBy turn a.seconds offset (ofChanges offset changes) * 2000000000 ≤
        b.ticks - distanceBy turn b.seconds offset (ofChanges offset changes) * 2000000000 ↔
      ∀ g ∈ ofChanges offset changes, ¬ g.Inverts a b := by
  have hseconds := DateTime.seconds_le_of_ticks_le h
  induction changes generalizing offset with
  | nil =>
    simp only [ofChanges, distanceBy, List.not_mem_nil, false_implies, implies_true, iff_true]
    omega
  | cons change rest ih =>
    obtain ⟨t, next⟩ := change
    obtain ⟨hbefore, hafter, hlater, hrest⟩ := hspaced.of_cons
    have hturn : turn ⟨t, offset, next⟩ < t + m := (turn_bounds ⟨hbefore, hafter⟩).2
    have hlaterturn (g : Transition) (hg : g ∈ ofChanges next rest) :
        turn ⟨t, offset, next⟩ + 2 * m < g.turn ∧ g.IsSmall m := by
      obtain ⟨hinstant, hsmall⟩ := hlater g hg
      have := (turn_bounds hsmall).1
      exact ⟨by omega, hsmall⟩
    rw [ofChanges, distanceBy, distanceBy]
    rcases Int.lt_or_le b.seconds (turn ⟨t, offset, next⟩) with hb | hb
    · -- neither reading has come to the turn
      rw [if_neg (Int.not_le.2 hb), if_neg (by omega)]
      refine iff_of_true (by omega) (List.forall_mem_cons.2 ⟨fun hinverts => ?_, ?_⟩)
      · exact absurd hinverts.2.1 (Int.not_le.2 hb)
      · intro g hg hinverts
        have := (hlaterturn g hg).1
        have := hinverts.2.1
        omega
    rcases Int.lt_or_le a.seconds (turn ⟨t, offset, next⟩) with ha | ha
    · rw [if_neg (Int.not_le.2 ha), if_pos hb]
      exact placed_iff_of_turn_between ⟨hbefore, hafter⟩ ha hb hlaterturn
    · -- both have passed it
      rw [if_pos ha, if_pos hb, List.forall_mem_cons]
      refine (ih hrest).trans ?_
      exact ⟨fun hrest => ⟨fun hinverts => absurd hinverts.1 (Int.not_lt.2 ha), hrest⟩, And.right⟩

end Transition

namespace Zone

open Transition

/-- The changes of a zone. -/
def transitions (z : Zone) : List Transition := ofChanges z.initial z.changes

/-- A reading that the clock shows before the next change is found there. -/
theorem earliestFrom_of_early (hsince : since.all (· ≤ s - offset) = true)
    (h : ∀ g ∈ ofChanges offset changes, s - offset < g.instant) :
    earliestFrom s since offset changes = some (s - offset) := by
  cases changes with
  | nil => exact if_pos hsince
  | cons change rest => exact if_pos ⟨hsince, h _ List.mem_cons_self⟩

/-- A reading that the clock has passed at a change is not found at a later one. -/
theorem earliestFrom_eq_none (hpassed : s - offset < t)
    (hlate : ∀ g ∈ ofChanges offset changes, s + m ≤ g.instant ∧ g.IsSmall m) :
    earliestFrom s (some t) offset changes = none := by
  induction changes generalizing offset t with
  | nil => exact if_neg (by simpa using hpassed)
  | cons change rest ih =>
    obtain ⟨instant, next⟩ := change
    obtain ⟨⟨hinstant, -, hnext⟩, hrest⟩ := List.forall_mem_cons.1 hlate
    dsimp only at hinstant hnext
    rw [earliestFrom, if_neg (by simpa using fun h => absurd h (Int.not_le.2 hpassed))]
    exact ih (by omega) hrest

/-- The search for a reading that the clock has reached either finds it placed by the turns, or
passes over it, and then the distance at the reading taken for UTC is that by the turns. -/
theorem earliestFrom_eq (hspaced : AreSpaced m (ofChanges offset changes))
    (hsince : since.all (· ≤ s - offset) = true) :
    earliestFrom s since offset changes =
        some (s - distanceBy turn s offset (ofChanges offset changes)) ∨
      earliestFrom s since offset changes = none ∧
        offsetAfter s offset changes = distanceBy turn s offset (ofChanges offset changes) := by
  induction changes generalizing offset since with
  | nil => exact .inl (if_pos hsince)
  | cons change rest ih =>
    obtain ⟨t, next⟩ := change
    obtain ⟨hbefore, hafter, hlater, hrest⟩ := hspaced.of_cons
    have hturn : Transition.turn ⟨t, offset, next⟩ = max (t + offset) (min t (t + next)) := rfl
    rw [earliestFrom, ofChanges, distanceBy, offsetAfter, hturn]
    by_cases hshown : s - offset < t
    · have hearly : ¬ max (t + offset) (min t (t + next)) ≤ s := by omega
      rw [if_pos ⟨hsince, hshown⟩, if_neg hearly]
      exact .inl rfl
    rw [if_neg fun h => hshown h.2]
    have hdistance (hs : s < t + m) : distanceBy turn s next (ofChanges next rest) = next := by
      refine distanceBy_of_early fun g hg => ?_
      obtain ⟨hinstant, hsmall⟩ := hlater g hg
      have := (turn_bounds hsmall).1
      omega
    by_cases hreached : t ≤ s - next
    · have hsince : (some t).all (· ≤ s - next) = true := by simpa using hreached
      have hlate : max (t + offset) (min t (t + next)) ≤ s := by omega
      rw [if_pos hlate]
      by_cases hbehind : t ≤ s
      · rw [if_pos hbehind]
        exact ih hrest hsince
      · -- found right behind the change, as no later one is near
        rw [hdistance (by omega)]
        refine .inl (earliestFrom_of_early hsince fun g hg => ?_)
        have := (hlater g hg).1
        omega
    · -- the clock is put forward over the reading
      have hnone : earliestFrom s (some t) next rest = none := by
        refine earliestFrom_eq_none (Int.not_le.1 hreached) fun g hg => ⟨?_, (hlater g hg).2⟩
        have := (hlater g hg).1
        omega
      have hoffset : offsetAfter s next rest = next := by
        rw [offsetAfter_eq]
        refine distanceBy_of_early fun g hg => ?_
        have := (hlater g hg).1
        omega
      have hskipped : max (t + offset) (min t (t + next)) ≤ s ↔ t ≤ s := by omega
      refine .inr ⟨hnone, ?_⟩
      rw [hdistance (by omega), hoffset]
      simp only [hskipped]

/-- The distance that is taken off a reading. -/
def distance (z : Zone) (reading : DateTime) : Int :=
  distanceBy turn reading.seconds z.initial z.transitions

/-- Whether the changes of a zone lie apart: each comes at least four times as long before the next
as the clock stands away from UTC on either side of a change. -/
def IsSpaced (z : Zone) : Prop := ∃ m, AreSpaced m z.transitions

theorem toUtc?_eq {z : Zone} (h : z.IsSpaced) (reading : DateTime) :
    z.toUtc? reading = (reading.shift? (-z.distance reading)).map Instant.mk := by
  obtain ⟨m, hspaced⟩ := h
  have hplaced : (z.earliest? reading.seconds).getD (reading.seconds - z.offsetAt reading.seconds) =
      reading.seconds - z.distance reading := by
    have hsince : (none : Option Int).all (· ≤ reading.seconds - z.initial) = true := rfl
    rcases earliestFrom_eq hspaced hsince with hfound | ⟨hnone, hoffset⟩
    · rw [earliest?, hfound]
      rfl
    · rw [earliest?, hnone, offsetAt, hoffset]
      rfl
  have hshift : reading.seconds - z.distance reading - reading.seconds = -z.distance reading := by
    omega
  rw [toUtc?, hplaced, hshift]

/-- Two readings in order, of a zone whose changes lie apart, are placed in the wrong order exactly
if a change inverts them. -/
theorem toUtc?_order_iff {z : Zone} {i j : Instant} (hspaced : z.IsSpaced) (h : a.order b ≠ .gt)
    (ha : z.toUtc? a = some i) (hb : z.toUtc? b = some j) :
    i.order j ≠ .gt ↔ ∀ g ∈ z.transitions, ¬ g.Inverts a b := by
  rw [toUtc?_eq hspaced, Option.map_eq_some_iff] at ha hb
  obtain ⟨first, ha, rfl⟩ := ha
  obtain ⟨last, hb, rfl⟩ := hb
  obtain ⟨rfl, -⟩ := DateTime.shift?_eq_some.1 ha
  obtain ⟨rfl, -⟩ := DateTime.shift?_eq_some.1 hb
  obtain ⟨m, hspaced⟩ := hspaced
  rw [Instant.order, DateTime.order_ne_gt, DateTime.ticks_shift, DateTime.ticks_shift, Int.neg_mul,
    Int.neg_mul]
  exact placed_iff hspaced (DateTime.order_ne_gt.1 h)

end Zone

namespace LocalZone

open Transition

/-- Whether the clock of a zone ever shows a reading. -/
def Shows (z : LocalZone) (reading : DateTime) : Prop := ∃ i, z.fromUtc? i = some reading

theorem not_skips {z : LocalZone} (hspaced : z.zone.IsSpaced)
    (h : z.Shows reading) : ∀ g ∈ z.zone.transitions, ¬ g.Skips reading := by
  obtain ⟨i, hi⟩ := h
  obtain ⟨rfl, -⟩ := DateTime.shift?_eq_some.1 hi
  obtain ⟨m, hspaced⟩ := hspaced
  refine not_skips_of_shown hspaced (u := i.utc.seconds) ?_
  rw [← offsetAfter_eq, DateTime.shift, DateTime.seconds_ofSeconds]
  rfl

/-- **Readings are placed in order, unless a skipped one meets the turn of its change.** In a zone
whose changes lie apart, two readings in order that have instants are placed in order exactly if no
change of the zone inverts them; so they are if the clock of the zone shows both, be it once or
twice. Texts that say the readings are cast to these instants, so that the bounds of a range are
inverted in the same cases and in no others. And a reading has an instant unless it is on the first
or the last day of the calendar. -/
theorem toUtc_in_order_iff {z : LocalZone} (hspaced : z.zone.IsSpaced) (h : a.order b ≠ .gt) :
    (∀ i j, z.toUtc? a = some i → z.toUtc? b = some j →
      (i.order j ≠ .gt ↔ ∀ g ∈ z.zone.transitions, ¬ g.Inverts a b) ∧
      (z.Shows a → z.Shows b → i.order j ≠ .gt) ∧
      ∀ first last : String, SaysReading first a → SaysReading last b →
        Cast.toLiteral z .instant first = .ok (some (.instant i)) ∧
        Cast.toLiteral z .instant last = .ok (some (.instant j))) ∧
    ∀ reading : DateTime, reading.date.IsInner → ∃ i, z.toUtc? reading = some i := by
  refine ⟨fun i j ha hb => ?_, fun reading hinner => z.exists_toUtc? hinner⟩
  have hiff : i.order j ≠ .gt ↔ ∀ g ∈ z.zone.transitions, ¬ g.Inverts a b :=
    Zone.toUtc?_order_iff hspaced h ha hb
  have hcast {text : String} {reading : DateTime} {placed : Instant}
      (htext : SaysReading text reading) (hplaced : z.toUtc? reading = some placed) :
      Cast.toLiteral z .instant text = .ok (some (.instant placed)) := by
    have hgives : Cast.Gives z .instant text _ := Cast.gives_of_saysReading htext
    rwa [hplaced] at hgives
  refine ⟨hiff, fun hshowsa hshowsb => hiff.2 fun g hg hinverts => ?_,
    fun first last hfirst hlast => ⟨hcast hfirst ha, hcast hlast hb⟩⟩
  rcases hinverts.skips with hskips | hskips
  · exact not_skips hspaced hshowsa g hg hskips
  · exact not_skips hspaced hshowsb g hg hskips

/-- The changes of Paris lie apart: its clock is never three hours away from UTC, and no change
comes within half a day of another. -/
theorem exists_paris : ∃ z, named? "Europe/Paris" = some z ∧ z.zone.IsSpaced ∧
    z.zone.initial = 561 ∧ z.zone.changes = ZoneTable.paris := by
  have hday : ∀ offset ∈ (561 : Int) :: ZoneTable.paris.map Prod.snd, offset.natAbs < 86400 := by
    decide +kernel
  have hsmall : ∀ g ∈ ofChanges 561 ZoneTable.paris, g.IsSmall 10800 := by decide +kernel
  have hchain : (ofChanges 561 ZoneTable.paris).IsChain (IsLongBefore 10800) := by decide +kernel
  have hentry : ZoneTable.zones.lookup "Europe/Paris" = some (561, ZoneTable.paris) := by
    decide +kernel
  have hnamed : named? "Europe/Paris" =
      some (.named ⟨"Europe/Paris", 561, ZoneTable.paris, hday⟩) := by
    simp only [named?, ZoneBook.standard, hentry, Option.bind_some, Zone.ofChanges?_eq_some hday,
      Option.map_some]
  exact ⟨_, hnamed, ⟨10800, hsmall, List.isChain_iff_pairwise.1 hchain⟩, rfl, rfl⟩

/-- A quarter of an hour on both sides of the change in Paris. -/
theorem toUtc_in_order_iff_paris :
    ∃ z, named? "Europe/Paris" = some z ∧ z.zone.IsSpaced ∧
      (DateTime.atSecond 1711849500).order (.atSecond 1711854900) ≠ .gt ∧
      ∃ i j, z.toUtc? (.atSecond 1711849500) = some i ∧ z.toUtc? (.atSecond 1711854900) = some j ∧
        i.order j ≠ .gt := by
  obtain ⟨z, hnamed, hspaced, hinitial, hchanges⟩ := exists_paris
  have horder : (DateTime.atSecond 1711849500).order (.atSecond 1711854900) ≠ .gt := by decide
  obtain ⟨hplaced, hinner⟩ := toUtc_in_order_iff hspaced horder
  obtain ⟨i, hi⟩ := hinner (.atSecond 1711849500) (by constructor <;> decide +kernel)
  obtain ⟨j, hj⟩ := hinner (.atSecond 1711854900) (by constructor <;> decide +kernel)
  refine ⟨z, hnamed, hspaced, horder, i, j, hi, hj, (hplaced i j hi hj).2.1 ?_ ?_⟩
  · refine ⟨.atSecond 1711845900, ?_⟩
    rw [fromUtc?, Zone.fromUtc?, Zone.offsetAt, hinitial, hchanges]
    decide +kernel
  · refine ⟨.atSecond 1711847700, ?_⟩
    rw [fromUtc?, Zone.fromUtc?, Zone.offsetAt, hinitial, hchanges]
    decide +kernel

/-- The half hour that is skipped in Paris is placed before the quarter of an hour in front of
it. -/
theorem toUtc_not_in_order_paris :
    ∃ z, named? "Europe/Paris" = some z ∧
      (DateTime.atSecond 1711849500).order (.atSecond 1711852200) = .lt ∧
      SaysReading "2024-03-31T01:45:00" (.atSecond 1711849500) ∧
      SaysReading "2024-03-31T02:30:00" (.atSecond 1711852200) ∧
      z.toUtc? (.atSecond 1711849500) = some (.atSecond 1711845900) ∧
      z.toUtc? (.atSecond 1711852200) = some (.atSecond 1711845000) ∧
      (Instant.atSecond 1711845900).order (.atSecond 1711845000) = .gt := by
  have hfirst : (DateTime.atSecond 1711849500).chars 'T' = "2024-03-31T01:45:00".toList := by
    decide +kernel
  have hlast : (DateTime.atSecond 1711852200).chars 'T' = "2024-03-31T02:30:00".toList := by
    decide +kernel
  obtain ⟨z, hnamed, hspaced, hinitial, hchanges⟩ := exists_paris
  refine ⟨z, hnamed, by decide, .wallClock ?_, .wallClock ?_, ?_, ?_, by decide⟩
  · rw [← hfirst]
    exact says_dateTime (DateTime.isPlain_atSecond (by decide))
  · rw [← hlast]
    exact says_dateTime (DateTime.isPlain_atSecond (by decide))
  · rw [toUtc?, Zone.toUtc?_eq hspaced, Zone.distance, Zone.transitions, hinitial, hchanges]
    decide +kernel
  · rw [toUtc?, Zone.toUtc?_eq hspaced, Zone.distance, Zone.transitions, hinitial, hchanges]
    decide +kernel

end LocalZone

end RowFilter.Civil
