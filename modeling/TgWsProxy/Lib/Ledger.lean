import Mathlib.Data.List.Nodup

/-!
# Items in places

Each item which was opened is in one place, and there once; a step puts in a
new item or moves some of them from one place to another.
-/

namespace Lib

section Ledger

variable {Place Item : Type*}

structure Filed (contents : Place → List Item) (opened : Item → Prop) :
    Prop where
  once : ∀ place, (contents place).Nodup
  apart : ∀ {item first second}, item ∈ contents first →
    item ∈ contents second → first = second
  whole : ∀ item, opened item ↔ ∃ place, item ∈ contents place

variable {contents after : Place → List Item} {opened openedAfter : Item → Prop}

theorem Filed.of_same (filed : Filed contents opened)
    (same : ∀ place, after place = contents place)
    (sameOpened : ∀ item, openedAfter item ↔ opened item) :
    Filed after openedAfter := by
  have equal : after = contents := funext same
  subst equal
  exact ⟨filed.once, filed.apart, fun item =>
    (sameOpened item).trans (filed.whole item)⟩

/-- Some items are moved from the front of one place to the end of another. -/
theorem Filed.move (filed : Filed contents opened) (source target : Place)
    (moved rest : List Item) (different : source ≠ target)
    (front : contents source = moved ++ rest)
    (atSource : after source = rest)
    (atTarget : after target = contents target ++ moved)
    (elsewhere : ∀ place, place ≠ source → place ≠ target →
      after place = contents place) : Filed after opened := by
  have mem_source {item : Item} :
      item ∈ contents source ↔ item ∈ moved ∨ item ∈ rest := by
    rw [front, List.mem_append]
  have nodup := filed.once source
  rw [front] at nodup
  have split := List.nodup_append.mp nodup
  -- An item of a place was there, or is one of the moved ones.
  have was {item : Item} {place : Place} (member : item ∈ after place) :
      (item ∈ contents place ∧ item ∉ moved) ∨
        (place = target ∧ item ∈ moved) := by
    by_cases isSource : place = source
    · subst isSource
      rw [atSource] at member
      refine .inl ⟨mem_source.mpr (.inr member), fun isMoved => ?_⟩
      exact split.2.2 item isMoved item member rfl
    · by_cases isTarget : place = target
      · subst isTarget
        rw [atTarget, List.mem_append] at member
        by_cases isMoved : item ∈ moved
        · exact .inr ⟨rfl, isMoved⟩
        · exact .inl ⟨member.resolve_right isMoved, isMoved⟩
      · rw [elsewhere place isSource isTarget] at member
        refine .inl ⟨member, fun isMoved => isSource ?_⟩
        exact filed.apart member (mem_source.mpr (.inl isMoved))
  constructor
  · intro place
    by_cases isSource : place = source
    · subst isSource
      rw [atSource]
      exact split.2.1
    · by_cases isTarget : place = target
      · subst isTarget
        rw [atTarget]
        refine List.nodup_append.mpr ⟨filed.once place, split.1, ?_⟩
        rintro item member _ isMoved rfl
        exact different (filed.apart (mem_source.mpr (.inl isMoved)) member)
      · rw [elsewhere place isSource isTarget]
        exact filed.once place
  · intro item first second inFirst inSecond
    rcases was inFirst with ⟨wasFirst, unmoved⟩ | ⟨rfl, isMoved⟩
    · rcases was inSecond with ⟨wasSecond, -⟩ | ⟨-, isMoved⟩
      · exact filed.apart wasFirst wasSecond
      · exact absurd isMoved unmoved
    · rcases was inSecond with ⟨-, unmoved⟩ | ⟨rfl, -⟩
      · exact absurd isMoved unmoved
      · rfl
  · intro item
    rw [filed.whole item]
    constructor
    · rintro ⟨place, member⟩
      by_cases isSource : place = source
      · subst isSource
        rcases mem_source.mp member with isMoved | stays
        · exact ⟨target, by rw [atTarget]; exact List.mem_append_right _ isMoved⟩
        · exact ⟨place, by rw [atSource]; exact stays⟩
      · by_cases isTarget : place = target
        · subst isTarget
          exact ⟨place, by rw [atTarget]; exact List.mem_append_left _ member⟩
        · exact ⟨place, by rw [elsewhere place isSource isTarget]; exact member⟩
    · rintro ⟨place, member⟩
      rcases was member with ⟨wasThere, -⟩ | ⟨-, isMoved⟩
      · exact ⟨place, wasThere⟩
      · exact ⟨source, mem_source.mpr (.inl isMoved)⟩

/-- A new item is put in at the end of a place. -/
theorem Filed.put (filed : Filed contents opened) (place : Place) (item : Item)
    (fresh : ¬ opened item) (atPlace : after place = contents place ++ [item])
    (elsewhere : ∀ other, other ≠ place → after other = contents other)
    (opens : ∀ other, openedAfter other ↔ opened other ∨ other = item) :
    Filed after openedAfter := by
  have nowhere (other : Place) : item ∉ contents other := fun member =>
    fresh ((filed.whole item).mpr ⟨other, member⟩)
  have was {other : Item} {there : Place} :
      other ∈ after there ↔ other ∈ contents there ∨
        (there = place ∧ other = item) := by
    by_cases isPlace : there = place
    · subst isPlace
      simp [atPlace]
    · simp [elsewhere there isPlace, isPlace]
  constructor
  · intro there
    by_cases isPlace : there = place
    · subst isPlace
      rw [atPlace]
      refine List.nodup_append.mpr
        ⟨filed.once there, List.nodup_singleton item, ?_⟩
      rintro other member _ isItem rfl
      rw [List.mem_singleton] at isItem
      exact nowhere there (isItem ▸ member)
    · rw [elsewhere there isPlace]
      exact filed.once there
  · intro other first second inFirst inSecond
    rcases was.mp inFirst with wasFirst | ⟨rfl, rfl⟩
    · rcases was.mp inSecond with wasSecond | ⟨rfl, rfl⟩
      · exact filed.apart wasFirst wasSecond
      · exact absurd wasFirst (nowhere first)
    · rcases was.mp inSecond with wasSecond | ⟨rfl, -⟩
      · exact absurd wasSecond (nowhere second)
      · rfl
  · intro other
    rw [opens, filed.whole other]
    constructor
    · rintro (⟨there, member⟩ | rfl)
      · exact ⟨there, was.mpr (.inl member)⟩
      · exact ⟨place, was.mpr (.inr ⟨rfl, rfl⟩)⟩
    · rintro ⟨there, member⟩
      rcases was.mp member with wasThere | ⟨-, isItem⟩
      · exact .inl ⟨there, wasThere⟩
      · exact .inr isItem

end Ledger

end Lib
