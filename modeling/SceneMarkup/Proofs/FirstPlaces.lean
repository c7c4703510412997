import Mathlib.Data.List.Pairwise

namespace SceneMarkup

/-!
# First places

Where the same thing is met more than once, only its first place counts.  That is kept
up by hand in several places: an item is put in front, and what equals it is taken out
behind it.  All of them come to the list without its duplicates, whose laws are here.
Equality need not be reflexive: what does not even equal itself keeps all its places.

An argument about first places goes from an item to what it leaves of the items behind
it, which is shorter than the list but no part of it.  The same holds where items are
sorted into groups.
-/

variable {Item : Type}

/-- What holds of no items, and of items if it holds of those that the first one leaves,
holds of all items. -/
theorem leaving_induction (leaves : Item -> Item -> Bool) {motive : List Item -> Prop}
    (nil : motive [])
    (cons : forall item rest, motive (rest.filter (leaves item)) -> motive (item :: rest)) :
    forall items, motive items
  | [] => nil
  | item :: rest => cons item rest (leaving_induction leaves nil cons _)
termination_by items => items.length
decreasing_by exact Nat.lt_succ_of_le (List.length_filter_le _ _)

section

variable [BEq Item]

theorem eraseDups_sublist (items : List Item) : items.eraseDups.Sublist items := by
  induction items using leaving_induction fun (item other : Item) => !other == item with
  | nil => exact .slnil
  | cons item rest ih =>
      rw [List.eraseDups_cons]
      exact (ih.trans List.filter_sublist).cons_cons item

/-- What is left is different from everything in front of it. -/
theorem pairwise_eraseDups (items : List Item) :
    items.eraseDups.Pairwise fun first second => (second == first) = false := by
  induction items using leaving_induction fun (item other : Item) => !other == item with
  | nil => exact .nil
  | cons item rest ih =>
      rw [List.eraseDups_cons]
      refine .cons ?_ ih
      intro other later
      have kept := (List.mem_filter.mp ((eraseDups_sublist _).subset later)).2
      exact (Bool.not_eq_true' _).mp kept

end

variable [BEq Item] [LawfulBEq Item]

/-- Of a selection, first places are those of the whole that are selected. -/
theorem eraseDups_filter (keep : Item -> Bool) (items : List Item) :
    (items.filter keep).eraseDups = items.eraseDups.filter keep := by
  induction items using leaving_induction fun (item other : Item) => !other == item with
  | nil => rfl
  | cons item rest ih =>
      rw [List.filter_filter] at ih
      rw [List.eraseDups_cons]
      by_cases kept : keep item = true
      · rw [List.filter_cons_of_pos kept, List.filter_cons_of_pos kept, List.eraseDups_cons,
          List.filter_filter, ← ih]
        simp only [Bool.and_comm]
      · rw [List.filter_cons_of_neg kept, List.filter_cons_of_neg kept, ← ih]
        congr 1
        apply List.filter_congr
        intro other _
        by_cases same : other = item
        · rw [same, Bool.eq_false_iff.mpr kept, Bool.false_and]
        · rw [beq_false_of_ne same, Bool.not_false, Bool.and_true]

variable [DecidableEq Item]

/-- First places are what is left when an item is put in front and what equals it is
taken out behind it. -/
theorem eraseDups_cons_eq (item : Item) (items : List Item) :
    (item :: items).eraseDups = item :: items.eraseDups.filter (· ≠ item) := by
  rw [List.eraseDups_cons, eraseDups_filter]
  simp only [beq_eq_decide, decide_not]

theorem eraseDups_of_nodup {items : List Item} (distinct : items.Nodup) :
    items.eraseDups = items := by
  induction items with
  | nil => rfl
  | cons item rest ih =>
      rw [List.nodup_cons] at distinct
      rw [eraseDups_cons_eq, ih distinct.2, List.filter_eq_self.mpr]
      intro other member
      rw [decide_eq_true_eq]
      exact fun same => distinct.1 (same ▸ member)

end SceneMarkup
