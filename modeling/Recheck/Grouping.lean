import Recheck.Text

/-!
# Grouping

Items with one key put together, groups in the order of their first items and items in their
own order.
-/

namespace Recheck

/-- The items grouped by key. -/
def groupBy {α κ : Type} [BEq κ] (key : α → κ) (items : List α) : List (κ × List α) :=
  (items.map key).eraseDups.map fun k => (k, items.filter fun item => key item == k)

/-- The items with those of one key together. -/
def gather {α κ : Type} [BEq κ] (key : α → κ) (items : List α) : List α :=
  (groupBy key items).flatMap Prod.snd

end Recheck
