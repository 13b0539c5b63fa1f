import Mathlib.Data.List.Infix
import RevenueGuard.Library.PyValue

/-!
Dictionaries as objects that a program refers to by their addresses.  `dict(x)` makes a
new object; an operation on that one leaves every other as it was.
-/

namespace RevenueGuard.Library.Objects

/-- The objects, each at the address of its position. -/
abbrev Heap := List Dict

/-- A program over the objects, which may raise. -/
abbrev Program := StateT Heap (Except String)

/-- The entries of an object. -/
def entries (heap : Heap) (address : ℕ) : Dict := heap[address]?.getD []

def read (address : ℕ) : Program Dict := return entries (← get) address

/-- `dict(x)`. -/
def copy (address : ℕ) : Program ℕ := do
  let heap ← get
  set (heap ++ [entries heap address])
  return heap.length

/-- `x.pop(key, default)`. -/
def pop (address : ℕ) (key : String) (default : Json) : Program Json := do
  let heap ← get
  set (heap.modify address fun d => d.erase key)
  return (entries heap address).getD key default

variable {heap : Heap} {d : Dict}

theorem entries_last : entries (heap ++ [d]) heap.length = d := by simp [entries]

theorem copy_run (address : ℕ) :
    (copy address).run heap = .ok (heap.length, heap ++ [entries heap address]) := rfl

/-- On the newest object, `pop` leaves the others alone. -/
theorem pop_run_last (key : String) (default : Json) :
    (pop heap.length key default).run (heap ++ [d]) = .ok (d.getD key default, heap ++ [d.erase key]) := by
  have popped : (heap ++ [d]).modify heap.length (fun d => d.erase key) = heap ++ [d.erase key] := by
    induction heap with
    | nil => rfl
    | cons first rest ih => exact congrArg (first :: ·) ih
  show Except.ok ((entries (heap ++ [d]) heap.length).getD key default, (heap ++ [d]).modify heap.length _) = _
  rw [entries_last, popped]

theorem read_run_last : (read heap.length).run (heap ++ [d]) = .ok (d, heap ++ [d]) := by
  show Except.ok (entries (heap ++ [d]) heap.length, heap ++ [d]) = _
  rw [entries_last]

end RevenueGuard.Library.Objects
