/-!
# Names for joined tables

Joined tables are called `t1`, `t2`, … in the order in which they ask for a name.  A name that is
reserved is passed over, and every name that is given out is reserved from then on.
-/

namespace StagedLoad

/-- the names that are taken, and the number of the last name given out -/
structure Aliases where
  reserved : List String := []
  last : Nat := 0
  deriving Repr

namespace Aliases

def nameOf (n : Nat) : String := "t" ++ toString n

/-- the first number above `n` whose name is free; `tries` of the names behind `n` may be taken -/
def freeAbove (reserved : List String) : (tries : Nat) → Nat → Nat
  | 0, n => n + 1
  | tries + 1, n =>
    if reserved.contains (nameOf (n + 1)) then freeAbove reserved tries (n + 1) else n + 1

/-- keep a name from being given out -/
def reserve (a : Aliases) (name : String) : Aliases := { a with reserved := name :: a.reserved }

/-- the next free name.  No more names can be taken than are reserved, so there is a free one
among as many and one more. -/
def next (a : Aliases) : String × Aliases :=
  let n := freeAbove a.reserved a.reserved.length a.last
  (nameOf n, { reserved := nameOf n :: a.reserved, last := n })

def take : Nat → Aliases → List String × Aliases
  | 0, a => ([], a)
  | n + 1, a =>
    let (name, a) := a.next
    let (names, a) := take n a
    (name :: names, a)

theorem lt_freeAbove (reserved : List String) (tries n : Nat) :
    n < freeAbove reserved tries n := by
  induction tries generalizing n with
  | zero => exact Nat.lt_succ_self n
  | succ tries ih =>
    rw [freeAbove]
    split
    · exact Nat.lt_of_succ_lt (ih (n + 1))
    · exact Nat.lt_succ_self n

end Aliases

end StagedLoad
