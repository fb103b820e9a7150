import RouteLoom.Tree.Address

/-!
# Insertion points

The places of a route at which construction can go on, as a stack of addresses. The one on top is
current.
-/

namespace RouteLoom

structure InsertionPoints where
  topDown : List Address
deriving DecidableEq, Repr

namespace InsertionPoints

def empty : InsertionPoints := ⟨[]⟩

def push (p : InsertionPoints) (a : Address) : InsertionPoints := ⟨a :: p.topDown⟩

def pop (p : InsertionPoints) : Option Address × InsertionPoints := (p.topDown.head?, ⟨p.topDown.tail⟩)

def current (p : InsertionPoints) : Option Address := p.topDown.head?

def bottomUp (p : InsertionPoints) : List Address := p.topDown.reverse

def ofBottomUp (as : List Address) : InsertionPoints := ⟨as.reverse⟩

def size (p : InsertionPoints) : Nat := p.topDown.length

end InsertionPoints

end RouteLoom
