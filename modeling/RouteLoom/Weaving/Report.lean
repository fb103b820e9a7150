import RouteLoom.Route.InsertionPoints

/-!
# What a weave says about itself

A layer is one interceptor's proxy around the nodes woven so far. Its report gives the address of
the proceed marker within the proxy's body as the interceptor made it, how many nodes were wrapped,
and how many of them were dropped because there was no marker.
-/

namespace RouteLoom

inductive Policy
  | reject
  | drop
deriving DecidableEq, Repr

structure Options where
  missingProceed : Policy
deriving DecidableEq, Repr

namespace Options

def standard : Options := ⟨.reject⟩

def lenient : Options := ⟨.drop⟩

end Options

structure Layer where
  intercept : String
  marker : Option Address
  wrapped : Nat
  dropped : Nat
deriving DecidableEq, Repr

structure Report where
  route : String
  clauses : Nat
  layers : List Layer
  points : InsertionPoints
deriving DecidableEq, Repr

def Report.dropped (r : Report) : Nat := (r.layers.map Layer.dropped).foldr (· + ·) 0

/-- The dropped nodes counted in 64 bits, which the layers of a report that somebody else has
written can exceed. -/
def Report.droppedWord (r : Report) : UInt64 := UInt64.ofNat r.dropped

end RouteLoom
