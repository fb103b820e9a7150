/-!
# Assembly events

What an observer is told while a context is assembled.
-/

namespace RouteLoom

inductive Event
  | started (context : String) (routes intercepts : Nat)
  | applied (route intercept : String) (wrapped : Nat)
  | dropped (route intercept : String) (count : Nat)
  | woven (route : String) (clauses layers : Nat)
  | failed (route message : String)
  | completed (context : String) (routes : Nat)
deriving DecidableEq, Repr

end RouteLoom
