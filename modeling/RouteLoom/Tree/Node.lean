/-!
# Nodes and forests

A route is a tree of processing nodes, and what hangs below a node is a forest, the list of its
outputs in order. Two kinds have a meaning of their own while a route is put together: an exception
clause always moves to the front of a route, and a proceed marker is the place in an intercept's
proxy where the wrapped nodes go.
-/

namespace RouteLoom

inductive Kind
  | step (uri : String)
  | onException (exceptions : List String) (handled : Bool)
  | proceed
  | proxy (intercept : String)
deriving DecidableEq, Repr

def Kind.text : Kind → String
  | .step uri => "to(" ++ uri ++ ")"
  | .onException exceptions handled =>
    "onException(" ++ ", ".intercalate exceptions ++ ")" ++ if handled then " handled" else ""
  | .proceed => "proceed"
  | .proxy intercept => "intercept(" ++ intercept ++ ")"

structure Node where
  kind : Kind
  id : Option String
  outputs : List Node
deriving Repr

abbrev Forest := List Node

namespace Node

def ofKind (kind : Kind) : Node := ⟨kind, none, []⟩

def step (uri : String) : Node := ofKind (.step uri)

def marker : Node := ofKind .proceed

def proxy (intercept : String) (outputs : Forest) : Node := ⟨.proxy intercept, none, outputs⟩

def named (n : Node) (id : String) : Node := { n with id := some id }

def addOutputs (n : Node) (more : Forest) : Node := { n with outputs := n.outputs ++ more }

def isClause (n : Node) : Bool :=
  match n.kind with
  | .onException _ _ => true
  | _ => false

def isMarker (n : Node) : Bool :=
  match n.kind with
  | .proceed => true
  | _ => false

def isProxy (n : Node) : Bool :=
  match n.kind with
  | .proxy _ => true
  | _ => false

def text (n : Node) : String :=
  n.kind.text ++ match n.id with
    | none => ""
    | some id => " #" ++ id

end Node

/-! ### Equality -/

mutual

/-- Nodes are equal if their kinds, ids and outputs are. -/
def Node.decEq : (n m : Node) → Decidable (n = m)
  | ⟨k, i, f⟩, ⟨l, j, g⟩ =>
    match decEq k l, decEq i j, Forest.decEq f g with
    | .isTrue hk, .isTrue hi, .isTrue hf => .isTrue (by rw [hk, hi, hf])
    | .isFalse hk, _, _ => .isFalse fun h => hk (Node.mk.inj h).1
    | _, .isFalse hi, _ => .isFalse fun h => hi (Node.mk.inj h).2.1
    | _, _, .isFalse hf => .isFalse fun h => hf (Node.mk.inj h).2.2

def Forest.decEq : (f g : List Node) → Decidable (f = g)
  | [], [] => .isTrue rfl
  | [], _ :: _ => .isFalse nofun
  | _ :: _, [] => .isFalse nofun
  | n :: f, m :: g =>
    match Node.decEq n m, Forest.decEq f g with
    | .isTrue hn, .isTrue hf => .isTrue (by rw [hn, hf])
    | .isFalse hn, _ => .isFalse fun h => hn (List.cons.inj h).1
    | _, .isFalse hf => .isFalse fun h => hf (List.cons.inj h).2

end

instance : DecidableEq Node := Node.decEq

/-! ### Pre-order -/

mutual

def Node.preorder : Node → List Node
  | ⟨kind, id, outputs⟩ => ⟨kind, id, outputs⟩ :: Forest.preorder outputs

def Forest.preorder : Forest → List Node
  | [] => []
  | n :: rest => n.preorder ++ Forest.preorder rest

end

theorem Forest.preorder_eq_flatMap (f : Forest) : preorder f = f.flatMap Node.preorder := by
  induction f with
  | nil => rw [preorder, List.flatMap_nil]
  | cons n rest ih => rw [preorder, ih, List.flatMap_cons]

theorem Node.preorder_eq (n : Node) : n.preorder = n :: Forest.preorder n.outputs := by
  cases n with
  | mk kind id outputs => rw [Node.preorder]

namespace Forest

def count (p : Node → Bool) (f : Forest) : Nat := (preorder f).countP p

def any (p : Node → Bool) (f : Forest) : Bool := (preorder f).any p

def markerCount (f : Forest) : Nat := count Node.isMarker f

end Forest

end RouteLoom
