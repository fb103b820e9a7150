import RouteLoom.Tree.Node

/-!
# Addresses

An address leads to a node of a forest: the first index selects a tree of the forest, and every
further one an output of the node reached so far. The empty address leads nowhere in a forest. Seen
from a node, it leads to the node itself.
-/

namespace RouteLoom

abbrev Address := List Nat

namespace Address

/-- The address of an output of the node at this address. -/
def child (a : Address) (index : Nat) : Address := a ++ [index]

/-- The address in the forest that has one more tree in front. -/
def shift : Address → Address
  | [] => []
  | i :: rest => (i + 1) :: rest

def text (a : Address) : String := "/" ++ "/".intercalate (a.map toString)

/-- The indices between brackets, as messages show them. -/
def listed (a : Address) : String := "[" ++ ", ".intercalate (a.map toString) ++ "]"

end Address

/-! ### Looking up -/

def Node.at? : Address → Node → Option Node
  | [], n => some n
  | i :: rest, n => n.outputs[i]?.bind (Node.at? rest)

namespace Forest

def at? : Address → Forest → Option Node
  | [], _ => none
  | i :: rest, f => f[i]?.bind (Node.at? rest)

end Forest

/-! ### Changing one node -/

/-- The tree with the node at an address changed by `g`, if there is one. -/
def Node.update (g : Node → Node) : Address → Node → Option Node
  | [], n => some (g n)
  | i :: rest, n =>
    n.outputs[i]?.bind fun m =>
      (Node.update g rest m).map fun m => { n with outputs := n.outputs.set i m }

namespace Forest

def update (g : Node → Node) : Address → Forest → Option Forest
  | [], _ => none
  | i :: rest, f => f[i]?.bind fun m => (Node.update g rest m).map (f.set i)

/-- The forest with more outputs for the node at an address, if there is one. -/
def appendAt (a : Address) (more : Forest) (f : Forest) : Option Forest :=
  update (·.addOutputs more) a f

end Forest

/-! ### The first proceed marker -/

mutual

def Node.firstMarker : Node → Option Address
  | ⟨kind, _, outputs⟩ => if kind = .proceed then some [] else Forest.firstMarker outputs

/-- The address of the first proceed marker, a node being met before its outputs. -/
def Forest.firstMarker : Forest → Option Address
  | [] => none
  | n :: rest =>
    match n.firstMarker with
    | some a => some (0 :: a)
    | none => (Forest.firstMarker rest).map Address.shift

end

end RouteLoom
