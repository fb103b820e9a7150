import RouteLoom.Beans.Bindings
import RouteLoom.Fault

/-!
# Registries

A registry is a chain of levels, each of which knows some beans and their types. A name is looked
for level by level. A type is decided by the nearest level that has a bean of it: one such bean is
the answer, several are ambiguous, whatever the levels behind it hold.
-/

namespace RouteLoom

structure Registry where
  beans : Bindings
  /-- The levels behind the first, nearest first. -/
  parents : List Bindings
deriving DecidableEq, Repr

namespace Registry

def levels (r : Registry) : List Bindings := r.beans :: r.parents

/-- The registry with another chain behind its last level. -/
def behind (r : Registry) (more : List Bindings) : Registry := { r with parents := r.parents ++ more }

def nested (r : Registry) : Registry := ⟨.empty, r.levels⟩

def register (r : Registry) (name type : String) : Registry :=
  { r with beans := r.beans.insert name type }

def findName (name : String) : List Bindings → Except Fault String
  | [] => .error (.dependencyNotFound ("name '" ++ name ++ "'"))
  | level :: rest => if (level.get? name).isSome then .ok name else findName name rest

def findType (type : String) : List Bindings → Except Fault String
  | [] => .error (.dependencyNotFound ("type '" ++ type ++ "'"))
  | level :: rest =>
    match level.namesOf type with
    | [] => findType type rest
    | [name] => .ok name
    | names => .error (.ambiguousDependency type names)

def lookupName (r : Registry) (name : String) : Except Fault String := findName name r.levels

def lookupType (r : Registry) (type : String) : Except Fault String := findType type r.levels

end Registry

end RouteLoom
