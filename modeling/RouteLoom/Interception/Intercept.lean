import RouteLoom.Interception.Interceptor
import RouteLoom.Interception.Placeholder

/-!
# Declared intercepts

An intercept is declared as a forest whose steps may hold placeholders, and a list of requirements
that say which bean each placeholder stands for. Preparing an intercept looks every requirement up
and binds its variable to the name of the bean found; of two requirements for one variable the later
one stays.
-/

namespace RouteLoom

/-- A bean that is needed by name or by type; exactly one of the two should be set. -/
structure Requirement where
  var : String
  bean : Option String
  type : Option String
deriving DecidableEq, Repr

namespace Requirement

def wellFormed (r : Requirement) : Bool := r.bean.isSome != r.type.isSome

def resolve (registry : Registry) (r : Requirement) : Except Fault String :=
  match r.bean, r.type with
  | some name, none => registry.lookupName name
  | none, some type => registry.lookupType type
  | _, _ =>
    .error (.other ("requirement '" ++ r.var ++ "' must set exactly one of 'bean' or 'type'"))

def bindAll (registry : Registry) : List Requirement → Bindings → Except Fault Bindings
  | [], b => .ok b
  | r :: rest, b =>
    match r.resolve registry with
    | .ok bean => bindAll registry rest (b.insert r.var bean)
    | .error f => .error f

end Requirement

structure Intercept where
  id : String
  requirements : List Requirement
  template : Forest
  /-- The beans that the last successful preparation found. -/
  resolved : Bindings
deriving DecidableEq, Repr

/-! ### Expanding a template -/

def Kind.expand (b : Bindings) : Kind → Kind
  | .step uri => .step (b.expand uri)
  | .onException exceptions handled => .onException exceptions handled
  | .proceed => .proceed
  | .proxy intercept => .proxy intercept

mutual

def Node.expand (b : Bindings) : Node → Node
  | ⟨kind, id, outputs⟩ => ⟨kind.expand b, id, Forest.expand b outputs⟩

def Forest.expand (b : Bindings) : Forest → Forest
  | [] => []
  | n :: rest => n.expand b :: Forest.expand b rest

end

namespace Intercept

def prepare (registry : Registry) (i : Intercept) : Except Fault Intercept :=
  match Requirement.bindAll registry i.requirements .empty with
  | .ok resolved => .ok { i with resolved }
  | .error f => .error (.configuration i.id f.message)

instance : Interceptor Intercept where
  name := Intercept.id
  prepare := Intercept.prepare
  body i := Forest.expand i.resolved i.template

end Intercept

end RouteLoom
