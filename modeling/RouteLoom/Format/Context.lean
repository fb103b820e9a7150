import RouteLoom.Context.Basic
import RouteLoom.Format.Route

/-!
# The written form of contexts and what they declare

What an intercept's preparation has found is not written, and an intercept that is bound is not
prepared. The beans are the members of an object, of which the last of one name counts.
-/

namespace RouteLoom

/-! ### Intercepts -/

def Requirement.toJson (r : Requirement) : Json :=
  .object ([("var", .text r.var)] ++ Json.memberOf "bean" .text r.bean
    ++ Json.memberOf "type" .text r.type)

def Requirement.binder : Binder Requirement :=
  Record.binder "struct Requirement"
    (Requirement.mk <$> .required "var" Binder.text
      <*> .optional "bean" none (Binder.optional Binder.text)
      <*> .optional "type" none (Binder.optional Binder.text))

def Intercept.toJson (i : Intercept) : Json :=
  .object ([("id", .text i.id)]
    ++ (if i.requirements.isEmpty then []
      else [("requires", .array (i.requirements.map Requirement.toJson))])
    ++ [("outputs", Forest.toJson i.template)])

def Intercept.binder : Binder Intercept :=
  Record.binder "struct InterceptDefinition"
    ((fun id requirements template => Intercept.mk id requirements template .empty)
      <$> .required "id" Binder.text
      <*> .optional "requires" [] (Binder.list Requirement.binder)
      <*> .optional "outputs" [] Forest.binder)

/-! ### Clauses -/

def Clause.toJson (c : Clause) : Json :=
  .object [("exceptions", texts c.exceptions), ("handled", .bool c.handled),
    ("outputs", Forest.toJson c.outputs)]

def Clause.binder : Binder Clause :=
  Record.binder "struct ExceptionClauseDefinition"
    (Clause.mk <$> .required "exceptions" (Binder.list Binder.text)
      <*> .optional "handled" false Binder.boolean
      <*> .optional "outputs" [] Forest.binder)

/-! ### Options -/

def Policy.name : Policy → String
  | .reject => "reject"
  | .drop => "drop"

def Policy.toJson (p : Policy) : Json := .text p.name

def Policy.binder : Binder Policy := Binder.plainVariant [("reject", .reject), ("drop", .drop)]

def Options.toJson (o : Options) : Json := .object [("missing_proceed", o.missingProceed.toJson)]

def Options.binder : Binder Options :=
  Record.binder "struct WeaveOptions"
    (Options.mk <$> .optional "missing_proceed" .reject Policy.binder)

/-! ### Beans -/

def Bindings.toJson (b : Bindings) : Json := .object (b.entries.map fun (name, v) => (name, .text v))

def Bindings.member (p : Place) : Draft × Draft → Except JsonFault (String × String)
  | (key, d) => do return (← Binder.key key, ← Binder.text p d)

def Bindings.binder : Binder Bindings
  | p, .object members => do
    let inside ← p.inner
    Bindings.ofList <$> members.mapM (Bindings.member inside)
  | _, d => Binder.refuse "a map" d

/-! ### Contexts -/

def Context.toJson (c : Context) : Json :=
  .object ([("id", .text c.id), ("beans", c.beans.toJson),
      ("on_exception", .array (c.clauses.map Clause.toJson)),
      ("intercepts", .array (c.intercepts.map Intercept.toJson)),
      ("routes", .array (c.routes.map Route.toJson)), ("options", c.options.toJson)]
    ++ Json.memberOf "trace" .bool c.trace ++ Json.memberOf "delay" .natural c.delay
    ++ Json.memberOf "error_handler" .text c.errorHandler)

def delayBinder : Binder (Option Nat) := Binder.optional (Binder.natural "u64")

def Context.binder : Binder Context :=
  Record.binder "struct ContextDefinition"
    (Context.mk <$> .optional "id" Context.standard.id Binder.text
      <*> .optional "beans" .empty Bindings.binder
      <*> .optional "on_exception" [] (Binder.list Clause.binder)
      <*> .optional "intercepts" [] (Binder.list Intercept.binder)
      <*> .optional "routes" [] (Binder.list Route.binder)
      <*> .optional "options" .standard Options.binder
      <*> .optional "trace" none (Binder.optional Binder.boolean)
      <*> .optional "delay" none delayBinder
      <*> .optional "error_handler" none (Binder.optional Binder.text))

def Context.parse (source : String) : Except Fault Context :=
  (Context.binder.parse source).mapError .json

end RouteLoom
