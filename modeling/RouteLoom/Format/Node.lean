import RouteLoom.Json.Record
import RouteLoom.Tree.Address

/-!
# The written form of nodes

A node is an object with the name of its kind, the fields of that kind, and its id and outputs. The
kind and its fields are bound once the whole object has been met, and till then everything else in
the object is kept, so all of it has to be sound JSON. In a node, the kind may also be given by its
number.
-/

namespace RouteLoom

/-! ### Writing -/

def texts (items : List String) : Json := .array (items.map .text)

def Kind.members : Kind → List (String × Json)
  | .step uri => [("kind", .text "step"), ("uri", .text uri)]
  | .onException exceptions handled =>
    [("kind", .text "on_exception"), ("exceptions", texts exceptions), ("handled", .bool handled)]
  | .proceed => [("kind", .text "proceed")]
  | .proxy intercept => [("kind", .text "proxy"), ("intercept", .text intercept)]

def Kind.toJson (k : Kind) : Json := .object k.members

mutual

def Node.toJson : Node → Json
  | ⟨kind, id, []⟩ => .object (kind.members ++ Json.memberOf "id" .text id)
  | ⟨kind, id, n :: rest⟩ =>
    .object (kind.members ++ Json.memberOf "id" .text id
      ++ [("outputs", .array (n.toJson :: Forest.jsonItems rest))])

def Forest.jsonItems : Forest → List Json
  | [] => []
  | n :: rest => n.toJson :: Forest.jsonItems rest

end

def Forest.toJson (f : Forest) : Json := .array (Forest.jsonItems f)

/-! ### Kinds -/

inductive KindName
  | step
  | onException
  | proceed
  | proxy
deriving DecidableEq, Repr

namespace KindName

def variants : List (String × KindName) :=
  [("step", .step), ("on_exception", .onException), ("proceed", .proceed), ("proxy", .proxy)]

def byText : Binder KindName
  | _, .text (some name) => Binder.variant variants name
  | _, d => Binder.refuse "variant identifier" d

/-- The name, or the number of the kind in its order. -/
def byTextOrNumber : Binder KindName
  | _, .text (some name) => Binder.variant variants name
  | _, .number n =>
    match n.integer? with
    | some (.ofNat i) =>
      match variants[i]? with
      | some (_, k) => .ok k
      | none => .error (.mismatch (.wrongValue (.integer i) "variant index 0 <= i < 4"))
    | _ => Binder.refuse "variant identifier" (.number n)
  | _, d => Binder.refuse "variant identifier" d

def record : KindName → Record Kind
  | .step => Kind.step <$> .required "uri" Binder.text
  | .onException =>
    Kind.onException <$> .required "exceptions" (Binder.list Binder.text)
      <*> .optional "handled" false Binder.boolean
  | .proceed => .constant .proceed
  | .proxy => Kind.proxy <$> .required "intercept" Binder.text

def title : KindName → String
  | .step => "struct variant NodeKind::Step"
  | .onException => "struct variant NodeKind::OnException"
  | .proceed => "unit variant NodeKind::Proceed"
  | .proxy => "struct variant NodeKind::Proxy"

end KindName

namespace Kind

/-- What was kept is not looked at again unless it is a field. -/
def noFault : Draft → Option JsonFault := fun _ => none

def ofMembers (tag : Binder KindName) (p : Place) (members : List (Draft × Draft)) :
    Except JsonFault Kind := do
  let name ← (Record.required "kind" tag).ofMembers p noFault members
  name.record.ofMembers p noFault (members.filter fun m => m.1.text? ≠ some "kind")

/-- An array that goes on behind the fields of a kind has the wrong length. -/
def surplusFields (total expected : Nat) : List Draft → Except JsonFault Unit
  | [] => .ok ()
  | _ :: _ =>
    .error (.mismatch (.wrongLength total (elements expected ++ " in sequence")))

def ofItems (p : Place) : List Draft → Except JsonFault Kind
  | [] => .error (.mismatch (.missingField "kind"))
  | tag :: fields => do
    let name ← KindName.byText p tag
    if let some f := Binder.keepItems p.levels fields then throw f
    name.record.ofItems name.title p (surplusFields fields.length name.record.names.length)
      fields

def binder : Binder Kind
  | p, .object members => do
    let inside ← p.inner
    let name ← (Record.required "kind" KindName.byText).ofMembers inside
      (Binder.keepFault inside.levels) members
    name.record.ofMembers inside noFault (members.filter fun m => m.1.text? ≠ some "kind")
  | p, .array items => do ofItems (← p.inner) items
  | _, d => Binder.refuse "internally tagged enum NodeKind" d

end Kind

/-! ### Nodes -/

namespace Node

/-- The parts of a node that are bound as they are met, where `outputs` binds the outputs. -/
def parts (outputs : Binder Forest) : Record (Option String × Forest) :=
  Prod.mk <$> .optional "id" none (Binder.optional Binder.text)
    <*> .optional "outputs" [] outputs

def ofMembers (outputs : Binder Forest) (p : Place) (members : List (Draft × Draft)) :
    Except JsonFault Node := do
  let (id, outputs) ← (parts outputs).ofMembers p (Binder.keepFault p.levels) members
  let rest := members.filter fun m => m.1.text? ≠ some "id" ∧ m.1.text? ≠ some "outputs"
  let kind ← Kind.ofMembers KindName.byTextOrNumber p rest
  return ⟨kind, id, outputs⟩

def binderWith (outputs : Binder Forest) : Binder Node
  | p, .object members => do ofMembers outputs (← p.inner) members
  | _, d => Binder.refuse "struct ProcessingNode" d

end Node

/-- Binds a forest where `levels` arrays and objects may still be opened. A node in it is an object in
an array, so its outputs have two levels less. -/
def Forest.binderAt (medium : Medium) (levels : Nat) : Draft → Except JsonFault Forest :=
  match levels with
  | 0 => Binder.list (Node.binderWith fun _ _ => .error .malformed) ⟨medium, 0⟩
  | 1 => Binder.list (Node.binderWith fun _ _ => .error .malformed) ⟨medium, 1⟩
  | levels + 2 =>
    Binder.list (Node.binderWith fun _ => Forest.binderAt medium levels) ⟨medium, levels + 2⟩

def Forest.binder : Binder Forest := fun p => Forest.binderAt p.medium p.levels

def Node.binder : Binder Node := Node.binderWith Forest.binder

end RouteLoom
