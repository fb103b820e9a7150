import RouteLoom.Json.Reader
import RouteLoom.Json.Fault

/-!
# Binding drafts to values

A binder takes a draft to the value it stands for, or to the first fault on the way. It also knows
the place where the draft stands: how many arrays and objects may still be opened there, and what is
being bound. A text is bound while it is read, so what cannot follow in a place makes the text
malformed there, and what stands behind it does not count.
-/

namespace RouteLoom

/-- The number of arrays and objects that may lie inside each other. -/
def depthLimit : Nat := 127

inductive Medium
  | text
  | value
deriving DecidableEq, Repr

/-- Where a draft stands: `levels` arrays and objects may still be opened there. -/
structure Place where
  medium : Medium
  levels : Nat
deriving DecidableEq, Repr

def Place.inner (p : Place) : Except JsonFault Place :=
  match p.levels with
  | 0 => .error .malformed
  | levels + 1 => .ok ⟨p.medium, levels⟩

abbrev Binder (α : Type) := Place → Draft → Except JsonFault α

namespace Binder

/-! ### Plain values -/

/-- What a message says about a draft that is not of the wanted type. -/
def found : Draft → Except JsonFault Found
  | .null => .ok .null
  | .bool b => .ok (.bool b)
  | .number n =>
    match n.integer? with
    | some i => .ok (.integer i)
    | none => if n.float?.isSome then .ok (.real n) else .error .malformed
  | .text (some s) => .ok (.text s)
  | .text none => .error .malformed
  | .array _ => .ok .sequence
  | .object _ => .ok .map
  | .cut f => .error f.fault

def refuse {α : Type} (wanted : String) (d : Draft) : Except JsonFault α := do
  throw (.mismatch (.wrongType (← found d) wanted))

def text : Binder String
  | _, .text (some s) => .ok s
  | _, d => refuse "a string" d

def boolean : Binder Bool
  | _, .bool b => .ok b
  | _, d => refuse "a boolean" d

def unit : Binder Unit
  | _, .null => .ok ()
  | _, d => refuse "unit" d

/-- A natural number of 64 bits; `wanted` names its use. -/
def natural (wanted : String) : Binder Nat
  | _, .number n =>
    match n.integer? with
    | some (.ofNat i) => .ok i
    | some i => .error (.mismatch (.wrongValue (.integer i) wanted))
    | none => refuse wanted (.number n)
  | _, d => refuse wanted d

def count : Binder Nat := natural "usize"

def optional {α : Type} (bind : Binder α) : Binder (Option α)
  | _, .null => .ok none
  | p, d => some <$> bind p d

def list {α : Type} (bind : Binder α) : Binder (List α)
  | p, .array items => do items.mapM (bind (← p.inner))
  | _, d => refuse "a sequence" d

/-! ### Keys -/

def key : Draft → Except JsonFault String
  | .text (some name) => .ok name
  | .cut f => .error f.fault
  | _ => .error .malformed

/-- The fault of a text that goes on where only the end may follow. -/
def surplusFault : Draft → JsonFault
  | .cut .unclosed => .incomplete
  | _ => .malformed

/-! ### What is not bound -/

def skipFault (d : Draft) : Option JsonFault := d.flaw?.map Flaw.skipFault

mutual

/-- The first fault of a draft that is kept without being bound: every literal must have a value,
and the limit holds. -/
def keepFault : (levels : Nat) → Draft → Option JsonFault
  | _, .null => none
  | _, .bool _ => none
  | _, .number n => if n.hasValue then none else some .malformed
  | _, .text s => if s.isSome then none else some .malformed
  | 0, .array _ => some .malformed
  | levels + 1, .array items => keepItems levels items
  | 0, .object _ => some .malformed
  | levels + 1, .object members => keepMembers levels members
  | _, .cut f => some f.fault

def keepItems : (levels : Nat) → List Draft → Option JsonFault
  | _, [] => none
  | levels, d :: rest => keepFault levels d <|> keepItems levels rest

def keepMembers : (levels : Nat) → List (Draft × Draft) → Option JsonFault
  | _, [] => none
  | levels, (k, d) :: rest =>
    match key k with
    | .ok _ => keepFault levels d <|> keepMembers levels rest
    | .error f => some f

end

/-! ### Variants -/

def variant {α : Type} (variants : List (String × α)) (name : String) : Except JsonFault α :=
  match variants.lookup name with
  | some a => .ok a
  | none => .error (.mismatch (.unknownVariant name (variants.map Prod.fst)))

/-- The fault of a text in which something else begins where a text or an object is wanted. The first
character is out of place, and no word or number is read to its end, so the text can only end too
early in front of it or between quotation marks. -/
def strayFault : Draft → JsonFault
  | .cut .wordOpen => .malformed
  | .cut .numberOpen => .malformed
  | .cut f => f.fault
  | _ => .malformed

def refuseVariant {α : Type} (p : Place) (d : Draft) : Except JsonFault α :=
  match p.medium with
  | .text => .error (strayFault d)
  | .value => refuse "string or map" d

/-- Binds an object that has one member and no other. In a text, that another follows is met only
behind the first. -/
def soleMember {α : Type} (bind : Place → String → Draft → Except JsonFault α) (p : Place)
    (members : List (Draft × Draft)) : Except JsonFault α := do
  let inside ← p.inner
  match p.medium, members with
  | _, [(k, d)] => bind inside (← key k) d
  | .text, [] => throw .malformed
  | .text, (k, d) :: (next, _) :: _ =>
    let _ ← bind inside (← key k) d
    throw (surplusFault next)
  | .value, _ => throw (.mismatch (.wrongValue .map "map with a single key"))

/-- A variant without parts: its name, or an object with the name for a key and `null`. -/
def plainVariant {α : Type} (variants : List (String × α)) : Binder α
  | _, .text (some name) => variant variants name
  | p, .object members =>
    soleMember (fun p name d => do
      let a ← variant variants name
      unit p d
      return a) p members
  | p, d => refuseVariant p d

/-- The parts of a variant are those of a record, but in a value they may not be an array. -/
def parts {α : Type} (bind : Binder α) : Binder α
  | ⟨.value, levels⟩, .object members => bind ⟨.value, levels⟩ (.object members)
  | ⟨.value, _⟩, d => refuse "struct variant" d
  | p, d => bind p d

/-- A variant with parts: an object with the variant's name for a key. -/
def partsVariant {α : Type} (variants : List (String × Binder α)) : Binder α
  | _, .text (some name) => do
    let _ ← variant variants name
    throw (.mismatch (.wrongType .unitVariant "struct variant"))
  | p, .object members =>
    soleMember (fun p name d => do
      let bind ← variant variants name
      parts bind p d) p members
  | p, d => refuseVariant p d

end Binder

def Binder.parse {α : Type} (bind : Binder α) (source : String) : Except JsonFault α := do
  let reading := Draft.read source
  let a ← bind ⟨.text, depthLimit⟩ reading.draft
  if reading.surplus then throw .malformed
  return a

/-- Binds a value, given as the draft of a text that has been read to its end. -/
def Binder.ofValue {α : Type} (bind : Binder α) (d : Draft) : Except JsonFault α :=
  bind ⟨.value, depthLimit⟩ d

end RouteLoom
