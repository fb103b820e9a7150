import RouteLoom.Json.Binder

/-!
# Records

A record is written as an object with a member for each field, in any order, or as an array of its
fields in their order. A `Record` lists the fields and says how their values make up the whole; it
is put together with `<$>` and `<*>` like the constructor it feeds. What is missing is known only
behind the last member, so each fault is blamed on a place, and of several the first counts.
-/

namespace RouteLoom

/-- A fault and the place among the parts where it is met. -/
structure Blame where
  place : Nat
  fault : JsonFault

def Blame.first (b c : Blame) : Blame := if b.place ≤ c.place then b else c

/-- What a record is bound from. For an array, `short` says what is wrong if it ends too early. -/
inductive Parts
  | members (members : List (Draft × Draft))
  | items (items : List Draft) (short : Nat → Mismatch)

structure Record (α : Type) where
  names : List String
  /-- Binds the fields. In an array the first of them stands at `index`. -/
  gather : Place → Parts → (index : Nat) → Except Blame α

namespace Record

variable {α β : Type}

def find? (name : String) : List (Draft × Draft) → Option (Nat × Draft)
  | [] => none
  | (key, d) :: rest =>
    if key.text? = some name then some (0, d) else (find? name rest).map fun (i, d) => (i + 1, d)

def blaming (place : Nat) : Except JsonFault α → Except Blame α
  | .ok a => .ok a
  | .error f => .error ⟨place, f⟩

/-- One field. Its value may be left out of an object if `noMember` gives another, and off the end
of an array if `noItem` does. -/
def field (name : String) (bind : Binder α) (noMember noItem : Option α) : Record α where
  names := [name]
  gather p parts index :=
    match parts with
    | .members members =>
      match find? name members, noMember with
      | some (place, d), _ => blaming place (bind p d)
      | none, some a => .ok a
      | none, none => .error ⟨members.length + index, .mismatch (.missingField name)⟩
    | .items items short =>
      match items[index]?, noItem with
      | some d, _ => blaming index (bind p d)
      | none, some a => .ok a
      | none, none => .error ⟨index, .mismatch (short index)⟩

def constant (a : α) : Record α := { names := [], gather := fun _ _ _ => .ok a }

def required (name : String) (bind : Binder α) : Record α := field name bind none none

def optional (name : String) (absent : α) (bind : Binder α) : Record α :=
  field name bind (some absent) (some absent)

protected def map (f : α → β) (r : Record α) : Record β where
  names := r.names
  gather p parts index :=
    match r.gather p parts index with
    | .ok a => .ok (f a)
    | .error b => .error b

protected def seq (f : Record (α → β)) (r : Record α) : Record β where
  names := f.names ++ r.names
  gather p parts index :=
    match f.gather p parts index, r.gather p parts (index + f.names.length) with
    | .ok f, .ok a => .ok (f a)
    | .error b, .ok _ => .error b
    | .ok _, .error c => .error c
    | .error b, .error c => .error (b.first c)

instance : Functor Record where
  map := Record.map

instance : Seq Record where
  seq f r := Record.seq f (r ())

/-- The first fault that lies in the members as such: a key that is no text, a field given a second
time, or a member that is no field and has a fault of its own. -/
def memberBlame (names : List String) (other : Draft → Option JsonFault) :
    (place : Nat) → (seen : List String) → List (Draft × Draft) → Option Blame
  | _, _, [] => none
  | place, seen, (k, d) :: rest =>
    match Binder.key k with
    | .error f => some ⟨place, f⟩
    | .ok key =>
      if key ∈ names then
        if key ∈ seen then some ⟨place, .mismatch (.duplicateField key)⟩
        else memberBlame names other (place + 1) (key :: seen) rest
      else
        match other d with
        | some f => some ⟨place, f⟩
        | none => memberBlame names other (place + 1) seen rest

/-- Binds the members of an object, with `other` for the faults of those that are no field. -/
def ofMembers (r : Record α) (p : Place) (other : Draft → Option JsonFault)
    (members : List (Draft × Draft)) : Except JsonFault α :=
  let gathered := r.gather p (.members members) 0
  match memberBlame r.names other 0 [] members, gathered with
  | none, .ok a => .ok a
  | some b, .ok _ => .error b.fault
  | none, .error c => .error c.fault
  | some b, .error c => .error (b.first c).fault

/-- Binds the items of an array, with `surplus` for what stands behind the last field. -/
def ofItems (r : Record α) (title : String) (p : Place)
    (surplus : List Draft → Except JsonFault Unit) (items : List Draft) : Except JsonFault α := do
  let short (index : Nat) : Mismatch :=
    .wrongLength index (title ++ " with " ++ elements r.names.length)
  match r.gather p (.items items short) 0 with
  | .ok a =>
    surplus (items.drop r.names.length)
    return a
  | .error b => throw b.fault

def noSurplus (medium : Medium) (total : Nat) : List Draft → Except JsonFault Unit
  | [] => .ok ()
  | d :: _ =>
    match medium with
    | .text => .error (Binder.surplusFault d)
    | .value => .error (.mismatch (.wrongLength total "fewer elements in array"))

def binder (title : String) (r : Record α) : Binder α
  | p, .object members => do r.ofMembers (← p.inner) Binder.skipFault members
  | p, .array items => do
    r.ofItems title (← p.inner) (noSurplus p.medium items.length) items
  | _, d => Binder.refuse title d

end Record

end RouteLoom
