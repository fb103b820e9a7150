import RouteLoom.Proofs.Json.Words

/-!
# How a text is laid out

A JSON text consists of words, brackets, commas, colons and blanks. Of a layout only the words and
their order count: it is read as what is laid out, however it is spelled. The compact text of a
value is one of the layouts of its draft.
-/

namespace RouteLoom

/-! ### Layouts -/

structure Blanks where
  chars : List Char
  blank : ∀ c ∈ chars, Reader.blank c = true

/-- A word as it is spelled, with the blanks around it. -/
structure Word where
  chars : List Char
  draft : Draft
  isWord : draft.isWord = true
  reads : Reader.readChars chars = ⟨draft, false⟩

/-- A text in quotation marks, as it is spelled in front of a colon. -/
structure Key where
  front : Blanks
  /-- What stands behind the first quotation mark. -/
  rest : List Char
  name : Option String
  reads : Reader.readChars ('"' :: rest) = ⟨.text name, false⟩

/-- A JSON text: words, and arrays and objects with blanks around and inside the brackets. -/
inductive Layout
  | word (w : Word)
  | array (front inside : Blanks) (items : List Layout) (back : Blanks)
  | object (front inside : Blanks) (members : List (Key × Layout)) (back : Blanks)

def Key.chars (k : Key) : List Char := k.front.chars ++ '"' :: k.rest

namespace Layout

mutual

def draft : Layout → Draft
  | .word w => w.draft
  | .array _ _ items _ => .array (itemDrafts items)
  | .object _ _ members _ => .object (memberDrafts members)

def itemDrafts : List Layout → List Draft
  | [] => []
  | t :: rest => t.draft :: itemDrafts rest

def memberDrafts : List (Key × Layout) → List (Draft × Draft)
  | [] => []
  | (k, t) :: rest => (.text k.name, t.draft) :: memberDrafts rest

end

mutual

def chars : Layout → List Char
  | .word w => w.chars
  | .array front inside [] back => front.chars ++ '[' :: inside.chars ++ ']' :: back.chars
  | .array front inside (t :: rest) back =>
    front.chars ++ '[' :: inside.chars ++ t.chars ++ itemChars rest ++ back.chars
  | .object front inside [] back => front.chars ++ '{' :: inside.chars ++ '}' :: back.chars
  | .object front inside ((k, t) :: rest) back =>
    front.chars ++ '{' :: inside.chars ++ k.chars ++ ':' :: t.chars ++ memberChars rest ++ back.chars

def itemChars : List Layout → List Char
  | [] => [']']
  | t :: rest => ',' :: t.chars ++ itemChars rest

def memberChars : List (Key × Layout) → List Char
  | [] => ['}']
  | (k, t) :: rest => ',' :: k.chars ++ ':' :: t.chars ++ memberChars rest

end

def text (t : Layout) : String := String.ofList t.chars

theorem delimited_itemChars (ts : List Layout) (rest : List Char) :
    Reader.Delimited (itemChars ts ++ rest) := by
  cases ts with
  | nil => exact fun c hc => .inr (.inl (Option.some.inj hc).symm)
  | cons t ts => exact fun c hc => .inl (Option.some.inj hc).symm

theorem delimited_memberChars (ms : List (Key × Layout)) (rest : List Char) :
    Reader.Delimited (memberChars ms ++ rest) := by
  cases ms with
  | nil => exact fun c hc => .inr (.inr (Option.some.inj hc).symm)
  | cons m ms => exact fun c hc => .inl (Option.some.inj hc).symm

end Layout

namespace Reader

theorem run_key (awaits : m.Awaits) (k : Key) (done : List (Draft × Draft)) (cs : List Char) :
    run ⟨.members done :: opened, m⟩ (k.chars ++ ':' :: cs) =
      run ⟨.member done (.text k.name) :: opened, .value⟩ cs := by
  rw [Key.chars, List.append_assoc, run_blanks awaits k.front.blank, run_quoted awaits k.reads]
  rfl

mutual

/-- A layout is read to what is laid out, wherever a value may come. -/
theorem run_layout {m : Mode} {opened : List Frame} {rest : List Char} (awaits : m.Awaits)
    (wanted : keyWanted opened = false) (t : Layout) (delimited : Delimited rest) :
    run ⟨opened, m⟩ (t.chars ++ rest) = run (deliver t.draft opened) rest := by
  cases t with
  | word w => exact run_word awaits wanted w.isWord w.reads fun _ _ => delimited
  | array front inside items back =>
    have bracket : step ⟨opened, m⟩ '[' = .ok ⟨.array [] :: opened, .valueOrEnd⟩ :=
      step_begin awaits rfl (by decide) (by decide) (by simp [begin, wanted])
    cases items with
    | nil =>
      have closes : step ⟨.array [] :: opened, .valueOrEnd⟩ ']' =
          .ok (deliver (.array []) opened) := rfl
      rw [Layout.chars, Layout.draft, Layout.itemDrafts]
      simp only [List.append_assoc, List.cons_append]
      rw [run_blanks awaits front.blank, run_cons bracket, run_blanks (.inr rfl) inside.blank,
        run_cons closes, run_blanks_behind back.blank]
    | cons t ts =>
      have inside_array : keyWanted (.array [] :: opened) = false := rfl
      have first := run_layout (.inr rfl) inside_array t
        (Layout.delimited_itemChars ts (back.chars ++ rest))
      rw [Layout.chars, Layout.draft, Layout.itemDrafts]
      simp only [List.append_assoc, List.cons_append]
      rw [run_blanks awaits front.blank, run_cons bracket, run_blanks (.inr rfl) inside.blank,
        first, deliver, run_items [t.draft] ts, run_blanks_behind back.blank]
      rfl
  | object front inside members back =>
    have brace : step ⟨opened, m⟩ '{' = .ok ⟨.members [] :: opened, .valueOrEnd⟩ :=
      step_begin awaits rfl (by decide) (by decide) (by simp [begin, wanted])
    match members with
    | [] =>
      have closes : step ⟨.members [] :: opened, .valueOrEnd⟩ '}' =
          .ok (deliver (.object []) opened) := rfl
      rw [Layout.chars, Layout.draft, Layout.memberDrafts]
      simp only [List.append_assoc, List.cons_append]
      rw [run_blanks awaits front.blank, run_cons brace, run_blanks (.inr rfl) inside.blank,
        run_cons closes, run_blanks_behind back.blank]
    | (k, t) :: ms =>
      have inside_member : keyWanted (.member [] (.text k.name) :: opened) = false := rfl
      have value := run_layout (.inl rfl) inside_member t
        (Layout.delimited_memberChars ms (back.chars ++ rest))
      rw [Layout.chars, Layout.draft, Layout.memberDrafts]
      simp only [List.append_assoc, List.cons_append]
      rw [run_blanks awaits front.blank, run_cons brace, run_blanks (.inr rfl) inside.blank,
        run_key (.inr rfl), value, deliver, run_members [(.text k.name, t.draft)] ms,
        run_blanks_behind back.blank]
      rfl
termination_by sizeOf t

theorem run_items {opened : List Frame} {rest : List Char} (done : List Draft)
    (ts : List Layout) :
    run ⟨.array done :: opened, .commaOrEnd⟩ (Layout.itemChars ts ++ rest) =
      run (deliver (.array (done.reverse ++ Layout.itemDrafts ts)) opened) rest := by
  cases ts with
  | nil =>
    have closes : step ⟨.array done :: opened, .commaOrEnd⟩ ']' =
        .ok (deliver (.array done.reverse) opened) := rfl
    rw [Layout.itemChars, List.singleton_append, run_cons closes, Layout.itemDrafts,
      List.append_nil]
  | cons t ts =>
    have comma : step ⟨.array done :: opened, .commaOrEnd⟩ ',' =
        .ok ⟨.array done :: opened, .value⟩ := rfl
    have inside : keyWanted (.array done :: opened) = false := rfl
    have next := run_layout (.inl rfl) inside t (Layout.delimited_itemChars ts rest)
    rw [Layout.itemChars, List.cons_append, List.cons_append, run_cons comma, List.append_assoc,
      next, deliver, run_items (t.draft :: done) ts, List.reverse_cons, Layout.itemDrafts,
      List.append_assoc, List.singleton_append]
termination_by sizeOf ts

theorem run_members {opened : List Frame} {rest : List Char} (done : List (Draft × Draft))
    (ms : List (Key × Layout)) :
    run ⟨.members done :: opened, .commaOrEnd⟩ (Layout.memberChars ms ++ rest) =
      run (deliver (.object (done.reverse ++ Layout.memberDrafts ms)) opened) rest := by
  match ms with
  | [] =>
    have closes : step ⟨.members done :: opened, .commaOrEnd⟩ '}' =
        .ok (deliver (.object done.reverse) opened) := rfl
    rw [Layout.memberChars, List.singleton_append, run_cons closes, Layout.memberDrafts,
      List.append_nil]
  | (k, t) :: ms =>
    have comma : step ⟨.members done :: opened, .commaOrEnd⟩ ',' =
        .ok ⟨.members done :: opened, .value⟩ := rfl
    have inside : keyWanted (.member done (.text k.name) :: opened) = false := rfl
    have value := run_layout (.inl rfl) inside t (Layout.delimited_memberChars ms rest)
    rw [Layout.memberChars, Layout.memberDrafts]
    simp only [List.cons_append, List.append_assoc]
    rw [run_cons comma, run_key (.inl rfl), value, deliver,
      run_members ((.text k.name, t.draft) :: done) ms, List.reverse_cons, List.append_assoc,
      List.singleton_append]
termination_by sizeOf ms

end

theorem read_layout (t : Layout) : Draft.read t.text = ⟨t.draft, false⟩ := by
  have ends : run start (t.chars ++ []) = run (deliver t.draft []) [] :=
    run_layout (.inl rfl) rfl t delimited_nil
  rw [List.append_nil] at ends
  rw [Draft.read, Layout.text, String.toList_ofList]
  exact ends

/-! ### Compact texts -/

theorem read_digits (n : Nat) :
    readChars (Nat.toDigits 10 n) = ⟨.number (.ofNat n), false⟩ := by
  have digits : run ⟨[], .value⟩ (Nat.toDigits 10 n ++ []) = _ := run_digits (.inl rfl) rfl n
  rw [List.append_nil, run_number (mayEnd_lastPart n) delimited_nil] at digits
  exact digits

theorem read_quote (s : String) : readChars (Json.quote s) = ⟨.text (some s), false⟩ := by
  have quoted : run ⟨[], .value⟩ (Json.quote s ++ []) = _ := run_quote (.inl rfl) s
  rw [List.append_nil] at quoted
  exact quoted

end Reader

def Blanks.none : Blanks := ⟨[], nofun⟩

namespace Word

def null : Word := ⟨['n', 'u', 'l', 'l'], .null, rfl, rfl⟩

def bool : Bool → Word
  | true => ⟨['t', 'r', 'u', 'e'], .bool true, rfl, rfl⟩
  | false => ⟨['f', 'a', 'l', 's', 'e'], .bool false, rfl, rfl⟩

def natural (n : Nat) : Word :=
  ⟨Nat.toDigits 10 n, .number (.ofNat n), rfl, Reader.read_digits n⟩

def text (s : String) : Word :=
  ⟨Json.quote s, .text (some s), rfl, Reader.read_quote s⟩

end Word

def Key.ofName (s : String) : Key :=
  ⟨.none, s.toList.flatMap Json.escape ++ ['"'], some s, (Word.text s).reads⟩

namespace Json

mutual

def layout : Json → Layout
  | .null => .word .null
  | .bool b => .word (.bool b)
  | .natural n => .word (.natural n)
  | .text s => .word (.text s)
  | .array items => .array .none .none (itemLayouts items) .none
  | .object members => .object .none .none (memberLayouts members) .none

def itemLayouts : List Json → List Layout
  | [] => []
  | j :: rest => j.layout :: itemLayouts rest

def memberLayouts : List (String × Json) → List (Key × Layout)
  | [] => []
  | (k, j) :: rest => (.ofName k, j.layout) :: memberLayouts rest

end

mutual

theorem draft_layout (j : Json) : j.layout.draft = j.draft := by
  cases j with
  | null => rfl
  | bool b => cases b <;> rfl
  | natural n => rfl
  | text s => rfl
  | array items => rw [layout, Layout.draft, itemDrafts_layouts items, draft]
  | object members => rw [layout, Layout.draft, memberDrafts_layouts members, draft]
termination_by sizeOf j

theorem itemDrafts_layouts (items : List Json) :
    Layout.itemDrafts (itemLayouts items) = itemDrafts items := by
  cases items with
  | nil => rfl
  | cons j rest =>
    rw [itemLayouts, Layout.itemDrafts, draft_layout j, itemDrafts_layouts rest, itemDrafts]
termination_by sizeOf items

theorem memberDrafts_layouts (members : List (String × Json)) :
    Layout.memberDrafts (memberLayouts members) = memberDrafts members := by
  match members with
  | [] => rfl
  | (k, j) :: rest =>
    rw [memberLayouts, Layout.memberDrafts, draft_layout j, memberDrafts_layouts rest, memberDrafts]
    rfl
termination_by sizeOf members

end

mutual

theorem chars_layout (j : Json) : j.layout.chars = j.compactChars := by
  cases j with
  | null => rfl
  | bool b => cases b <;> rfl
  | natural n => rfl
  | text s => rfl
  | array items =>
    cases items with
    | nil => rfl
    | cons j rest =>
      rw [layout, itemLayouts, Layout.chars, chars_layout j, itemChars_layouts rest, compactChars]
      simp [Blanks.none]
  | object members =>
    match members with
    | [] => rfl
    | (k, j) :: rest =>
      rw [layout, memberLayouts, Layout.chars, chars_layout j, memberChars_layouts rest,
        compactChars]
      simp [Blanks.none, Key.ofName, Key.chars, quote]
termination_by sizeOf j

theorem itemChars_layouts (items : List Json) :
    Layout.itemChars (itemLayouts items) = compactItems items := by
  cases items with
  | nil => rfl
  | cons j rest =>
    rw [itemLayouts, Layout.itemChars, chars_layout j, itemChars_layouts rest, compactItems]
termination_by sizeOf items

theorem memberChars_layouts (members : List (String × Json)) :
    Layout.memberChars (memberLayouts members) = compactMembers members := by
  match members with
  | [] => rfl
  | (k, j) :: rest =>
    rw [memberLayouts, Layout.memberChars, chars_layout j, memberChars_layouts rest,
      compactMembers]
    rfl
termination_by sizeOf members

end

end Json

namespace Reader

/-- The compact text of a value is read to its draft. -/
theorem read_compact (j : Json) : Draft.read j.compact = ⟨j.draft, false⟩ := by
  have same : j.layout.text = j.compact := by rw [Layout.text, Json.chars_layout, Json.compact]
  rw [← same, read_layout, Json.draft_layout]

end Reader

end RouteLoom
