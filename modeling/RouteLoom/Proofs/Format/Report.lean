import RouteLoom.Format.Event
import RouteLoom.Format.Report
import RouteLoom.Proofs.Json.Record

/-!
# Reading reports and events back

Addresses are lists of numbers and insertion points are lists of addresses. A layer writes `null` for
a marker that it does not have. An event is known by the key of its only member.
-/

namespace RouteLoom

open Record

/-! ### Addresses and insertion points -/

theorem Address.binds_toJson (a : Address) : Address.binder.Binds a.toJson a :=
  Binder.binds_list fun i _ => Binder.binds_natural "usize" i

theorem InsertionPoints.ofBottomUp_bottomUp (p : InsertionPoints) : ofBottomUp p.bottomUp = p := by
  rw [ofBottomUp, bottomUp, List.reverse_reverse]

theorem InsertionPoints.binds_toJson (p : InsertionPoints) :
    InsertionPoints.binder.Binds p.toJson p := by
  intro place fits
  have addresses : (Binder.list Address.binder).Binds p.toJson p.bottomUp :=
    Binder.binds_list fun a _ => Address.binds_toJson a
  rw [InsertionPoints.binder, addresses place fits]
  exact congrArg Except.ok p.ofBottomUp_bottomUp

/-! ### Layers and reports -/

theorem Binder.binds_ofOption {α : Type} {bind : Binder α} {write : α → Json} (o : Option α)
    (binds : ∀ a, bind.Binds (write a) a) (present : ∀ a, write a ≠ .null) :
    (Binder.optional bind).Binds (Json.ofOption write o) o := by
  cases o with
  | none => exact Binder.binds_null bind
  | some a => exact (binds a).some (present a)

theorem Layer.binds_toJson (l : Layer) : Layer.binder.Binds l.toJson l := by
  have marker : (Binder.optional Address.binder).Binds (Json.ofOption Address.toJson l.marker)
      l.marker := Binder.binds_ofOption l.marker Address.binds_toJson fun _ => nofun
  exact Gathers.binds (((((gathers_field rfl (Binder.binds_text l.intercept)).map Layer.mk).seq
    (gathers_field rfl marker)).seq (gathers_field rfl (Binder.binds_natural "usize" l.wrapped))).seq
    (gathers_field rfl (Binder.binds_natural "usize" l.dropped))) (by simp)

theorem Report.binds_toJson (r : Report) : Report.binder.Binds r.toJson r := by
  have layers : (Binder.list Layer.binder).Binds (.array (r.layers.map Layer.toJson)) r.layers :=
    Binder.binds_list fun l _ => Layer.binds_toJson l
  exact Gathers.binds (((((gathers_field rfl (Binder.binds_text r.route)).map Report.mk).seq
    (gathers_field rfl (Binder.binds_natural "usize" r.clauses))).seq
    (gathers_field rfl layers)).seq (gathers_field rfl r.points.binds_toJson)) (by simp [Report.members])

/-! ### Events -/

theorem Binder.binds_partsVariant {α : Type} {variants : List (String × Binder α)} {name : String}
    {bind : Binder α} {ms : List (String × Json)} {a : α} (found : variants.lookup name = some bind)
    (binds : bind.Binds (.object ms) a) :
    (Binder.partsVariant variants).Binds (.object [(name, .object ms)]) a := by
  rintro ⟨medium, levels⟩ fits
  obtain ⟨inner, rfl, inside⟩ := Json.fits_object_iff.mp fits
  have variant : Binder.variant variants name = .ok bind := by rw [Binder.variant, found]
  have bound : Binder.parts bind ⟨medium, inner⟩ (Json.object ms).draft = .ok a := by
    have here := binds ⟨medium, inner⟩ (inside _ List.mem_cons_self)
    cases medium <;> exact here
  refine bind_eq_ok_iff.mpr ⟨⟨medium, inner⟩, rfl, ?_⟩
  have known : (do
      let bind ← Binder.variant variants name
      Binder.parts bind ⟨medium, inner⟩ (Json.object ms).draft) = .ok a :=
    bind_eq_ok_iff.mpr ⟨bind, variant, bound⟩
  cases medium <;> exact bind_eq_ok_iff.mpr ⟨name, rfl, known⟩

theorem Event.nodup_members (e : Event) : (e.members.map Prod.fst).Nodup := by
  cases e <;> simp [members]

theorem Event.binds_toJson (e : Event) : Event.binder.Binds e.toJson e := by
  have nodup := e.nodup_members
  have text (s : String) := Binder.binds_text s
  have count (n : Nat) := Binder.binds_natural "usize" n
  cases e with
  | started context routes intercepts =>
    refine Binder.binds_partsVariant rfl (Gathers.binds ?_ nodup)
    exact (((gathers_field rfl (text context)).map started).seq
      (gathers_field rfl (count routes))).seq (gathers_field rfl (count intercepts))
  | applied route intercept wrapped =>
    refine Binder.binds_partsVariant rfl (Gathers.binds ?_ nodup)
    exact (((gathers_field rfl (text route)).map applied).seq
      (gathers_field rfl (text intercept))).seq (gathers_field rfl (count wrapped))
  | dropped route intercept number =>
    refine Binder.binds_partsVariant rfl (Gathers.binds ?_ nodup)
    exact (((gathers_field rfl (text route)).map dropped).seq
      (gathers_field rfl (text intercept))).seq (gathers_field rfl (count number))
  | woven route clauses layers =>
    refine Binder.binds_partsVariant rfl (Gathers.binds ?_ nodup)
    exact (((gathers_field rfl (text route)).map woven).seq
      (gathers_field rfl (count clauses))).seq (gathers_field rfl (count layers))
  | failed route message =>
    refine Binder.binds_partsVariant rfl (Gathers.binds ?_ nodup)
    exact ((gathers_field rfl (text route)).map failed).seq (gathers_field rfl (text message))
  | completed context routes =>
    refine Binder.binds_partsVariant rfl (Gathers.binds ?_ nodup)
    exact ((gathers_field rfl (text context)).map completed).seq (gathers_field rfl (count routes))

end RouteLoom
