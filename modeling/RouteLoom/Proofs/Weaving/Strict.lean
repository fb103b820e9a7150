import RouteLoom.Proofs.Weaving.InsertionPoints

/-!
# Weaving under the strict policy

An interceptor without a marker is refused under the strict policy, so every layer of a weave has
one, also where the weave fails later on. Then nothing is dropped, and construction can go on in
every layer.
-/

namespace RouteLoom.Weaver

variable {ι : Type} [Interceptor ι] {w : Weaver}

theorem marker_ne_none_of_reject (strict : w.options.missingProceed = .reject) (r : Route)
    (is : List ι) {l : Layer} (hl : l ∈ (w.run r is).report.layers) : l.marker ≠ none := by
  obtain ⟨k, hk⟩ := List.getElem?_of_mem hl
  obtain ⟨p, hp, rfl⟩ := w.exists_applied r is hk
  obtain ⟨i, -, accepted⟩ := accepted_of_applied hp
  rw [Interceptor.marker_seam]
  exact fun none => (accept_eq_ok_iff.mp accepted).2 ⟨strict, none⟩

theorem dropped_run_of_reject (strict : w.options.missingProceed = .reject) (r : Route)
    (is : List ι) : (w.run r is).report.dropped = 0 := by
  rw [Report.dropped, ← List.sum_eq_foldr, List.sum_eq_zero_iff_forall_eq_nat]
  intro d hd
  obtain ⟨l, hl, rfl⟩ := List.mem_map.mp hd
  have marked := marker_ne_none_of_reject strict r is hl
  obtain ⟨k, hk⟩ := List.getElem?_of_mem hl
  obtain ⟨p, -, rfl⟩ := w.exists_applied r is hk
  rw [Interceptor.dropped_seam, if_neg marked]

theorem size_points_run_of_reject (strict : w.options.missingProceed = .reject) (r : Route)
    (is : List ι) : (w.run r is).report.points.size = (w.run r is).report.layers.length := by
  have points := length_bottomUp_of_marked fun l hl => marker_ne_none_of_reject strict r is hl
  rwa [InsertionPoints.bottomUp, List.length_reverse] at points

end RouteLoom.Weaver
