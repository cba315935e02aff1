import Hostwatch.Agent
import Hostwatch.Proofs.Measure.Point

/-!
# The points that agents report

Every agent makes its points by setting tags and fields, so their tables are in order.
-/

namespace Hostwatch

variable {point : Point}

/-- One point for the last reading. -/
theorem Point.tidy_of_last {α : Type} {make : α × Timestamp → Point}
    {last : Option (α × Timestamp)} (tidy : ∀ value time, (make (value, time)).Tidy)
    (member : point ∈ (last.map make).toList) : point.Tidy := by
  obtain ⟨reading, -, rfl⟩ := Option.mem_map.mp (Option.mem_toList.mp member)
  exact tidy reading.1 reading.2

/-- One point for each entity. -/
theorem Point.tidy_of_rates {sample : Sample} {make : String × Counters → Point}
    (tidy : ∀ entity rates, (make (entity, rates)).Tidy) (member : point ∈ sample.map make) :
    point.Tidy := by
  obtain ⟨entry, -, rfl⟩ := List.mem_map.mp member
  exact tidy entry.1 entry.2

namespace Agent

/-- The tables of a point that an agent reports are in order. -/
theorem tidy_points {a : Agent} {ps : List Point} (given : a.points = some ps)
    (reported : point ∈ ps) : point.Tidy := by
  cases a with
  | cpu h =>
      cases given
      simp only [Cpu.points] at reported
      split at reported
      · cases reported
      · have core (index : String) (rates : Counters) (time : Timestamp) :
            ((({ name := "cpu", time } : Point).tag "core" index).numbers rates).Tidy :=
          (Point.tidy_start ..).tag .. |>.numbers ..
        split at reported
        · exact Point.tidy_of_rates (fun _ _ => core ..) reported
        · rcases List.mem_append.mp reported with ofCore | ofKernel
          · exact Point.tidy_of_rates (fun _ _ => core ..) ofCore
          · rw [List.mem_singleton.mp ofKernel]
            exact (Point.tidy_start ..).numbers .. |>.numbers ..
  | disk h =>
      cases given
      simp only [Disk.points] at reported
      split at reported
      · cases reported
      · refine Point.tidy_of_rates (fun device rates => ?_) reported
        exact (Point.tidy_start ..).tag .. |>.numbers .. |>.numbers ..
  | network h =>
      cases given
      simp only [Network.points] at reported
      split at reported
      · cases reported
      · refine Point.tidy_of_rates (fun interface rates => ?_) reported
        exact (Point.tidy_start ..).tag .. |>.numbers ..
  | diskUsage p last =>
      cases last with
      | none =>
          cases given
          cases reported
      | some reading =>
          obtain ⟨whole, -, rfl⟩ := Option.map_eq_some_iff.mp given
          rw [List.mem_singleton.mp reported]
          exact (Point.tidy_start ..).tag .. |>.number .. |>.number .. |>.number .. |>.number ..
            |>.number .. |>.number .. |>.number .. |>.number ..
  | dns p last =>
      cases given
      refine Point.tidy_of_last (fun answer time => ?_) reported
      exact (Point.tidy_start ..).tag .. |>.tag .. |>.tag .. |>.number .. |>.number .. |>.number ..
  | load last =>
      cases given
      refine Point.tidy_of_last (fun report time => ?_) reported
      exact (Point.tidy_start ..).number .. |>.number .. |>.number .. |>.number .. |>.number ..
  | memory last =>
      cases given
      refine Point.tidy_of_last (fun values time => ?_) reported
      exact (Point.tidy_start ..).numbers .. |>.number .. |>.number .. |>.number ..
  | mysql p h =>
      cases given
      refine Point.tidy_of_last (fun report time => ?_) reported
      exact (Point.tidy_start ..).numbers .. |>.numbers ..
  | nginx p h =>
      cases given
      refine Point.tidy_of_last (fun page time => ?_) reported
      exact (Point.tidy_start ..).numbers .. |>.numbers ..
  | phpFpm p h =>
      cases given
      refine Point.tidy_of_last (fun page time => ?_) reported
      obtain ⟨pool, counters, gauges⟩ := page
      cases pool with
      | none => exact (Point.tidy_start ..).numbers .. |>.numbers ..
      | some pool => exact (Point.tidy_start ..).numbers .. |>.numbers .. |>.tag ..
  | ping p last =>
      cases given
      refine Point.tidy_of_last (fun values time => ?_) reported
      exact (Point.tidy_start ..).tag .. |>.numbers ..
  | sockets last =>
      cases given
      refine Point.tidy_of_last (fun values time => ?_) reported
      exact (Point.tidy_start ..).numbers ..
  | tcpPort p last =>
      cases given
      refine Point.tidy_of_last (fun outcome time => ?_) reported
      cases outcome with
      | none => exact (Point.tidy_start ..).tag .. |>.field ..
      | some latency => exact (Point.tidy_start ..).tag .. |>.field .. |>.number ..

end Agent

end Hostwatch
