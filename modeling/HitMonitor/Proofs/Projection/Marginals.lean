import HitMonitor.Proofs.Monitor.Windows
import HitMonitor.Proofs.Projection.Accumulation
import HitMonitor.Proofs.Projection.Highest
import HitMonitor.Proofs.Projection.Sums
import Mathlib.Algebra.Group.Action.Defs
import Mathlib.Algebra.Order.BigOperators.Group.List
import Mathlib.Algebra.Order.Group.Nat
import Mathlib.Tactic.TFAE

/-!
# Planes that agree

Any two planes share an axis of the grid.  What a position on that axis adds up to, as a row or as a
column, is the number of hits there, and so it is the same in both planes.  For this reason each
plane adds up to all hits, and what is asked of all planes can be answered from one of them.
-/

namespace HitMonitor

namespace Plane

variable {rows cols : Nat} (plane : Plane rows cols)

/-! ## Sums of counts -/

/-- The sum of the counts of a row. -/
def rowSum (row : Nat) : Nat := ((List.range cols).map (plane.count row)).sum

/-- The sum of the counts of a column. -/
def colSum (col : Nat) : Nat := ((List.range rows).map fun row => plane.count row col).sum

theorem total_eq_sum : plane.total = plane.counts.toList.sum := by
  rw [total, ← Array.foldl_toList, List.sum_eq_foldl_nat]

/-- The positions of a rectangle that is stored row by row, all at once or one row after the other. -/
theorem sum_range_mul (number : Nat → Nat) :
    ((List.range (rows * cols)).map number).sum =
      sumOver rows cols fun row col => number (row * cols + col) := by
  induction rows with
  | zero => simp [sumOver]
  | succ rows ih =>
      rw [Nat.succ_mul, List.range_add, List.map_append, List.sum_append, List.map_map, ih]
      simp only [sumOver, List.range_succ, List.map_append, List.sum_append, List.map_singleton,
        List.sum_singleton]
      rfl

/-- What is stored row by row adds up like the rows and columns that are read from it. -/
theorem total_eq_sumOver : plane.total = sumOver rows cols plane.count := by
  have stored : plane.counts.toList =
      (List.range (rows * cols)).map fun position => plane.counts[position]?.getD 0 := by
    apply List.ext_getElem
    · simp [plane.size_counts]
    · intro position inside _
      rw [Array.length_toList] at inside
      simp [inside]
  rw [total_eq_sum, stored, sum_range_mul]
  apply sumOver_congr
  intro row _ col colInside
  simp only [count, colInside, if_true]

/-! ## Bounds of the sum -/

theorem highest_le_total : plane.highest ≤ plane.total := by
  rw [total_eq_sum, highest, ← Array.foldl_toList]
  rcases foldl_max_mem plane.counts.toList 0 with nothing | stored
  · rw [nothing]
    exact Nat.zero_le _
  · exact List.single_le_sum (fun _ _ => Nat.zero_le _) _ stored

theorem total_le : plane.total ≤ plane.highest * (rows * cols) := by
  have sum_le := List.sum_le_card_nsmul _ _ fun _ stored => plane.le_highest stored
  rwa [← total_eq_sum, Array.length_toList, plane.size_counts, smul_eq_mul, Nat.mul_comm] at sum_le

theorem total_eq_zero_iff :
    plane.total = 0 ↔ ∀ row < rows, ∀ col < cols, plane.count row col = 0 := by
  rw [total_eq_sum, List.sum_eq_zero_iff_forall_eq_nat]
  constructor
  · intro blank row rowInside col colInside
    exact blank _ ((plane.mem_counts_iff _).mpr ⟨row, rowInside, col, colInside, rfl⟩)
  · intro blank count stored
    obtain ⟨row, rowInside, col, colInside, rfl⟩ := (plane.mem_counts_iff _).mp stored
    exact blank row rowInside col colInside

theorem isZero_iff : plane.isZero = true ↔ plane.total = 0 := by
  rw [total_eq_sum, List.sum_eq_zero_iff_forall_eq_nat, isZero, ← Array.all_toList,
    List.all_eq_true]
  simp only [beq_iff_eq]

end Plane

namespace Histograms

variable {histograms : Histograms}

/-! ## Positions on an axis -/

/-- Planes that add up to the same wherever they share a position on an axis, and each of them to
all hits. -/
structure Agree (histograms : Histograms) (hits : Nat) : Prop where
  along_y : ∀ y < histograms.grid.y, histograms.xy.rowSum y = histograms.zy.rowSum y
  along_x : ∀ x < histograms.grid.x, histograms.xy.colSum x = histograms.xz.colSum x
  /-- The far side of the detector is the first row of the x-z plane. -/
  along_z : ∀ z < histograms.grid.z,
    histograms.zy.colSum z = histograms.xz.rowSum (histograms.grid.z - 1 - z)
  totals : ∀ projection, (histograms.plane projection).total = hits

namespace Counts

variable {hits : List Coordinate}

/-- A row adds up to the hits that are counted in it. -/
theorem rowSum_plane (counts : histograms.Counts hits)
    (contained : ∀ hit ∈ hits, histograms.grid.Contains hit) (projection : Projection) {row : Nat}
    (rowInside : row < projection.rows histograms.grid.toExtents) :
    (histograms.plane projection).rowSum row =
      hits.countP fun hit => projection.row histograms.grid.toExtents hit = row := by
  rw [Plane.rowSum, List.map_congr_left fun col member =>
    counts.count_plane contained projection rowInside (List.mem_range.mp member)]
  exact sum_range_countP (fun hit member => (projection.inside (contained hit member)).2)
    fun hit => projection.row histograms.grid.toExtents hit = row

/-- A column adds up to the hits that are counted in it. -/
theorem colSum_plane (counts : histograms.Counts hits)
    (contained : ∀ hit ∈ hits, histograms.grid.Contains hit) (projection : Projection) {col : Nat}
    (colInside : col < projection.cols histograms.grid.toExtents) :
    (histograms.plane projection).colSum col =
      hits.countP fun hit => projection.col hit = col := by
  rw [Plane.colSum, List.map_congr_left fun row member =>
    counts.count_plane contained projection (List.mem_range.mp member) colInside]
  simp only [and_comm (b := projection.col _ = col)]
  exact sum_range_countP (fun hit member => (projection.inside (contained hit member)).1)
    fun hit => projection.col hit = col

theorem total_plane (counts : histograms.Counts hits)
    (contained : ∀ hit ∈ hits, histograms.grid.Contains hit) (projection : Projection) :
    (histograms.plane projection).total = hits.length := by
  rw [Plane.total_eq_sumOver]
  exact counts.sumOver_plane contained projection

theorem agree (counts : histograms.Counts hits)
    (contained : ∀ hit ∈ hits, histograms.grid.Contains hit) : histograms.Agree hits.length where
  along_y y yInside :=
    (counts.rowSum_plane contained .xy yInside).trans
      (counts.rowSum_plane contained .zy yInside).symm
  along_x x xInside :=
    (counts.colSum_plane contained .xy xInside).trans
      (counts.colSum_plane contained .xz xInside).symm
  along_z z zInside := by
    have reversedInside : histograms.grid.z - 1 - z < histograms.grid.z := by omega
    refine (counts.colSum_plane contained .zy zInside).trans (Eq.trans ?_
      (counts.rowSum_plane contained .xz reversedInside).symm)
    refine List.countP_congr fun hit member => ?_
    have hitInside : hit.z < histograms.grid.z := (contained hit member).2.2
    rw [decide_eq_true_iff, decide_eq_true_iff]
    change hit.z = z ↔ histograms.grid.z - 1 - hit.z = histograms.grid.z - 1 - z
    omega
  totals := counts.total_plane contained

end Counts

/-! ## Questions to one plane -/

/-- The largest count is that of the three planes. -/
theorem highest_le_iff {bound : Nat} :
    histograms.highest ≤ bound ↔ ∀ projection, (histograms.plane projection).highest ≤ bound := by
  rw [highest, Nat.max_le, Nat.max_le]
  constructor
  · rintro ⟨xy, zy, xz⟩ projection
    cases projection with
    | xy => exact xy
    | zy => exact zy
    | xz => exact xz
  · intro bounded
    exact ⟨bounded .xy, bounded .zy, bounded .xz⟩

/-- What is found out about the x-y plane holds of all planes. -/
structure Representative (histograms : Histograms) (hits : Nat) : Prop where
  total_eq : histograms.total = hits
  empty : List.TFAE [
    histograms.isEmpty = true,
    ∀ projection : Projection, ∀ row < projection.rows histograms.grid.toExtents,
      ∀ col < projection.cols histograms.grid.toExtents,
        (histograms.plane projection).count row col = 0,
    hits = 0,
    histograms.highest = 0]
  highest_le : histograms.highest ≤ histograms.total
  /-- The plane with the fewest cells bounds the number of hits best. -/
  total_le : histograms.total ≤ histograms.highest *
    min (histograms.grid.y * histograms.grid.x)
      (min (histograms.grid.y * histograms.grid.z) (histograms.grid.z * histograms.grid.x))

/-- Nothing but the sums of the planes is needed to look at one plane only. -/
theorem Agree.representative {hits : Nat} (agree : histograms.Agree hits) :
    histograms.Representative hits := by
  have total_eq : histograms.total = hits := agree.totals .xy
  have highest_le : histograms.highest ≤ histograms.total := by
    rw [highest_le_iff]
    intro projection
    rw [total_eq, ← agree.totals projection]
    exact (histograms.plane projection).highest_le_total
  have total_le (projection : Projection) : histograms.total ≤ histograms.highest *
      (projection.rows histograms.grid.toExtents * projection.cols histograms.grid.toExtents) := by
    rw [total_eq, ← agree.totals projection]
    exact Nat.le_trans (histograms.plane projection).total_le
      (Nat.mul_le_mul_right _ (highest_le_iff.mp (Nat.le_refl _) projection))
  constructor
  case total_eq => exact total_eq
  case empty =>
    tfae_have 1 ↔ 3 := by
      rw [← total_eq]
      exact histograms.xy.isZero_iff
    tfae_have 3 → 2 := by
      rintro rfl projection
      exact (histograms.plane projection).total_eq_zero_iff.mp (agree.totals projection)
    tfae_have 2 → 3 := by
      intro blank
      rw [← agree.totals .xy]
      exact (histograms.plane .xy).total_eq_zero_iff.mpr (blank .xy)
    tfae_have 3 → 4 := by
      rintro rfl
      exact Nat.le_zero.mp (total_eq ▸ highest_le)
    tfae_have 4 → 3 := by
      intro none_higher
      have bound := total_le .xy
      rw [none_higher, Nat.zero_mul, total_eq] at bound
      exact Nat.le_zero.mp bound
    tfae_finish
  case highest_le => exact highest_le
  case total_le =>
    rw [← Nat.mul_min_mul_left, ← Nat.mul_min_mul_left]
    exact Nat.le_min.mpr ⟨total_le .xy, Nat.le_min.mpr ⟨total_le .zy, total_le .xz⟩⟩

end Histograms

/-! ## Accumulators and snapshots -/

theorem Accumulator.Projects.agree {accumulator : Accumulator} {grid : Grid}
    {hits : List Coordinate} (projects : accumulator.Projects grid hits) :
    accumulator.histograms.Agree accumulator.hits := by
  obtain ⟨rfl, inside, planes, hits_eq⟩ := projects
  rw [hits_eq]
  exact planes.agree inside

theorem Snapshot.Summarizes.agree {snapshot : Snapshot} {settings : MonitorSettings}
    {block : List (List UInt8)} (summarizes : snapshot.Summarizes settings block) :
    snapshot.histograms.Agree snapshot.hits := by
  rw [summarizes.hits, ← settings.grid.length_hits]
  refine summarizes.planes.agree fun hit member => ?_
  rw [summarizes.grid]
  exact Grid.contains_of_mem_hits member

namespace Histograms

/-- Whatever was asked of an accumulator and whatever a monitor went through, the planes of the
accumulator and of each snapshot that was handed over agree on the hits: where two planes share a
position they add up to the same there, each plane adds up to all hits, and so the total, the
emptiness and the bounds that are read off one plane are those of all three. -/
theorem planes_agree_on_hits :
    (∀ (grid : Grid) (calls : List Accumulator.Call),
      let final := (Accumulator.empty grid).play calls
      final.histograms.grid = grid ∧ final.histograms.Agree final.hits ∧
        final.histograms.Representative final.hits) ∧
    ∀ (settings : MonitorSettings) (cycle : WindowCycle), WindowCycle.new settings = .ok cycle →
      ∀ (Sunk : Type) (sunk : Sunk) (events : List (CycleEvent Sunk)),
        ∀ emission ∈ (Session.play { cycle := cycle, sink := sunk } events).emissions,
          let snapshot := emission.snapshot
          snapshot.histograms.grid = settings.grid ∧ snapshot.histograms.Agree snapshot.hits ∧
            snapshot.histograms.Representative snapshot.hits := by
  constructor
  · intro grid calls final
    have projects := (Accumulator.projects_empty grid).play calls
    exact ⟨projects.grid_eq, projects.agree, projects.agree.representative⟩
  · intro settings cycle accepted Sunk sunk events emission emitted snapshot
    obtain ⟨valid, rfl⟩ := WindowCycle.new_eq_ok_iff.mp accepted
    obtain ⟨_, _, covers, _⟩ := (Session.covers_fresh valid sunk).play events
    obtain ⟨_, summarizes⟩ := covers.closed.exists_summarizes emitted
    exact ⟨summarizes.grid, summarizes.agree, summarizes.agree.representative⟩

/-- A window that is flushed after two hits and a record outside the grid. -/
theorem planes_agree_on_hits_flushed :
    let settings := { MonitorSettings.standard with
      grid := ⟨⟨1, 2, 2⟩, by decide, by decide, by decide, by decide⟩
      layout := ⟨2, 0⟩, recordsExpected := none }
    let events : List (CycleEvent (List Snapshot)) :=
      [.message [4, 0, 9, 0, 2, 0] Sink.collecting, .flush Sink.collecting]
    let emissions := (Session.play { cycle := .fresh settings, sink := [] } events).emissions
    WindowCycle.new settings = .ok (.fresh settings) ∧
      ∃ emission ∈ emissions, emission.snapshot.hits = 2 ∧
        emission.snapshot.histograms.Agree 2 ∧ emission.snapshot.histograms.Representative 2 := by
  intro settings events emissions
  have accepted : WindowCycle.new settings = .ok (.fresh settings) := rfl
  have handed : ∃ emission ∈ emissions, emission.snapshot.hits = 2 := by decide
  obtain ⟨emission, emitted, hits⟩ := handed
  obtain ⟨_, agree, representative⟩ :=
    planes_agree_on_hits.2 settings _ accepted (List Snapshot) [] events emission emitted
  rw [hits] at agree representative
  exact ⟨accepted, emission, emitted, hits, agree, representative⟩

end Histograms

end HitMonitor
