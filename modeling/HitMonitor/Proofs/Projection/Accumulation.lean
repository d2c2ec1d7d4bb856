import HitMonitor.Proofs.Grid.Addressing
import HitMonitor.Proofs.Projection.Hits

/-!
# Accumulated hits

An accumulator takes calls that count a hit or forget all of them.  Which hits stand after some
calls is read off the calls and the grid alone, and the planes are the projections of exactly these
hits.  Since counts determine a plane, the planes cannot tell in which order the hits came.
-/

namespace HitMonitor

/-! ## Planes and their counts -/

namespace Plane

variable {rows cols : Nat}

/-- A plane is nothing but its counts. -/
theorem ext_count {left right : Plane rows cols}
    (same : ∀ row < rows, ∀ col < cols, left.count row col = right.count row col) :
    left = right := by
  have counts_eq : left.counts = right.counts := by
    apply Array.ext (left.size_counts.trans right.size_counts.symm)
    intro position leftInside rightInside
    have inside : position < rows * cols := left.size_counts ▸ leftInside
    have cols_pos : 0 < cols := Nat.pos_of_ne_zero fun zero => by simp [zero] at inside
    have rowInside : position / cols < rows := Nat.div_lt_of_lt_mul (by rwa [Nat.mul_comm])
    have colInside : position % cols < cols := Nat.mod_lt _ cols_pos
    have count_eq := same _ rowInside _ colInside
    simpa [count, colInside, Nat.div_add_mod', leftInside, rightInside] using count_eq
  cases left
  cases right
  cases counts_eq
  rfl

/-- The rows of a plane have the lengths that its shape asks for. -/
theorem map_length_toRows (plane : Plane rows cols) :
    plane.toRows.map List.length = List.replicate rows cols := by
  simp [toRows, List.map_const', Function.comp_def]

end Plane

namespace Histograms

namespace Counts

/-- Planes that count hits count them in any order. -/
theorem perm {histograms : Histograms} {hits others : List Coordinate}
    (counts : histograms.Counts hits) (same : hits.Perm others) : histograms.Counts others where
  xy cell inside := (counts.xy cell inside).trans (same.countP_eq _)
  zy cell inside := (counts.zy cell inside).trans (same.countP_eq _)
  xz cell inside := (counts.xz cell inside).trans (same.countP_eq _)

/-- The hits determine the planes of a grid. -/
theorem unique {left right : Histograms} {hits : List Coordinate} (leftCounts : left.Counts hits)
    (rightCounts : right.Counts hits) (grid_eq : left.grid = right.grid) : left = right := by
  obtain ⟨grid, leftXy, leftZy, leftXz⟩ := left
  obtain ⟨_, rightXy, rightZy, rightXz⟩ := right
  cases grid_eq
  have xy_eq : leftXy = rightXy := by
    apply Plane.ext_count
    intro y yInside x xInside
    have inside : grid.Contains ⟨x, y, 0⟩ := ⟨xInside, yInside, grid.z_pos⟩
    exact (leftCounts.xy _ inside).trans (rightCounts.xy _ inside).symm
  have zy_eq : leftZy = rightZy := by
    apply Plane.ext_count
    intro y yInside z zInside
    have inside : grid.Contains ⟨0, y, z⟩ := ⟨grid.x_pos, yInside, zInside⟩
    exact (leftCounts.zy _ inside).trans (rightCounts.zy _ inside).symm
  have xz_eq : leftXz = rightXz := by
    apply Plane.ext_count
    intro row rowInside x xInside
    -- The row that the x-z plane keeps for a cell is counted from the far side.
    have inside : grid.Contains ⟨x, 0, grid.z - 1 - row⟩ := by
      refine ⟨xInside, grid.y_pos, ?_⟩
      change grid.z - 1 - row < grid.z
      omega
    have row_eq : grid.z - 1 - (grid.z - 1 - row) = row := by omega
    have count_eq := (leftCounts.xz _ inside).trans (rightCounts.xz _ inside).symm
    simpa only [row_eq] using count_eq
  rw [xy_eq, zy_eq, xz_eq]

end Counts

end Histograms

/-! ## Calls -/

namespace Accumulator

/-- What an accumulator can be asked to do. -/
inductive Call where
  | add (coordinate : Coordinate)
  | addPixel (index : Nat)
  | clear
  deriving DecidableEq, Repr

namespace Call

/-- The cell of the grid in which a call asks for a hit, if there is one. -/
def cell? (grid : Grid) : Call → Option Coordinate
  | .add coordinate => if grid.Contains coordinate then some coordinate else none
  | .addPixel index => (grid.coordinate index).toOption
  | .clear => none

/-- The hits that stand after a call. -/
def extend (grid : Grid) (hits : List Coordinate) : Call → List Coordinate
  | .clear => []
  | call => hits ++ (call.cell? grid).toList

end Call

/-- The hits that stand after some calls: those accepted since the last time all were forgotten. -/
def standing (grid : Grid) (calls : List Call) : List Coordinate :=
  calls.foldl (Call.extend grid) []

/-- What a call returns: the coordinate of the hit it has counted, if it is one that counts. -/
def answer (accumulator : Accumulator) : Call → Except GridError (Option Coordinate)
  | .add coordinate => (accumulator.add coordinate).map fun _ => some coordinate
  | .addPixel index => (accumulator.addPixel index).map fun (coordinate, _) => some coordinate
  | .clear => .ok none

/-- The accumulator after a call.  The owner of one whose call is refused still has the old one. -/
def after (accumulator : Accumulator) : Call → Accumulator
  | .add coordinate => (accumulator.add coordinate).toOption.getD accumulator
  | .addPixel index =>
      ((accumulator.addPixel index).map Prod.snd).toOption.getD accumulator
  | .clear => accumulator.clear

/-- The accumulator after some calls, first one first. -/
def play (accumulator : Accumulator) (calls : List Call) : Accumulator :=
  calls.foldl after accumulator

/-! ## What calls are accepted -/

theorem add_of_contains {accumulator : Accumulator} {coordinate : Coordinate}
    (inside : accumulator.grid.Contains coordinate) :
    accumulator.add coordinate = .ok (accumulator.tally coordinate) := if_pos inside

theorem add_of_not_contains {accumulator : Accumulator} {coordinate : Coordinate}
    (outside : ¬ accumulator.grid.Contains coordinate) :
    accumulator.add coordinate =
      .error (.coordinateOutside coordinate accumulator.grid.toExtents) := if_neg outside

/-- The cell that an index addresses is never refused in its turn. -/
theorem addPixel_of_coordinate {accumulator : Accumulator} {index : Nat} {cell : Coordinate}
    (found : accumulator.grid.coordinate index = .ok cell)
    (inside : accumulator.grid.Contains cell) :
    accumulator.addPixel index = .ok (cell, accumulator.tally cell) := by
  simp only [addPixel, found, add_of_contains inside, bind, Except.bind, pure, Except.pure]

theorem addPixel_of_not_addresses {accumulator : Accumulator} {index : Nat}
    (outside : ¬ accumulator.grid.Addresses index) :
    accumulator.addPixel index = .error (.indexOutOfRange index accumulator.grid.cells) := by
  simp only [addPixel, Grid.coordinate_of_not_addresses outside, bind, Except.bind]

/-- What a call comes to: all hits are forgotten, one is counted in a cell of the grid, or the call
is refused and changes nothing. -/
inductive Effect (accumulator : Accumulator) (call : Call) : Prop where
  | cleared (same : call = .clear)
  | counted (cell : Coordinate) (inside : accumulator.grid.Contains cell)
      (asked : call.cell? accumulator.grid = some cell)
      (answered : accumulator.answer call = .ok (some cell))
      (tallied : accumulator.after call = accumulator.tally cell)
      (extended : ∀ hits, call.extend accumulator.grid hits = hits ++ [cell])
  | refused (error : GridError) (unasked : call.cell? accumulator.grid = none)
      (answered : accumulator.answer call = .error error)
      (unchanged : accumulator.after call = accumulator)
      (unextended : ∀ hits, call.extend accumulator.grid hits = hits)

theorem effect (accumulator : Accumulator) (call : Call) : accumulator.Effect call := by
  cases call with
  | add coordinate =>
      by_cases inside : accumulator.grid.Contains coordinate
      · have added := add_of_contains inside
        apply Effect.counted coordinate inside <;>
          simp [answer, after, added, Call.extend, Call.cell?, inside, Except.map, Except.toOption]
      · have added := add_of_not_contains inside
        apply Effect.refused (.coordinateOutside coordinate accumulator.grid.toExtents) <;>
          simp [answer, after, added, Call.extend, Call.cell?, inside, Except.map, Except.toOption]
  | addPixel index =>
      by_cases inside : accumulator.grid.Addresses index
      · obtain ⟨cell, found, contained⟩ := Grid.coordinate_of_addresses inside
        have added := addPixel_of_coordinate found contained
        apply Effect.counted cell contained <;>
          simp [answer, after, added, Call.extend, Call.cell?, found, Except.map, Except.toOption]
      · have found := Grid.coordinate_of_not_addresses inside
        have added := addPixel_of_not_addresses inside
        apply Effect.refused (.indexOutOfRange index accumulator.grid.cells) <;>
          simp [answer, after, added, Call.extend, Call.cell?, found, Except.map, Except.toOption]
  | clear => exact .cleared rfl

/-- How an accumulator over a grid takes the next call. -/
structure Accepts (accumulator : Accumulator) (grid : Grid) : Prop where
  add_ok : ∀ coordinate,
    (∃ next, accumulator.add coordinate = .ok next) ↔ grid.Contains coordinate
  add_error : ∀ coordinate error, accumulator.add coordinate = .error error →
    error = .coordinateOutside coordinate grid.toExtents
  addPixel_ok : ∀ index,
    (∃ found, accumulator.addPixel index = .ok found) ↔
      1 ≤ index ∧ index ≤ grid.x * grid.y * grid.z
  /-- The coordinate of an index is never the reason of a refusal. -/
  addPixel_error : ∀ index error, accumulator.addPixel index = .error error →
    error = .indexOutOfRange index grid.cells
  /-- The calls that count a hit are those that ask for it in a cell of the grid. -/
  counted : ∀ call cell, accumulator.answer call = .ok (some cell) ↔ call.cell? grid = some cell
  /-- A refused call changes nothing. -/
  unchanged : ∀ call error, accumulator.answer call = .error error →
    accumulator.after call = accumulator

theorem accepts_grid (accumulator : Accumulator) : accumulator.Accepts accumulator.grid where
  add_ok coordinate := by
    by_cases inside : accumulator.grid.Contains coordinate
    · simp [add_of_contains inside, inside]
    · simp [add_of_not_contains inside, inside]
  add_error coordinate error refused := by
    by_cases inside : accumulator.grid.Contains coordinate
    · rw [add_of_contains inside] at refused
      cases refused
    · rw [add_of_not_contains inside] at refused
      cases refused
      rfl
  addPixel_ok index := by
    change _ ↔ accumulator.grid.Addresses index
    by_cases inside : accumulator.grid.Addresses index
    · obtain ⟨cell, found, contained⟩ := Grid.coordinate_of_addresses inside
      simp [addPixel_of_coordinate found contained, inside]
    · simp [addPixel_of_not_addresses inside, inside]
  addPixel_error index error refused := by
    by_cases inside : accumulator.grid.Addresses index
    · obtain ⟨cell, found, contained⟩ := Grid.coordinate_of_addresses inside
      rw [addPixel_of_coordinate found contained] at refused
      cases refused
    · rw [addPixel_of_not_addresses inside] at refused
      cases refused
      rfl
  counted call cell := by
    cases accumulator.effect call with
    | cleared same => simp [same, answer, Call.cell?]
    | counted found _ asked answered => simp [asked, answered]
    | refused error unasked answered => simp [unasked, answered]
  unchanged call error refused := by
    cases accumulator.effect call with
    | cleared same =>
        rw [same] at refused
        cases refused
    | counted cell _ _ answered =>
        rw [answered] at refused
        cases refused
    | refused _ _ _ unchanged => exact unchanged

/-! ## What the planes hold -/

/-- An accumulator over a grid holds exactly some hits. -/
structure Projects (accumulator : Accumulator) (grid : Grid) (hits : List Coordinate) : Prop where
  grid_eq : accumulator.grid = grid
  inside : ∀ hit ∈ hits, grid.Contains hit
  planes : accumulator.histograms.Counts hits
  hits_eq : accumulator.hits = hits.length

theorem projects_empty (grid : Grid) : (empty grid).Projects grid [] where
  grid_eq := rfl
  inside _ member := by cases member
  planes := .zero grid
  hits_eq := rfl

namespace Projects

variable {accumulator : Accumulator} {grid : Grid} {hits : List Coordinate}

theorem tally (projects : accumulator.Projects grid hits) {cell : Coordinate}
    (inside : grid.Contains cell) : (accumulator.tally cell).Projects grid (hits ++ [cell]) where
  grid_eq := projects.grid_eq
  inside hit member := by
    rcases List.mem_append.mp member with before | last
    · exact projects.inside hit before
    · rwa [List.mem_singleton.mp last]
  planes := by
    obtain rfl := projects.grid_eq
    exact projects.planes.tally inside
  hits_eq := by
    rw [List.length_append, ← projects.hits_eq]
    rfl

/-- A call does to the planes what it does to the hits. -/
theorem after (projects : accumulator.Projects grid hits) (call : Call) :
    (accumulator.after call).Projects grid (call.extend grid hits) := by
  obtain rfl := projects.grid_eq
  cases accumulator.effect call with
  | cleared same =>
      rw [same]
      exact projects_empty accumulator.grid
  | counted cell inside _ _ tallied extended =>
      rw [tallied, extended]
      exact projects.tally inside
  | refused _ _ _ unchanged unextended =>
      rw [unchanged, unextended]
      exact projects

theorem play (projects : accumulator.Projects grid hits) (calls : List Call) :
    (accumulator.play calls).Projects grid (calls.foldl (Call.extend grid) hits) := by
  induction calls generalizing accumulator hits with
  | nil => exact projects
  | cons call calls ih => exact ih (projects.after call)

end Projects

/-- Whatever was asked of an accumulator, its planes are the projections of the hits that stand, of
the shapes the grid gives them, and each further call is accepted exactly if it asks for a hit on
the grid.  The order of the hits leaves no trace. -/
theorem planes_project_standing_hits (grid : Grid) :
    (∀ calls, let final := (empty grid).play calls
      final.Projects grid (standing grid calls) ∧ final.Accepts grid ∧
        final.histograms.xy.toRows.map List.length = List.replicate grid.y grid.x ∧
        final.histograms.zy.toRows.map List.length = List.replicate grid.y grid.z ∧
        final.histograms.xz.toRows.map List.length = List.replicate grid.z grid.x) ∧
    ∀ calls others, (standing grid calls).Perm (standing grid others) →
      ((empty grid).play calls).histograms = ((empty grid).play others).histograms := by
  have projects (calls : List Call) :
      ((empty grid).play calls).Projects grid (standing grid calls) :=
    (projects_empty grid).play calls
  constructor
  · intro calls final
    have grid_eq : final.histograms.grid = grid := (projects calls).grid_eq
    have accepts := final.accepts_grid
    rw [(projects calls).grid_eq] at accepts
    refine ⟨projects calls, accepts, ?_, ?_, ?_⟩
    · rw [Plane.map_length_toRows, grid_eq]
    · rw [Plane.map_length_toRows, grid_eq]
    · rw [Plane.map_length_toRows, grid_eq]
  · intro calls others same
    have grid_eq := (projects calls).grid_eq.trans (projects others).grid_eq.symm
    exact ((projects calls).planes.perm same).unique (projects others).planes grid_eq

/-- Two hits in either order, once behind hits that are forgotten and refused calls. -/
theorem planes_project_standing_hits_reordered :
    let grid := Grid.demonstrator
    let calls := [.addPixel 6144, .clear, .add ⟨0, 0, 0⟩, .addPixel 6145, .addPixel 3]
    let others := [.addPixel 3, .add ⟨8, 0, 0⟩, .addPixel 0, .addPixel 1]
    (standing grid calls).Perm (standing grid others) ∧
      ((empty grid).play calls).histograms = ((empty grid).play others).histograms := by
  intro grid calls others
  have same : (standing grid calls).Perm (standing grid others) := by decide
  exact ⟨same, (planes_project_standing_hits grid).2 calls others same⟩

end Accumulator

end HitMonitor
