import EdgeTiling.Proofs.Operations
import EdgeTiling.Proofs.Scheduling

/-! The rule for the next cell names exactly the open cells that no other open cell undercuts. They
are listed once each and in row order, so the first of them is the one with the least place; and the
list is empty only when nothing is left to decide. -/

namespace EdgeTiling

open EdgeTiling.Random (Stream)

namespace Grid

variable {g : Grid} {p q : Position}

structure IsLowest (g : Grid) (p : Position) : Prop where
  inside : g.Inside p
  isOpen : g.isResolved p = false
  least : ∀ q, g.Inside q → g.isResolved q = false → g.domainSize p ≤ g.domainSize q

/-- The place of `p` in row order comes before that of `q`. -/
def Precedes (g : Grid) (p q : Position) : Prop :=
  p.y * g.width + p.x < q.y * g.width + q.x

theorem precedes_position {i j : Nat} : g.Precedes (g.position i) (g.position j) ↔ i < j := by
  simp [Precedes, position, Nat.div_add_mod']

theorem pairwise_positions (g : Grid) : g.positions.Pairwise g.Precedes := by
  rw [positions, List.pairwise_map]
  exact List.pairwise_lt_range.imp precedes_position.mpr

theorem mem_openCells_iff (hv : g.Valid) {n : Nat} : (p, n) ∈ g.openCells ↔
    g.Inside p ∧ g.isResolved p = false ∧ g.domainSize p = n := by
  rw [mem_openCells]
  constructor
  · rintro ⟨i, c, hc, ho, rfl, rfl⟩
    have hcell := hv.cell?_position hc
    refine ⟨inside_of_cell? hcell, (isResolved_of_cell? hcell).mpr ho, ?_⟩
    simp [domainSize, domain?, hcell]
  · rintro ⟨hp, ho, rfl⟩
    obtain ⟨c, hcell⟩ := hv.exists_cell hp
    obtain ⟨i, hi, hc⟩ := Option.bind_eq_some_iff.mp hcell
    refine ⟨i, c, hc, (isResolved_of_cell? hcell).mp ho, position_of_index? hi, ?_⟩
    simp [domainSize, domain?, hcell]

theorem mem_lowestCells_iff (hv : g.Valid) : p ∈ g.lowestCells ↔ g.IsLowest p := by
  rw [mem_lowestCells]
  constructor
  · rintro ⟨n, hmem, hle⟩
    obtain ⟨hp, ho, rfl⟩ := (mem_openCells_iff hv).mp hmem
    refine ⟨hp, ho, fun q hq hoq => ?_⟩
    exact hle (q, g.domainSize q) ((mem_openCells_iff hv).mpr ⟨hq, hoq, rfl⟩)
  · intro h
    refine ⟨g.domainSize p, (mem_openCells_iff hv).mpr ⟨h.inside, h.isOpen, rfl⟩, ?_⟩
    rintro ⟨q, n⟩ hmem
    obtain ⟨hq, hoq, rfl⟩ := (mem_openCells_iff hv).mp hmem
    exact h.least q hq hoq

theorem pairwise_openCells (g : Grid) :
    g.openCells.Pairwise fun x y => g.Precedes x.1 y.1 := by
  have hplaces : g.cells.toList.zipIdx.Pairwise fun x y => x.2 < y.2 := by
    rw [← List.pairwise_map, List.zipIdx_map_snd]
    exact List.pairwise_lt_range'
  refine hplaces.filterMap _ ?_
  rintro ⟨c, i⟩ ⟨c', j⟩ hlt x hx y hy
  obtain ⟨-, hx⟩ := Option.ite_none_right_eq_some.mp hx
  obtain ⟨-, hy⟩ := Option.ite_none_right_eq_some.mp hy
  cases hx
  cases hy
  exact precedes_position.mpr hlt

/-- The pass keeps the cells in the order in which it meets them. -/
theorem pairwise_lowestCells (g : Grid) : g.lowestCells.Pairwise g.Precedes := by
  rw [lowestCells_eq, List.pairwise_map]
  exact g.pairwise_openCells.filter _

theorem eq_or_precedes_of_head? (hp : g.lowestCells.head? = some p) (hq : q ∈ g.lowestCells) :
    q = p ∨ g.Precedes p q := by
  obtain ⟨rest, hcells⟩ := List.head?_eq_some_iff.mp hp
  have hpair := g.pairwise_lowestCells
  rw [hcells] at hpair hq
  rcases List.mem_cons.mp hq with rfl | hrest
  · exact .inl rfl
  · exact .inr ((List.pairwise_cons.mp hpair).1 q hrest)

theorem nodup_lowestCells (g : Grid) : g.lowestCells.Nodup := by
  refine g.pairwise_lowestCells.imp ?_
  rintro p q hpq rfl
  exact Nat.lt_irrefl _ hpq

theorem lowestCells_eq_nil_iff (hv : g.Valid) : g.lowestCells = [] ↔ g.allResolved = true := by
  constructor
  · intro h
    exact allResolved_of_openCells_eq_nil (openCells_of_lowestCells_eq_nil h)
  · intro h
    apply List.eq_nil_iff_forall_not_mem.mpr
    intro p hp
    have hlow := (mem_lowestCells_iff hv).mp hp
    have hres := hv.allResolved_iff.mp h p hlow.inside
    rw [hlow.isOpen] at hres
    contradiction

theorem exists_places (hv : g.Valid) : ∃ places : List Nat,
    places.Pairwise (· < ·) ∧ g.lowestCells.map g.index? = places.map some := by
  refine ⟨g.lowestCells.map fun p => p.y * g.width + p.x, ?_, ?_⟩
  · rw [List.pairwise_map]
    exact g.pairwise_lowestCells
  · rw [List.map_map]
    apply List.map_congr_left
    intro p hp
    exact index?_eq_some.mpr ⟨((mem_lowestCells_iff hv).mp hp).inside, rfl⟩

end Grid

namespace Scheduler

variable {g : Grid}

theorem select_eq_none_iff (how : Selection) (hv : g.Valid) (s : Stream) :
    ((fewest how).select () g s).1 = none ↔ g.allResolved = true := by
  rw [← Grid.lowestCells_eq_nil_iff hv]
  constructor
  · exact lowestCells_of_select_fewest
  · intro h
    cases how <;> simp [fewest, h]

theorem select_of_allResolved (how : Selection) (hv : g.Valid) (h : g.allResolved = true)
    (s : Stream) : (fewest how).select () g s = (none, (), s) := by
  have hnil := (Grid.lowestCells_eq_nil_iff hv).mpr h
  cases how <;> simp [fewest, hnil]

/-- On every grid the listed cells are exactly the open ones with the fewest candidates, each once and
in row order, and there are none exactly if every cell is decided. One strategy takes the first of them
and draws nothing, the other takes some of them; both find none only when all is decided, and then
nothing is drawn either. -/
theorem fewest_exact {width height n : Nat} {full g : Grid} {ops : List Grid.Operation}
    (hfull : Grid.new width height n = .ok full) (hg : full.performAll ops = g) :
    (∀ p, p ∈ g.lowestCells ↔ g.IsLowest p) ∧ g.lowestCells.Nodup ∧
    (∃ places : List Nat, places.Pairwise (· < ·) ∧
      g.lowestCells.map g.index? = places.map some) ∧
    (g.lowestCells = [] ↔ g.allResolved = true) ∧
    ∀ s : Stream,
      (fewest .firstMinimum).select () g s = (g.lowestCells.head?, (), s) ∧
      (g.allResolved = false → ∃ p ∈ g.lowestCells,
        ((fewest .randomLowest).select () g s).1 = some p) ∧
      ∀ how, (((fewest how).select () g s).1 = none ↔ g.allResolved = true) ∧
        (g.allResolved = true → ((fewest how).select () g s).2.2 = s) := by
  have hv : g.Valid := hg ▸ Grid.valid_performAll (Grid.valid_new hfull) ops
  refine ⟨fun p => Grid.mem_lowestCells_iff hv, g.nodup_lowestCells, Grid.exists_places hv,
    Grid.lowestCells_eq_nil_iff hv, fun s => ⟨rfl, fun hopen => ?_, fun how => ⟨?_, fun hall => ?_⟩⟩⟩
  · have hsome := mt (select_eq_none_iff .randomLowest hv s).mp (by simp [hopen])
    obtain ⟨p, hp⟩ := Option.ne_none_iff_exists'.mp hsome
    exact ⟨p, mem_of_select_fewest hp, hp⟩
  · exact select_eq_none_iff how hv s
  · rw [select_of_allResolved how hv hall]

/-- Calls that decide the first cell of a square and leave the other three with three, two and two
candidates. -/
def uneven : List Grid.Operation :=
  [.collapse ⟨0, 0⟩ 2, .restrict ⟨0, 1⟩ ⟨[true, true, false]⟩, .restrict ⟨1, 1⟩ ⟨[false, true, true]⟩]

/-- The decided cell is passed over, and the first open one is dropped for the two after it. Whatever
the stream, one strategy takes the left of them and the other either. -/
theorem fewest_exact_uneven : ∃ full g, Grid.new 2 2 3 = .ok full ∧ full.performAll uneven = g ∧
    g.lowestCells = [⟨0, 1⟩, ⟨1, 1⟩] ∧ g.IsLowest ⟨1, 1⟩ ∧ ¬ g.IsLowest ⟨0, 0⟩ ∧
    ∀ s, (fewest .firstMinimum).select () g s = (some ⟨0, 1⟩, (), s) ∧
      ∃ p ∈ ([⟨0, 1⟩, ⟨1, 1⟩] : List Position),
        ((fewest .randomLowest).select () g s).1 = some p := by
  obtain ⟨full, g, hfull, hg, hcells, hopen⟩ : ∃ full g, Grid.new 2 2 3 = .ok full ∧
      full.performAll uneven = g ∧ g.lowestCells = [⟨0, 1⟩, ⟨1, 1⟩] ∧ g.allResolved = false :=
    ⟨_, _, rfl, rfl, by decide +kernel, by decide +kernel⟩
  obtain ⟨hmem, -, -, -, hselect⟩ := fewest_exact hfull hg
  rw [hcells] at hmem hselect
  refine ⟨full, g, hfull, hg, hcells, (hmem _).mp (by decide), mt (hmem _).mpr (by decide), ?_⟩
  intro s
  obtain ⟨hfirst, hrandom, -⟩ := hselect s
  exact ⟨hfirst, hrandom hopen⟩

end Scheduler

end EdgeTiling
