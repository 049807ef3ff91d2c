import EdgeTiling.Proofs.Confluence
import EdgeTiling.Proofs.Operations

/-! What a pass computes. Among all ways to leave every cell candidates of its own that its neighbours
support there is a greatest one, if there is one at all. A pass arrives at it, and finds a
contradiction exactly if there is none. The grid in which it finds one shows it: no cell is empty, and
a cell and its neighbour have nothing left that goes together. -/

namespace EdgeTiling

namespace Domain

instance : HasSubset Domain := ⟨fun D E => ∀ t, D.has t = true → E.has t = true⟩

instance (D E : Domain) : Decidable (D ⊆ E) :=
  decidable_of_iff (∀ t ∈ D.tiles, E.has t = true) (by
    simp only [mem_tiles]
    rfl)

end Domain

namespace Grid

def domainAt (g : Grid) (p : Position) : Domain := (g.domain? p).getD (.empty g.tileCount)

/-- A set of candidates for each cell, as a narrowing of `g` may leave them: none is empty, decided
cells keep what they have, and at an open cell there is only what the set of each neighbour supports. -/
structure Consistent (ts : TileSet) (g : Grid) (E : Position → Domain) : Prop where
  inhabited : ∀ p, g.Inside p → ∃ t, (E p).has t = true
  within : ∀ p, g.Inside p → E p ⊆ g.domainAt p
  decided : ∀ p, g.isResolved p = true → g.domainAt p ⊆ E p
  supported : ∀ p q d, g.Inside p → (q, d) ∈ g.neighbors p → g.isResolved q = false →
    E q ⊆ ts.supported (E p) d

/-- The seeds cover what may lack support: the neighbours of every other cell are supported by it. -/
def Covered (ts : TileSet) (g : Grid) (seeds : List Position) : Prop :=
  ∀ p q d, g.Inside p → p ∉ seeds → (q, d) ∈ g.neighbors p → g.isResolved q = false →
    g.domainAt q ⊆ ts.supported (g.domainAt p) d

instance (ts : TileSet) (g : Grid) (seeds : List Position) : Decidable (g.Covered ts seeds) :=
  decidable_of_iff (∀ x < g.width, ∀ y < g.height, ⟨x, y⟩ ∉ seeds → ∀ near ∈ g.neighbors ⟨x, y⟩,
      g.isResolved near.1 = false → g.domainAt near.1 ⊆ ts.supported (g.domainAt ⟨x, y⟩) near.2)
    ⟨fun h p q d hp hs hq ho => h p.x hp.1 p.y hp.2 hs (q, d) hq ho,
      fun h x hx y hy hs near hnear ho => h ⟨x, y⟩ near.1 near.2 ⟨hx, hy⟩ hs hnear ho⟩

structure Blocks (ts : TileSet) (g : Grid) (p q : Position) (d : Direction) : Prop where
  inside : g.Inside p
  near : (q, d) ∈ g.neighbors p
  clash : ∀ a ∈ (g.domainAt p).tiles, ∀ b ∈ (g.domainAt q).tiles, ts.compatible a b d = false

variable {ts : TileSet} {g : Grid} {seeds : List Position} {E : Position → Domain} {p q : Position}
  {d : Direction} {t : TileId}

theorem has_domainAt : (g.domainAt p).has t = true ↔ g.Admits p t := by
  unfold domainAt Admits
  cases g.domain? p with
  | none => simp [Domain.has_empty]
  | some D => simp

theorem Valid.domainSize_pos (hv : g.Valid) (hp : g.Inside p) : 0 < g.domainSize p := by
  obtain ⟨c, hc⟩ := hv.exists_cell hp
  have hsize : g.domainSize p = c.domain.size := by simp [domainSize, domain?, hc]
  rw [hsize]
  exact Domain.size_pos_iff.mpr (hv.cell hc).inhabited

/-- Getting stuck shows in the grid, where the restriction that failed has changed nothing. -/
theorem Stuck.blocks {e : PropagationError} (h : g.Stuck ts e) (hv : g.Valid)
    (hn : g.tileCount = ts.size) :
    ∃ q, e = .contradiction q ∧ g.isResolved q = false ∧ ∃ p d, g.Blocks ts p q d := by
  obtain ⟨p, q, d, he, hp, hq, ho, hclash⟩ := h.contradiction hv hn
  refine ⟨q, he, ho, p, d, hp, hq, ?_⟩
  intro a ha b hb
  rw [Domain.mem_tiles, has_domainAt] at ha hb
  exact hclash a b ha hb

theorem subset_supported_iff (E : Position → Domain) (p q : Position) (d : Direction) :
    E q ⊆ ts.supported (E p) d ↔ ts.Supports (fun p t => (E p).has t = true) p q d := by
  constructor
  · intro h t ht
    exact TileSet.has_supported.mp (h t ht)
  · intro h t ht
    exact TileSet.has_supported.mpr (h t ht)

theorem Covered.closedOff (h : g.Covered ts seeds) : ts.ClosedOff g seeds := by
  intro p q d hp hs hq ho
  have hsub := (subset_supported_iff g.domainAt p q d).mp (h p q d hp hs hq ho)
  simpa only [TileSet.Supports, has_domainAt] using hsub

namespace Consistent

theorem closed (h : g.Consistent ts E) : ts.Closed g fun p t => (E p).has t = true :=
  fun p q d hp hq ho => (subset_supported_iff E p q d).mp (h.supported p q d hp hq ho)

theorem holds (h : g.Consistent ts E) : g.Holds fun p t => (E p).has t = true :=
  fun p t hp ht => has_domainAt.mp (h.within p hp t ht)

end Consistent

end Grid

section Passes

variable {ts : TileSet} {g : Grid} {seeds : List Position} {E : Position → Domain}

/-- Where there is a consistent choice of candidates, a pass goes through and loses none of them. -/
theorem propagate_of_consistent (hv : g.Valid) (hn : g.tileCount = ts.size)
    (hE : g.Consistent ts E) (seeds : List Position) :
    (propagate ts g seeds).failure = none ∧
      ∀ p, g.Inside p → E p ⊆ (propagate ts g seeds).grid.domainAt p := by
  obtain ⟨hholds, hf⟩ := holds_propagate hv hn hE.closed hE.holds hE.inhabited seeds
  refine ⟨hf, fun p hp t ht => Grid.has_domainAt.mpr (hholds p t ?_ ht)⟩
  exact (Grid.inside_of_shape (narrows_propagate ts g seeds).shape_eq p).mpr hp

theorem consistent_propagate (hv : g.Valid) (hc : ts.ClosedOff g seeds)
    (hf : (propagate ts g seeds).failure = none) :
    g.Consistent ts (propagate ts g seeds).grid.domainAt := by
  have hnar := narrows_propagate ts g seeds
  have hv' := hnar.valid hv
  constructor
  · intro p hp
    obtain ⟨t, ht⟩ := hv'.exists_admits ((Grid.inside_of_shape hnar.shape_eq p).mpr hp)
    exact ⟨t, Grid.has_domainAt.mpr ht⟩
  · intro p _ t ht
    exact Grid.has_domainAt.mpr (hnar.admits (Grid.has_domainAt.mp ht))
  · intro p hp t ht
    obtain ⟨u, hu⟩ := Option.isSome_iff_exists.mp hp
    have hu' := (hnar.chosen?_eq p).trans hu
    rw [Grid.has_domainAt, hv.admits_iff_of_chosen? hu] at ht
    rwa [Grid.has_domainAt, hv'.admits_iff_of_chosen? hu']
  · intro p q d hp hq ho
    rw [Grid.subset_supported_iff]
    simpa only [Grid.has_domainAt] using closed_propagate hv hc hf p q d hp hq ho

end Passes

/-- Take a grid as any restrictions and decisions leave it, and seeds that cover what may lack support.
A pass from them goes through exactly if there is a consistent choice of candidates, and then it leaves
the greatest one; otherwise it finds a contradiction. Any other seeds that cover what may lack support,
such as the same in another order, lead to the same outcome. -/
theorem propagate_greatest {width height n : Nat} {full g : Grid} {ops : List Grid.Operation}
    {ts : TileSet} {seeds : List Position} (hfull : Grid.new width height n = .ok full)
    (hg : full.performAll ops = g) (hn : g.tileCount = ts.size) (hseeds : g.Covered ts seeds) :
    ((∃ narrowed, (propagate ts g seeds).result = .ok narrowed) ↔ ∃ E, g.Consistent ts E) ∧
    (∀ narrowed, (propagate ts g seeds).result = .ok narrowed →
      g.Consistent ts (propagate ts g seeds).grid.domainAt ∧
        ∀ E, g.Consistent ts E →
          ∀ p, g.Inside p → E p ⊆ (propagate ts g seeds).grid.domainAt p) ∧
    (∀ e, (propagate ts g seeds).result = .error e → ∃ q, e = .contradiction q) ∧
    ∀ seeds', g.Covered ts seeds' →
      (propagate ts g seeds).SameOutcome (propagate ts g seeds') := by
  have hv : g.Valid := hg ▸ Grid.valid_performAll (Grid.valid_new hfull) ops
  have hc := hseeds.closedOff
  refine ⟨⟨?_, ?_⟩, fun narrowed h => ⟨?_, fun E hE => ?_⟩, fun e h => ?_, fun seeds' hseeds' => ?_⟩
  · rintro ⟨narrowed, h⟩
    exact ⟨_, consistent_propagate hv hc (Pass.failure_of_result_ok h)⟩
  · rintro ⟨E, hE⟩
    exact ⟨_, Pass.result_of_none (propagate_of_consistent hv hn hE seeds).1⟩
  · exact consistent_propagate hv hc (Pass.failure_of_result_ok h)
  · exact (propagate_of_consistent hv hn hE seeds).2
  · exact contradiction_of_propagate hv hn (Pass.failure_of_result_error h)
  · exact sameOutcome_propagate hv hn hc hseeds'.closedOff

/-- A row whose near end is decided for the dark tile and whose far end must not be light. -/
def Grid.darkRow : Grid :=
  ⟨3, 1, 2, #[⟨.only 2 1, some 1⟩, ⟨.full 2, none⟩, ⟨.only 2 1, none⟩]⟩

/-- Seeds that name the near end twice, and a place outside the grid, leave the middle dark. -/
theorem propagate_greatest_plains : ∃ full, Grid.new 3 1 2 = .ok full ∧
    full.performAll [.restrict ⟨2, 0⟩ (.only 2 1), .collapse ⟨0, 0⟩ 1] = .darkRow ∧
      Grid.darkRow.Covered .plains [⟨9, 9⟩, ⟨2, 0⟩, ⟨0, 0⟩, ⟨0, 0⟩] ∧
      (∃ E, Grid.darkRow.Consistent .plains E) ∧
      ∀ E, Grid.darkRow.Consistent .plains E → E ⟨1, 0⟩ ⊆ .only 2 1 := by
  obtain ⟨full, hfull, hg⟩ : ∃ full, Grid.new 3 1 2 = .ok full ∧
      full.performAll [.restrict ⟨2, 0⟩ (.only 2 1), .collapse ⟨0, 0⟩ 1] = .darkRow :=
    ⟨_, rfl, by decide +kernel⟩
  have hcover : Grid.darkRow.Covered .plains [⟨9, 9⟩, ⟨2, 0⟩, ⟨0, 0⟩, ⟨0, 0⟩] := by decide +kernel
  have hresult : (propagate .plains .darkRow [⟨9, 9⟩, ⟨2, 0⟩, ⟨0, 0⟩, ⟨0, 0⟩]).result =
      .ok [⟨1, 0⟩] := by decide +kernel
  have hmiddle : (propagate .plains .darkRow [⟨9, 9⟩, ⟨2, 0⟩, ⟨0, 0⟩, ⟨0, 0⟩]).grid.domainAt ⟨1, 0⟩ =
      .only 2 1 := by decide +kernel
  obtain ⟨hiff, hgreatest, -, -⟩ := propagate_greatest hfull hg rfl hcover
  refine ⟨full, hfull, hg, hcover, hiff.mp ⟨_, hresult⟩, fun E hE => ?_⟩
  rw [← hmiddle]
  exact (hgreatest _ hresult).2 E hE ⟨1, 0⟩ (by decide)

/-- Take a grid as any restrictions and decisions leave it, and any seeds. If a pass from them finds a
contradiction at `q`, the grid that it leaves shows why: `q` is an open cell of it and has candidates,
but none of them goes with one of a certain neighbour. All other cells have candidates too, and none
that they did not have before. -/
theorem contradiction_shows {width height n : Nat} {full g left : Grid} {ops : List Grid.Operation}
    {ts : TileSet} {seeds already : List Position} {q : Position}
    (hfull : Grid.new width height n = .ok full) (hg : full.performAll ops = g)
    (hn : g.tileCount = ts.size) (hleft : (propagateInto ts g seeds already).grid = left)
    (h : (propagateInto ts g seeds already).result = .error (.contradiction q)) :
    (left.Inside q ∧ left.isResolved q = false ∧ 0 < left.domainSize q) ∧
    (∃ p d, left.Blocks ts p q d) ∧
    ∀ r, g.Inside r → 0 < left.domainSize r ∧ left.domainAt r ⊆ g.domainAt r := by
  have hv : g.Valid := hg ▸ Grid.valid_performAll (Grid.valid_new hfull) ops
  have hnar : g.Narrows left := hleft ▸ narrows_propagate ts g seeds
  have hv' := hnar.valid hv
  have hn' : left.tileCount = ts.size := by
    rw [(Grid.shape_eq_iff.mp hnar.shape_eq).2.2, hn]
  have hstuck : left.Stuck ts (.contradiction q) :=
    hleft ▸ stuck_flood (Pass.failure_of_result_error h)
  obtain ⟨q', heq, ho, p, d, hblocks⟩ := hstuck.blocks hv' hn'
  obtain rfl : q = q' := by simpa using heq
  have hq := Grid.inside_of_mem_neighbors hblocks.near
  refine ⟨⟨hq, ho, hv'.domainSize_pos hq⟩, ⟨p, d, hblocks⟩, fun r hr => ⟨?_, ?_⟩⟩
  · exact hv'.domainSize_pos ((Grid.inside_of_shape hnar.shape_eq r).mpr hr)
  · intro t ht
    rw [Grid.has_domainAt] at ht ⊢
    exact hnar.admits ht

/-- A row whose ends are decided differently. -/
def Grid.splitRow : Grid :=
  ⟨4, 1, 2, #[⟨.only 2 0, some 0⟩, ⟨.full 2, none⟩, ⟨.full 2, none⟩, ⟨.only 2 1, some 1⟩]⟩

/-- The pass narrows both cells between the ends, and then has nothing that fits at the second. -/
theorem contradiction_shows_plains : ∃ full left, Grid.new 4 1 2 = .ok full ∧
    full.performAll [.collapse ⟨0, 0⟩ 0, .collapse ⟨3, 0⟩ 1] = .splitRow ∧
    (propagateInto .plains .splitRow [⟨0, 0⟩, ⟨9, 9⟩, ⟨3, 0⟩] [⟨5, 5⟩]).grid = left ∧
    (propagateInto .plains .splitRow [⟨0, 0⟩, ⟨9, 9⟩, ⟨3, 0⟩] [⟨5, 5⟩]).result =
      .error (.contradiction ⟨2, 0⟩) ∧
    (left.domainAt ⟨1, 0⟩, left.domainAt ⟨2, 0⟩) = (.only 2 0, .only 2 1) ∧
    (∃ p d, left.Blocks .plains p ⟨2, 0⟩ d) ∧
    left.domainAt ⟨1, 0⟩ ⊆ Grid.splitRow.domainAt ⟨1, 0⟩ := by
  obtain ⟨full, left, hfull, hg, hleft, h, hcells⟩ : ∃ full left, Grid.new 4 1 2 = .ok full ∧
      full.performAll [.collapse ⟨0, 0⟩ 0, .collapse ⟨3, 0⟩ 1] = .splitRow ∧
      (propagateInto .plains .splitRow [⟨0, 0⟩, ⟨9, 9⟩, ⟨3, 0⟩] [⟨5, 5⟩]).grid = left ∧
      (propagateInto .plains .splitRow [⟨0, 0⟩, ⟨9, 9⟩, ⟨3, 0⟩] [⟨5, 5⟩]).result =
        .error (.contradiction ⟨2, 0⟩) ∧
      (left.domainAt ⟨1, 0⟩, left.domainAt ⟨2, 0⟩) = (.only 2 0, .only 2 1) :=
    ⟨_, _, rfl, by decide +kernel, rfl, by decide +kernel, by decide +kernel⟩
  obtain ⟨-, hblocks, hcand⟩ := contradiction_shows hfull hg rfl hleft h
  exact ⟨full, left, hfull, hg, hleft, h, hcells, hblocks, (hcand _ (by decide)).2⟩

end EdgeTiling
