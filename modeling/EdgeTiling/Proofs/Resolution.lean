import EdgeTiling.Proofs.Consistency
import EdgeTiling.Proofs.Scheduling

/-! A solve that ends resolved has tiled its grid: every cell is decided, facing edges carry the same
label, and every given restriction is met. Nothing checks the finished grid; it is so because
every step kept the grid arc consistent. -/

namespace EdgeTiling

namespace Engine

variable {σ : Type} {ts : TileSet} {scheduler : Scheduler σ} {agenda : σ} {width height : Nat}
  {given : List Given} {now : Solve σ Unit}

/-- With a faithful scheduler a solve is resolved only when no cell is open. -/
theorem allResolved_step (hsch : scheduler.Faithful) {s : Solve σ Unit} (hc : Coherent ts s)
    (h : s.status = .resolved → s.grid.allResolved = true)
    (hr : ((flooding ts scheduler agenda).step s).solve.status = .resolved) :
    ((flooding ts scheduler agenda).step s).solve.grid.allResolved = true := by
  have hm := step_move (flooding ts scheduler agenda) s
  generalize ((flooding ts scheduler agenda).step s).result = r at hm
  generalize ((flooding ts scheduler agenda).step s).solve = s' at hm hr ⊢
  cases hm with
  | finished => exact h hr
  | exhausted _ hsel => exact hsch.allResolved _ _ _ hc.valid (congrArg Prod.fst hsel)
  | undrawn hs => simp [hs] at hr
  | refused hs => simp [hs] at hr
  | blocked => contradiction
  | broken => contradiction
  | advanced _ _ _ _ _ _ hstatus =>
    simp only [decided, hstatus] at hr
    split at hr
    · next hall => exact hall
    · contradiction

theorem allResolved_of_reaches (hsch : scheduler.Faithful)
    (h : (flooding ts scheduler agenda).Reaches width height given now)
    (hr : now.status = .resolved) : now.grid.allResolved = true := by
  refine h.invariant (P := fun s => s.status = .resolved → s.grid.allResolved = true) ?_ ?_ hr
  · intro s hs hr
    cases hs <;> simp_all
  · intro s hreach hs hr
    exact allResolved_step hsch (coherent_of_reaches hreach) hs hr

theorem given_of_opening {σ π : Type} {e : Engine σ π} {s : Solve σ π}
    (h : Opening e width height given s) (hno : ∀ q, s.status ≠ .contradiction q) {p : Position}
    {tiles : List TileId} (hx : (p, tiles) ∈ given) :
    s.grid.Inside p ∧ ∀ t, s.grid.Admits p t → t ∈ tiles := by
  cases h with
  | emptied _ _ hs => exact absurd hs (hno _)
  | blocked _ _ _ _ _ hs => exact absurd hs (hno _)
  | @ready full g pass _ hfull happ hpass _ hgrid =>
    obtain ⟨hin, hall⟩ := admits_applyGiven happ (Grid.chosen?_new hfull) hx
    have hnar : g.Narrows s.grid := hgrid ▸ narrows_pass hpass
    have hshape := hnar.shape_eq.trans (narrows_applyGiven happ).shape_eq
    exact ⟨(Grid.inside_of_shape hshape p).mpr hin, fun t ht => hall t (hnar.admits ht)⟩

theorem given_of_reaches {σ π : Type} {e : Engine σ π} {now : Solve σ π}
    (h : e.Reaches width height given now) (hno : ∀ q, now.status ≠ .contradiction q)
    {p : Position} {tiles : List TileId} (hx : (p, tiles) ∈ given) :
    now.grid.Inside p ∧ ∀ t, now.grid.Admits p t → t ∈ tiles := by
  refine h.invariant (P := fun s => (∀ q, s.status ≠ .contradiction q) →
    s.grid.Inside p ∧ ∀ t, s.grid.Admits p t → t ∈ tiles) ?_ ?_ hno
  · intro s hs hno
    exact given_of_opening hs hno hx
  · intro s _ hs hno
    -- a contradiction stays, so there was none before the step
    have hno' : ∀ q, s.status ≠ .contradiction q := by
      intro q hq
      rw [step_of_isTerminal (by simp [hq])] at hno
      exact hno q hq
    have hshr := shrinks_step e s
    obtain ⟨hin, hall⟩ := hs hno'
    exact ⟨(Grid.inside_of_shape hshr.shape p).mpr hin, fun t ht => hall t (hshr.admits p t ht)⟩

/-- A solve that ends resolved has tiled the whole grid within the given restrictions, if its
scheduler never overlooks an open cell; choosing among the cells with the fewest candidates is
such a scheduler. -/
theorem tiled_of_resolved : (∀ how, (Scheduler.fewest how).Faithful) ∧
    ∀ {σ : Type} {ts : TileSet} {scheduler : Scheduler σ} {agenda : σ} {width height : Nat}
      {given : List Given} {now : Solve σ Unit}, scheduler.Faithful →
      (flooding ts scheduler agenda).Reaches width height given now → now.status = .resolved →
      (∀ p : Position, p.x < width → p.y < height → ∃ t, now.grid.chosen? p = some t) ∧
      (∀ p q d, now.grid.Inside p → (q, d) ∈ now.grid.neighbors p →
        ∃ a b tileA tileB, now.grid.chosen? p = some a ∧ now.grid.chosen? q = some b ∧
          ts.get? a = some tileA ∧ ts.get? b = some tileB ∧
          tileA.edge d = tileB.edge d.opposite) ∧
      (∀ p tiles, (p, tiles) ∈ given → ∃ t ∈ tiles, now.grid.chosen? p = some t) := by
  refine ⟨Scheduler.faithful_fewest, ?_⟩
  intro σ ts scheduler agenda width height given now hsch h hr
  have hc := coherent_of_reaches h
  have hall := hc.valid.allResolved_iff.mp (allResolved_of_reaches hsch h hr)
  have hchosen : ∀ p, now.grid.Inside p → ∃ t, now.grid.chosen? p = some t :=
    fun p hp => Option.isSome_iff_exists.mp (hall p hp)
  refine ⟨fun p hx hy => ?_, fun p q d hp hq => ?_, fun p tiles hx => ?_⟩
  · exact hchosen p ((Grid.inside_iff_of_shape h.shape_eq).mpr ⟨hx, hy⟩)
  · obtain ⟨a, ha⟩ := hchosen p hp
    obtain ⟨b, hb⟩ := hchosen q (Grid.inside_of_mem_neighbors hq)
    obtain ⟨tileA, tileB, hA, hB, heq⟩ :=
      TileSet.compatible_iff.mp (hc.agrees p q d a b hq ha hb)
    exact ⟨a, b, tileA, tileB, ha, hb, hA, hB, heq⟩
  · obtain ⟨hp, hmem⟩ := given_of_reaches h (by simp [hr]) hx
    obtain ⟨t, ht⟩ := hchosen p hp
    exact ⟨t, hmem t ((hc.valid.admits_iff_of_chosen? ht t).mpr rfl), ht⟩

/-- The couple fills a row of two. -/
theorem tiled_of_resolved_couple : ∃ now,
    (standard .couple .firstMinimum).Reaches 2 1 [(⟨0, 0⟩, [0, 1])] now ∧
      now.status = .resolved ∧
      (∀ p : Position, p.x < 2 → p.y < 1 → ∃ t, now.grid.chosen? p = some t) ∧
      (∃ a b tileA tileB, now.grid.chosen? ⟨0, 0⟩ = some a ∧ now.grid.chosen? ⟨1, 0⟩ = some b ∧
        TileSet.couple.get? a = some tileA ∧ TileSet.couple.get? b = some tileB ∧
        tileA.edge .right = tileB.edge .left) ∧
      (∃ t ∈ [0, 1], now.grid.chosen? ⟨0, 0⟩ = some t) := by
  obtain ⟨now, h, hr⟩ : ∃ now,
      (standard .couple .firstMinimum).Reaches 2 1 [(⟨0, 0⟩, [0, 1])] now ∧
        now.status = .resolved :=
    exists_reaches 5 [.step, .step] (by decide +kernel)
  obtain ⟨hall, hedges, hgiven⟩ := tiled_of_resolved.2 (tiled_of_resolved.1 _) h hr
  have hinside : ∀ x < 2, now.grid.Inside ⟨x, 0⟩ :=
    fun x hx => (Grid.inside_iff_of_shape h.shape_eq).mpr ⟨hx, Nat.one_pos⟩
  have hnext := Grid.mem_neighbors.mpr
    ⟨(rfl : (⟨0, 0⟩ : Position).step .right = some ⟨1, 0⟩), hinside 1 (by decide)⟩
  exact ⟨now, h, hr, hall, hedges _ _ _ (hinside 0 (by decide)) hnext,
    hgiven _ _ List.mem_cons_self⟩

end Engine

end EdgeTiling
