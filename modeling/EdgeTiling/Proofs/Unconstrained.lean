import EdgeTiling.Proofs.Confluence
import EdgeTiling.Proofs.Counting
import EdgeTiling.Proofs.FewestCandidates
import EdgeTiling.Proofs.FirstChanges
import EdgeTiling.Proofs.History

/-! Tile sets in which any two tiles fit. Over such a set a pass has nothing to take away, so a solve
decides one cell after another, and the cells still open have all candidates throughout. Every draw is
then among all tiles: each of them succeeds and a run decides every cell, or none does. Open cells
have equally many candidates, so to take the first of them is to fill the grid in row order. -/

namespace EdgeTiling

open EdgeTiling.Random (Weighted)

namespace TileSet

def Unconstrained (ts : TileSet) : Prop :=
  ∀ a < ts.size, ∀ b < ts.size, ∀ d, ts.compatible a b d = true

instance (ts : TileSet) : Decidable ts.Unconstrained :=
  decidable_of_iff
    (∀ a < ts.size, ∀ b < ts.size, ∀ d ∈ Direction.all, ts.compatible a b d = true)
    (by simp [Unconstrained])

theorem Unconstrained.closed {ts : TileSet} {g : Grid} (h : ts.Unconstrained) (hv : g.Valid)
    (hn : g.tileCount = ts.size) : ts.Closed g g.Admits := by
  intro p q d hp _ _ b hb
  obtain ⟨a, ha⟩ := hv.exists_admits hp
  have hknown : ∀ {r t}, g.Admits r t → t < ts.size := fun ht => hn ▸ hv.lt_tileCount ht
  exact ⟨a, ha, h a (hknown ha) b (hknown hb) d⟩

end TileSet

theorem propagate_of_unconstrained {ts : TileSet} {g : Grid} (h : ts.Unconstrained) (hv : g.Valid)
    (hn : g.tileCount = ts.size) (seeds : List Position) :
    (propagate ts g seeds).grid = g ∧ (propagate ts g seeds).failure = none ∧
      (propagate ts g seeds).narrowed = [] := by
  have hnar := narrows_propagate ts g seeds
  obtain ⟨hback, hf⟩ := shrinks_propagate hv hn hv (.refl g) (h.closed hv hn) seeds
  have hgrid : (propagate ts g seeds).grid = g := hback.antisymm hnar.shrinks (hnar.valid hv) hv
  refine ⟨hgrid, hf, List.eq_nil_iff_forall_not_mem.mpr ?_⟩
  intro p hp
  have hchanged := ((records_propagate ts g seeds).mem_iff p).mp hp
  rw [hgrid] at hchanged
  exact hchanged rfl

namespace Grid

variable {g g' : Grid} {p : Position} {tile : TileId}

def Untouched (g : Grid) : Prop :=
  ∀ p, g.Inside p → g.isResolved p = false → g.domain? p = some (.full g.tileCount)

theorem domain?_new {width height n : Nat} (h : Grid.new width height n = .ok g)
    (hp : g.Inside p) : g.domain? p = some (.full n) := by
  obtain ⟨c, hc⟩ := (valid_new h).exists_cell hp
  simp [domain?, hc, cell?_new h hc]

theorem untouched_new {width height n : Nat} (h : Grid.new width height n = .ok g) :
    g.Untouched := by
  have hn : g.tileCount = n := congrArg (·.2.2) (shape_new h)
  intro p hp _
  rw [domain?_new h hp, hn]

theorem positions_collapse (h : g.collapse p tile = .ok g') : g'.positions = g.positions := by
  obtain ⟨i, c, -, -, -, rfl⟩ := collapse_eq_ok h
  simp [positions, size, position]

theorem Untouched.collapse (h : g.Untouched) (hc : g.collapse p tile = .ok g') :
    g'.Untouched := by
  have hshape := shape_collapse hc
  intro q hq ho
  have hqp : q ≠ p := by
    rintro rfl
    simp [isResolved, chosen?_collapse hc] at ho
  have hcell := cell?_collapse_of_ne hc hqp
  rw [isResolved, chosen?, hcell] at ho
  rw [domain?, hcell, (shape_eq_iff.mp hshape).2.2]
  exact h q ((inside_of_shape hshape q).mp hq) ho

theorem Untouched.isLowest (h : g.Untouched) (hp : g.Inside p) (ho : g.isResolved p = false) :
    g.IsLowest p := by
  refine ⟨hp, ho, fun q hq hoq => ?_⟩
  rw [domainSize, domainSize, h p hp ho, h q hq hoq]

/-- If the decided cells are the first ones in row order, the first cell with the fewest candidates
is the next one. -/
theorem Untouched.prefix_concat {cells : List Position} (h : g.Untouched) (hv : g.Valid)
    (hpre : cells <+: g.positions) (hcells : ∀ q, q ∈ cells ↔ g.isResolved q = true)
    (hp : g.lowestCells.head? = some p) : cells ++ [p] <+: g.positions := by
  obtain ⟨rest, hrest⟩ := hpre
  have hlow := (mem_lowestCells_iff hv).mp (List.mem_of_mem_head? hp)
  have hpair := g.pairwise_positions
  rw [← hrest, List.pairwise_append] at hpair
  obtain ⟨-, hordered, hbefore⟩ := hpair
  have hmem : p ∈ rest := by
    have hall := hv.mem_positions.mpr hlow.inside
    rw [← hrest, List.mem_append, hcells, hlow.isOpen] at hall
    simpa using hall
  cases rest with
  | nil => contradiction
  | cons q later =>
    have hq : g.Inside q := by
      rw [← hv.mem_positions, ← hrest]
      simp
    -- a decided `q` would stand before itself
    have ho : g.isResolved q = false := by
      by_contra hres
      have hself := hbefore q ((hcells q).mpr (by simpa using hres)) q List.mem_cons_self
      exact Nat.lt_irrefl _ hself
    have hqlow := (mem_lowestCells_iff hv).mpr (h.isLowest hq ho)
    have hqp : q = p := by
      rcases eq_or_precedes_of_head? hp hqlow with heq | hpq
      · exact heq
      · rcases List.mem_cons.mp hmem with heq | hlater
        · exact heq.symm
        · exact absurd ((List.pairwise_cons.mp hordered).1 p hlater) (Nat.lt_asymm hpq)
    subst hqp
    exact ⟨later, by simpa using hrest⟩

end Grid

namespace Engine

section Floods

variable {σ : Type} {ts : TileSet} {scheduler : Scheduler σ} {agenda : σ} {width height : Nat}
  {s now : Solve σ Unit}

structure Undisturbed (s : Solve σ Unit) : Prop where
  noContradiction : ∀ q, s.status ≠ .contradiction q
  untouched : s.grid.Untouched

theorem propagate_of_collapse (hfree : ts.Unconstrained) (hc : Coherent ts s) {p : Position}
    {tile : TileId} {g : Grid} (hplace : s.grid.collapse p tile = .ok g) :
    (propagate ts g [p]).grid = g ∧ (propagate ts g [p]).failure = none ∧
      (propagate ts g [p]).narrowed = [] := by
  have hn := (congrArg (·.2.2) (Grid.shape_collapse hplace)).trans hc.tileCount
  exact propagate_of_unconstrained hfree (Grid.valid_collapse hc.valid hplace) hn [p]

/-- A step leaves the grid and the history as they are, or decides the cell that the scheduler names
and changes no other. -/
theorem kept_or_decided (hfree : ts.Unconstrained) (scheduler : Scheduler σ) (agenda : σ)
    (hc : Coherent ts s) :
    (((flooding ts scheduler agenda).step s).solve.grid = s.grid ∧
      ((flooding ts scheduler agenda).step s).solve.history = s.history) ∨
    ∃ p tile agenda' stream,
      scheduler.select s.agenda s.grid s.stream = (some p, agenda', stream) ∧
      s.grid.collapse p tile = .ok ((flooding ts scheduler agenda).step s).solve.grid ∧
      ((flooding ts scheduler agenda).step s).solve.history = s.history ++ [⟨p, tile⟩] := by
  rcases kept_or_flooded ts scheduler agenda s with
    ⟨hgrid, hhist, -⟩ | ⟨p, tile, g, agenda', stream, hsel, hplace, hgrid, hhist, -⟩
  · exact .inl ⟨hgrid, hhist⟩
  · rw [(propagate_of_collapse hfree hc hplace).1] at hgrid
    exact .inr ⟨p, tile, agenda', stream, hsel, hgrid ▸ hplace, hhist⟩

theorem contradiction_of_step (hfree : ts.Unconstrained) (hc : Coherent ts s) {q : Position}
    (hq : ((flooding ts scheduler agenda).step s).solve.status = .contradiction q) :
    s.status = .contradiction q := by
  rcases kept_or_flooded ts scheduler agenda s with
    ⟨-, -, hstatus⟩ | ⟨p, tile, g, _, _, -, hplace, -, -, hstatus⟩
  · exact hstatus q hq
  · have hf := hstatus q hq
    rw [(propagate_of_collapse hfree hc hplace).2.1] at hf
    contradiction

theorem narrowed_of_unconstrained (hfree : ts.Unconstrained) (hc : Coherent ts s) {r : Report}
    (hr : ((flooding ts scheduler agenda).step s).result = .ok r) : r.narrowed = [] := by
  obtain ⟨-, ⟨rfl, -⟩ | ⟨p, tile, g, hplace, -, hnarrowed, -⟩⟩ := report_of_step hr
  · rfl
  · rw [hnarrowed]
    exact (propagate_of_collapse hfree hc hplace).2.2

theorem opening_of_unconstrained (hfree : ts.Unconstrained) {full : Grid}
    (hfull : Grid.new width height ts.size = .ok full)
    (h : Opening (flooding ts scheduler agenda) width height [] s) :
    s.status = .inProgress ∧ s.grid = full := by
  obtain ⟨hgrid, hf, -⟩ := propagate_of_unconstrained hfree (Grid.valid_new hfull)
    (congrArg (·.2.2) (Grid.shape_new hfull)) full.positions
  obtain ⟨hs, hleft⟩ := ready_of_opening h hfull hf
  exact ⟨hs, hleft.trans hgrid⟩

theorem Undisturbed.step (hfree : ts.Unconstrained) (hc : Coherent ts s) (h : Undisturbed s) :
    Undisturbed ((flooding ts scheduler agenda).step s).solve := by
  constructor
  · intro q hq
    exact h.noContradiction q (contradiction_of_step hfree hc hq)
  · rcases kept_or_decided hfree scheduler agenda hc with
      ⟨hgrid, -⟩ | ⟨p, tile, agenda', stream, -, hplace, -⟩
    · rw [hgrid]
      exact h.untouched
    · exact h.untouched.collapse hplace

theorem undisturbed_of_reaches (hfree : ts.Unconstrained)
    (h : (flooding ts scheduler agenda).Reaches width height [] now) : Undisturbed now := by
  refine h.invariant ?_ ?_
  · intro s hs
    obtain ⟨full, hfull, -⟩ := hs.narrows
    obtain ⟨hstatus, rfl⟩ := opening_of_unconstrained hfree hfull hs
    exact ⟨by simp [hstatus], Grid.untouched_new hfull⟩
  · intro s hreach hs
    exact hs.step hfree (coherent_of_reaches hreach)

/-- Every step draws among all tiles, so it fails exactly if their weights have no finite total. -/
theorem step_fails_iff (hfree : ts.Unconstrained) (hsch : scheduler.Faithful)
    (h : (flooding ts scheduler agenda).Reaches width height [] now)
    (hs : now.status = .inProgress) :
    ((flooding ts scheduler agenda).step now).result = .error (.weights .infiniteTotal) ↔
      (Weighted.total ts.weights).isFinite = false := by
  have hc := coherent_of_reaches h
  obtain ⟨p, agenda', stream, hsel, hp, ho⟩ := exists_select_of_inProgress hsch h hs
  have hweights : weightsAt ts now.grid p = ts.weights := by
    apply weightsAt_of_forall_admits hc.valid hc.tileCount hp
    intro t ht
    rw [← hc.tileCount] at ht
    exact ⟨_, (undisturbed_of_reaches hfree h).untouched p hp ho, Domain.has_full.mpr ht⟩
  have hiff : (∃ cause, ((flooding ts scheduler agenda).step now).result =
      .error (.weights cause)) ↔ (Weighted.total (weightsAt ts now.grid p)).isFinite = false :=
    step_weights_iff hc.valid hc.tileCount hs hsel hp
  rw [← hweights, ← hiff]
  constructor
  · intro hr
    exact ⟨_, hr⟩
  · rintro ⟨cause, hr⟩
    rcases step_decides hsch h hs with ⟨r, c, hok, -⟩ | hinf
    · cases hok.symm.trans hr
    · exact hinf

theorem inProgress_of_infinite (hfree : ts.Unconstrained) (hsch : scheduler.Faithful)
    (hinf : (Weighted.total ts.weights).isFinite = false)
    (h : (flooding ts scheduler agenda).Reaches width height [] now) :
    now.status = .inProgress := by
  refine h.invariant (P := fun s => s.status = .inProgress) ?_ ?_
  · intro s hs
    obtain ⟨full, hfull, -⟩ := hs.narrows
    exact (opening_of_unconstrained hfree hfull hs).1
  · intro s hreach hs
    have hm := step_move (flooding ts scheduler agenda) s
    rw [(step_fails_iff hfree hsch hreach hs).mpr hinf] at hm
    generalize ((flooding ts scheduler agenda).step s).solve = s' at hm ⊢
    cases hm with
    | undrawn => exact hs

theorem run_fails_of_infinite (hfree : ts.Unconstrained) (hsch : scheduler.Faithful)
    (hinf : (Weighted.total ts.weights).isFinite = false)
    (h : (flooding ts scheduler agenda).Reaches width height [] now) :
    ((flooding ts scheduler agenda).run now).result = .error (.weights .infiniteTotal) := by
  rcases run_ends hsch h with ⟨status, -, hterm, hstatus, -⟩ | hfail
  · have hlater : ((flooding ts scheduler agenda).run now).solve.status = .inProgress :=
      inProgress_of_infinite hfree hsch hinf (h.answer .run)
    rw [← hstatus, hlater] at hterm
    contradiction
  · exact hfail

theorem steps_of_finite (hsch : scheduler.Faithful)
    (hfin : (Weighted.total ts.weights).isFinite = true)
    (h : (flooding ts scheduler agenda).Reaches width height [] now) :
    now.steps = now.history.length :=
  steps_eq_length_history (e := flooding ts scheduler agenda) hsch.isOpen hfin h

theorem run_ne_error_of_finite (hsch : scheduler.Faithful)
    (hfin : (Weighted.total ts.weights).isFinite = true)
    (h : (flooding ts scheduler agenda).Reaches width height [] now) :
    ((flooding ts scheduler agenda).run now).result ≠ .error (.weights .infiniteTotal) := by
  intro hfail
  have hcount := steps_run (flooding ts scheduler agenda) now
  have hbefore := steps_of_finite hsch hfin h
  have hafter : ((flooding ts scheduler agenda).run now).solve.steps =
      ((flooding ts scheduler agenda).run now).solve.history.length :=
    steps_of_finite hsch hfin (h.answer .run)
  -- the failed step would have been counted without a decision
  have hmiss : misses (cause? ((flooding ts scheduler agenda).run now).result).toList = 1 := by
    rw [hfail]
    rfl
  omega

theorem run_resolves_of_finite (hfree : ts.Unconstrained) (hsch : scheduler.Faithful)
    (hfin : (Weighted.total ts.weights).isFinite = true)
    (h : (flooding ts scheduler agenda).Reaches width height [] now) :
    ((flooding ts scheduler agenda).run now).result = .ok .resolved ∧
      ((flooding ts scheduler agenda).run now).solve.steps = width * height ∧
      ((flooding ts scheduler agenda).run now).solve.history.length = width * height := by
  have hend : (flooding ts scheduler agenda).Reaches width height []
      ((flooding ts scheduler agenda).run now).solve := h.answer .run
  rcases run_ends hsch h with ⟨status, hok, hterm, hstatus, -⟩ | hfail
  · have hresolved : status = .resolved := by
      cases status with
      | inProgress => contradiction
      | resolved => rfl
      | contradiction q =>
        exact absurd hstatus ((undisturbed_of_reaches hfree hend).noContradiction q)
    subst hresolved
    have hlen := ((resolved_iff_of_isTerminal hsch hend (by rw [hstatus, hterm])).mp hstatus).1
    exact ⟨hok, (steps_of_finite hsch hfin hend).trans hlen, hlen⟩
  · exact absurd hfail (run_ne_error_of_finite hsch hfin h)

end Floods

theorem Reaches.length_positions {σ π : Type} {e : Engine σ π} {width height : Nat}
    {given : List Given} {now : Solve σ π} (h : e.Reaches width height given now) :
    now.grid.positions.length = width * height := by
  have hw : now.grid.width = width := congrArg (·.1) h.shape_eq
  have hh : now.grid.height = height := congrArg (·.2.1) h.shape_eq
  rw [Grid.positions, List.length_map, List.length_range, Grid.size, h.valid.size, hw, hh]

/-- Where the first of the cells with the fewest candidates is taken, the cells are decided in row
order. -/
theorem prefix_of_reaches {ts : TileSet} (hfree : ts.Unconstrained) {width height : Nat}
    {now : Solve Unit Unit}
    (h : (flooding ts (.fewest .firstMinimum) ()).Reaches width height [] now) :
    now.history.map (·.position) <+: now.grid.positions := by
  refine h.invariant (P := fun s => s.history.map (·.position) <+: s.grid.positions) ?_ ?_
  · intro s hs
    simp [hs.history_eq]
  · intro s hreach hpre
    have hc := coherent_of_reaches hreach
    rcases kept_or_decided hfree (.fewest .firstMinimum) () hc with
      ⟨hgrid, hhist⟩ | ⟨p, tile, agenda, stream, hsel, hplace, hhist⟩
    · rw [hgrid, hhist]
      exact hpre
    · rw [Grid.positions_collapse hplace, hhist, List.map_append]
      exact (undisturbed_of_reaches hfree hreach).untouched.prefix_concat hc.valid hpre
        (mirrors_of_reaches hreach).mem_positions_iff (congrArg Prod.fst hsel)

/-- Over a tile set in which any two tiles fit, the set-up leaves every cell all candidates. Whatever
is asked of the solve from then on, the cells that the history does not name still have them, and no
step reports a change beside its decision; where the first of the cells with the fewest candidates is
taken, the history goes through the grid in row order. If the weights of all tiles have a finite total
no step of a solve in progress fails, and a run ends resolved with one step for each cell; if not,
every step and every run fails. -/
theorem unconstrained_resolves {ts : TileSet} (how : Selection) {width height : Nat} {full : Grid}
    (seed : UInt64) (hfree : ts.Unconstrained) (hfull : Grid.new width height ts.size = .ok full) :
    ∃ s, ((standard ts how).start width height seed []).result = .ok s ∧
      s.status = .inProgress ∧
      (∀ p : Position, p.x < width → p.y < height → s.grid.domain? p = some (.full ts.size)) ∧
      ∀ calls now, (standard ts how).after s calls = now →
        (∀ p : Position, p.x < width → p.y < height → p ∉ now.history.map (·.position) →
          now.grid.domain? p = some (.full ts.size)) ∧
        (∀ r, ((standard ts how).step now).result = .ok r → r.narrowed = []) ∧
        (how = .firstMinimum → now.history.map (·.position) <+: now.grid.positions) ∧
        ((Weighted.total ts.weights).isFinite = true →
          (now.status = .inProgress → ∃ r, ((standard ts how).step now).result = .ok r) ∧
          ((standard ts how).run now).result = .ok .resolved ∧
          ((standard ts how).run now).solve.steps = width * height ∧
          (how = .firstMinimum → ((standard ts how).run now).solve.history.map (·.position) =
            ((standard ts how).run now).solve.grid.positions)) ∧
        ((Weighted.total ts.weights).isFinite = false →
          ((standard ts how).step now).result = .error (.weights .infiniteTotal) ∧
          ((standard ts how).run now).result = .error (.weights .infiniteTotal)) := by
  have hsch := Scheduler.faithful_fewest how
  obtain ⟨s, h⟩ : ∃ s, ((standard ts how).start width height seed []).result = .ok s :=
    exists_start_of_known hfull (by simp) seed
  obtain ⟨hs, hgrid⟩ := opening_of_unconstrained hfree hfull (opening_of_start h)
  refine ⟨s, h, hs, fun p hx hy => ?_, fun calls now hnow => ?_⟩
  · rw [hgrid]
    exact Grid.domain?_new hfull ((Grid.inside_iff_of_shape (Grid.shape_new hfull)).mpr ⟨hx, hy⟩)
  have hreach : (flooding ts (.fewest how) ()).Reaches width height [] now :=
    ⟨seed, s, calls, h, hnow⟩
  have hc := coherent_of_reaches hreach
  refine ⟨fun p hx hy hp => ?_, fun r hr => narrowed_of_unconstrained hfree hc hr, ?_,
    fun hfin => ?_, fun hinf => ?_⟩
  · have hin := (Grid.inside_iff_of_shape hreach.shape_eq).mpr ⟨hx, hy⟩
    rw [(mirrors_of_reaches hreach).mem_positions_iff, Bool.not_eq_true] at hp
    rw [← hc.tileCount]
    exact (undisturbed_of_reaches hfree hreach).untouched p hin hp
  · rintro rfl
    exact prefix_of_reaches hfree hreach
  · obtain ⟨hok, hsteps, hlen⟩ := run_resolves_of_finite hfree hsch hfin hreach
    refine ⟨fun hs => ?_, hok, hsteps, ?_⟩
    · rcases step_decides hsch hreach hs with ⟨r, c, hok, -⟩ | hinf
      · exact ⟨r, hok⟩
      · rw [(step_fails_iff hfree hsch hreach hs).mp hinf] at hfin
        contradiction
    · rintro rfl
      have hend : (flooding ts (.fewest .firstMinimum) ()).Reaches width height []
        ((standard ts .firstMinimum).run now).solve := hreach.answer .run
      apply (prefix_of_reaches hfree hend).eq_of_length
      rw [List.length_map, hend.length_positions]
      exact hlen
  · have hs := inProgress_of_infinite hfree hsch hinf hreach
    exact ⟨(step_fails_iff hfree hsch hreach hs).mpr hinf,
      run_fails_of_infinite hfree hsch hinf hreach⟩

end Engine

def TileSet.meadow : TileSet where
  tiles := #[⟨"grass", .uniform "g", 3⟩, ⟨"clover", .uniform "g", 2⟩, ⟨"poppy", .uniform "g", 1⟩]
  index := .ofTiles
    [⟨"grass", .uniform "g", 3⟩, ⟨"clover", .uniform "g", 2⟩, ⟨"poppy", .uniform "g", 1⟩]
  nonempty := by simp
  faultless := by decide +kernel
  index_eq := rfl

namespace Engine

/-- After the first of two rows the second is as at the start, and the run goes on through it in row
order. -/
theorem unconstrained_resolves_meadow : ∃ full s now, TileSet.meadow.Unconstrained ∧
    Grid.new 2 2 TileSet.meadow.size = .ok full ∧
    ((standard .meadow .firstMinimum).start 2 2 7 []).result = .ok s ∧
    (standard .meadow .firstMinimum).after s [.step, .step] = now ∧
    now.history.map (·.position) = [⟨0, 0⟩, ⟨1, 0⟩] ∧
    now.grid.domain? ⟨0, 1⟩ = some (.full TileSet.meadow.size) ∧
    ((standard .meadow .firstMinimum).run now).result = .ok .resolved ∧
    ((standard .meadow .firstMinimum).run now).solve.steps = 2 * 2 ∧
    ((standard .meadow .firstMinimum).run now).solve.history.map (·.position) =
      ((standard .meadow .firstMinimum).run now).solve.grid.positions := by
  have hfree : TileSet.meadow.Unconstrained := by decide +kernel
  have hfin : (Weighted.total TileSet.meadow.weights).isFinite = true := by decide +kernel
  obtain ⟨full, hfull⟩ : ∃ full, Grid.new 2 2 TileSet.meadow.size = .ok full := ⟨_, rfl⟩
  obtain ⟨s, h, hhist⟩ : ∃ s, ((standard .meadow .firstMinimum).start 2 2 7 []).result = .ok s ∧
      ((standard .meadow .firstMinimum).after s [.step, .step]).history.map (·.position) =
        [⟨0, 0⟩, ⟨1, 0⟩] :=
    exists_start (by decide +kernel)
  obtain ⟨s', h', -, -, hcourse⟩ := unconstrained_resolves .firstMinimum 7 hfree hfull
  obtain rfl : s = s' := Except.ok.inj (h.symm.trans h')
  obtain ⟨hopen, -, -, hruns, -⟩ := hcourse [.step, .step] _ rfl
  obtain ⟨-, hok, hsteps, horder⟩ := hruns hfin
  refine ⟨full, s, _, hfree, hfull, h, rfl, hhist, ?_, hok, hsteps, horder rfl⟩
  exact hopen ⟨0, 1⟩ (by decide) (by decide) (by simp [hhist])

end Engine

end EdgeTiling
