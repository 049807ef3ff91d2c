import EdgeTiling.Proofs.Course

/-! Arc consistency. The first pass establishes it, and the pass after a decision, which starts from
the decided cell alone, restores it; so it holds in the course of every solve until a contradiction
comes up. Decided neighbours fit each other even then. -/

namespace EdgeTiling

namespace TileSet

/-- Every candidate of every cell fits some candidate of each neighbour. -/
def ArcConsistent (ts : TileSet) (g : Grid) : Prop :=
  ∀ p q d a, (q, d) ∈ g.neighbors p → g.Admits p a →
    ∃ b, g.Admits q b ∧ ts.compatible a b d = true

def Agrees (ts : TileSet) (g : Grid) : Prop :=
  ∀ p q d a b, (q, d) ∈ g.neighbors p → g.chosen? p = some a → g.chosen? q = some b →
    ts.compatible a b d = true

variable {ts : TileSet} {g g' : Grid} {p : Position} {tile : TileId}

theorem ArcConsistent.supports (h : ts.ArcConsistent g) {p q : Position} {d : Direction}
    (hp : g.Inside p) (hq : (q, d) ∈ g.neighbors p) : ts.Supports g.Admits p q d := by
  intro t ht
  obtain ⟨a, ha, hfit⟩ := h q p d.opposite t (Grid.neighbors_symm hp hq) ht
  exact ⟨a, ha, by simpa using compatible_symm hfit⟩

theorem agrees_of_narrows (h : g.Narrows g') (ha : ts.Agrees g) : ts.Agrees g' := by
  intro p q d a b hq hp hb
  rw [Grid.neighbors_of_shape h.shape_eq] at hq
  rw [h.chosen?_eq] at hp hb
  exact ha p q d a b hq hp hb

/-- Support of the open cells is enough: an arc that ends in a decided cell is read backwards. -/
theorem arcConsistent_of_closed (hv : g.Valid) (hc : ts.Closed g g.Admits) (ha : ts.Agrees g) :
    ts.ArcConsistent g := by
  intro p q d a hq hpa
  have hp := Grid.inside_of_admits hpa
  have hqin := Grid.inside_of_mem_neighbors hq
  cases hcp : g.chosen? p with
  | none =>
    -- `p` is open, so `q` supports it from the opposite direction
    obtain ⟨b, hb, hfit⟩ := hc q p d.opposite hqin (Grid.neighbors_symm hp hq)
      (by simp [Grid.isResolved, hcp]) a hpa
    exact ⟨b, hb, by simpa using compatible_symm hfit⟩
  | some t =>
    obtain rfl := (hv.admits_iff_of_chosen? hcp a).mp hpa
    cases hcq : g.chosen? q with
    | none =>
      -- any candidate of `q` will do, since `p` supports it by the one tile it has
      obtain ⟨b, hb⟩ := hv.exists_admits hqin
      obtain ⟨t, ht, hfit⟩ := hc p q d hp hq (by simp [Grid.isResolved, hcq]) b hb
      obtain rfl := (hv.admits_iff_of_chosen? hcp t).mp ht
      exact ⟨b, hb, hfit⟩
    | some b =>
      exact ⟨b, (hv.admits_iff_of_chosen? hcq b).mpr rfl, ha p q d a b hq hcp hcq⟩

/-- After a decision only the decided cell can leave its neighbours without support. -/
theorem closedOff_collapse (h : ts.ArcConsistent g) (hc : g.collapse p tile = .ok g') :
    ts.ClosedOff g' [p] := by
  intro r q d hr hne hq ho t ht
  have hrp : r ≠ p := by simpa using hne
  have hqp : q ≠ p := by
    rintro rfl
    simp [Grid.isResolved, Grid.chosen?_collapse hc] at ho
  rw [Grid.inside_of_shape (Grid.shape_collapse hc)] at hr
  rw [Grid.neighbors_of_shape (Grid.shape_collapse hc)] at hq
  rw [Grid.admits_collapse_of_ne hc hqp] at ht
  obtain ⟨a, ha, hfit⟩ := h.supports hr hq t ht
  exact ⟨a, (Grid.admits_collapse_of_ne hc hrp).mpr ha, hfit⟩

/-- The tile of a decision fits the decided neighbours, because it was a candidate before. -/
theorem agrees_collapse (hv : g.Valid) (h : ts.ArcConsistent g) (ha : ts.Agrees g)
    (hc : g.collapse p tile = .ok g') : ts.Agrees g' := by
  have hcand := (Grid.of_collapse hc).2
  intro r q d a b hq hr hb
  rw [Grid.neighbors_of_shape (Grid.shape_collapse hc)] at hq
  rw [Grid.chosen?_collapse hc] at hr hb
  by_cases hrp : r = p
  · subst hrp
    rw [if_neg (Grid.ne_of_mem_neighbors hq)] at hb
    obtain rfl : tile = a := by simpa using hr
    obtain ⟨b', hb', hfit⟩ := h r q d tile hq hcand
    obtain rfl := (hv.admits_iff_of_chosen? hb b').mp hb'
    exact hfit
  · rw [if_neg hrp] at hr
    by_cases hqp : q = p
    · subst hqp
      obtain rfl : tile = b := by simpa using hb
      have hin : g.Inside r :=
        Grid.inside_of_admits ((hv.admits_iff_of_chosen? hr a).mpr rfl)
      obtain ⟨a', ha', hfit⟩ := h.supports hin hq tile hcand
      obtain rfl := (hv.admits_iff_of_chosen? hr a').mp ha'
      exact hfit
    · rw [if_neg hqp] at hb
      exact ha r q d a b hq hr hb

end TileSet

def Engine.flooding {σ : Type} (ts : TileSet) (scheduler : Scheduler σ) (agenda : σ) :
    Engine σ Unit :=
  ⟨ts, scheduler, agenda, .flooding, ()⟩

structure Coherent {σ : Type} (ts : TileSet) (s : Solve σ Unit) : Prop where
  valid : s.grid.Valid
  tileCount : s.grid.tileCount = ts.size
  agrees : ts.Agrees s.grid
  arcs : (∀ p, s.status ≠ .contradiction p) → ts.ArcConsistent s.grid

section Passes

variable {ts : TileSet} {g : Grid} {seeds : List Position}

theorem narrows_propagate (ts : TileSet) (g : Grid) (seeds : List Position) :
    g.Narrows (propagate ts g seeds).grid :=
  narrows_flood ts g seeds

theorem arcConsistent_propagate (hv : g.Valid) (ha : ts.Agrees g) (hc : ts.ClosedOff g seeds)
    (hf : (propagate ts g seeds).failure = none) :
    ts.ArcConsistent (propagate ts g seeds).grid :=
  TileSet.arcConsistent_of_closed ((narrows_flood ts g seeds).valid hv) (closed_flood hv hc hf)
    (TileSet.agrees_of_narrows (narrows_flood ts g seeds) ha)

/-- A pass over a grid that holds a closed family with a member everywhere keeps the family and
does not fail. -/
theorem holds_propagate {E : Family} (hv : g.Valid) (hn : g.tileCount = ts.size)
    (hE : ts.Closed g E) (hg : g.Holds E) (hi : ∀ p, g.Inside p → ∃ t, E p t)
    (seeds : List Position) :
    (propagate ts g seeds).grid.Holds E ∧ (propagate ts g seeds).failure = none := by
  have hnar := narrows_propagate ts g seeds
  have hholds : (propagate ts g seeds).grid.Holds E := (spreads_flood ts g seeds).holds hE hg
  refine ⟨hholds, ?_⟩
  cases hf : (propagate ts g seeds).failure with
  | none => rfl
  | some e =>
    have hn' : (propagate ts g seeds).grid.tileCount = ts.size := by
      rw [(Grid.shape_eq_iff.mp hnar.shape_eq).2.2, hn]
    have hi' : ∀ p, (propagate ts g seeds).grid.Inside p → ∃ t, E p t :=
      fun p hp => hi p ((Grid.inside_of_shape hnar.shape_eq p).mp hp)
    exact absurd (stuck_flood hf)
      (Grid.not_stuck (hnar.valid hv) hn' (hnar.shrinks.closed hE) hholds hi')

theorem contradiction_of_propagate {e : PropagationError} (hv : g.Valid)
    (hn : g.tileCount = ts.size) (hf : (propagate ts g seeds).failure = some e) :
    ∃ q, e = .contradiction q := by
  have hnar := narrows_flood ts g seeds
  have hn' : (flood ts g seeds).grid.tileCount = ts.size := by
    rw [(Grid.shape_eq_iff.mp hnar.shape_eq).2.2, hn]
  obtain ⟨p, q, d, rfl, -⟩ := (stuck_flood hf).contradiction (hnar.valid hv) hn'
  exact ⟨q, rfl⟩

end Passes

namespace Engine

variable {σ : Type} {ts : TileSet} {scheduler : Scheduler σ} {agenda : σ} {s : Solve σ Unit}

theorem pass_flooding {memory memory' : Unit} {g : Grid} {seeds : List Position} {pass : Pass}
    (h : (flooding ts scheduler agenda).propagator.pass memory
      (flooding ts scheduler agenda).tiles g seeds = (pass, memory')) :
    propagate ts g seeds = pass :=
  congrArg Prod.fst h

/-- A step leaves the grid and the history as they are, or decides the cell that the scheduler names
and lets the pass from there do the rest. A contradiction that was not there before is that of the
pass. -/
theorem kept_or_flooded (ts : TileSet) (scheduler : Scheduler σ) (agenda : σ) (s : Solve σ Unit) :
    (((flooding ts scheduler agenda).step s).solve.grid = s.grid ∧
      ((flooding ts scheduler agenda).step s).solve.history = s.history ∧
      ∀ q, ((flooding ts scheduler agenda).step s).solve.status = .contradiction q →
        s.status = .contradiction q) ∨
    ∃ p tile g agenda' stream,
      scheduler.select s.agenda s.grid s.stream = (some p, agenda', stream) ∧
      s.grid.collapse p tile = .ok g ∧
      ((flooding ts scheduler agenda).step s).solve.grid = (propagate ts g [p]).grid ∧
      ((flooding ts scheduler agenda).step s).solve.history = s.history ++ [⟨p, tile⟩] ∧
      ∀ q, ((flooding ts scheduler agenda).step s).solve.status = .contradiction q →
        (propagate ts g [p]).failure = some (.contradiction q) := by
  have hm := step_move (flooding ts scheduler agenda) s
  generalize ((flooding ts scheduler agenda).step s).result = r at hm
  generalize ((flooding ts scheduler agenda).step s).solve = s' at hm ⊢
  cases hm with
  | finished => exact .inl ⟨rfl, rfl, fun _ hq => hq⟩
  | exhausted => exact .inl ⟨rfl, rfl, by simp⟩
  | undrawn => exact .inl ⟨rfl, rfl, fun _ hq => hq⟩
  | refused => exact .inl ⟨rfl, rfl, fun _ hq => hq⟩
  | blocked _ hsel _ hc hpass hf =>
    obtain rfl := pass_flooding hpass
    refine .inr ⟨_, _, _, _, _, hsel, hc, rfl, rfl, ?_⟩
    rintro q ⟨⟩
    exact hf
  | broken _ hsel _ hc hpass _ =>
    obtain rfl := pass_flooding hpass
    exact .inr ⟨_, _, _, _, _, hsel, hc, rfl, rfl, by simp [decided]⟩
  | advanced _ hsel _ hc hpass _ hstatus =>
    obtain rfl := pass_flooding hpass
    refine .inr ⟨_, _, _, _, _, hsel, hc, rfl, rfl, ?_⟩
    intro q hq
    simp only [decided, hstatus] at hq
    split at hq <;> contradiction

/-- A step that succeeds found nothing to decide, or it decided a cell and reports the pass from
there. -/
theorem report_of_step {r : Report} (h : ((flooding ts scheduler agenda).step s).result = .ok r) :
    s.status = .inProgress ∧
    ((r = ⟨none, [], .resolved⟩ ∧ ((flooding ts scheduler agenda).step s).solve.grid = s.grid) ∨
    ∃ p tile g, s.grid.collapse p tile = .ok g ∧ r.collapsed = some ⟨p, tile⟩ ∧
      r.narrowed = (propagate ts g [p]).narrowed ∧
      ((flooding ts scheduler agenda).step s).solve.grid = (propagate ts g [p]).grid ∧
      ∀ q, r.status = .contradiction q → (propagate ts g [p]).failure = some (.contradiction q)) := by
  have hm := step_move (flooding ts scheduler agenda) s
  rw [h] at hm
  generalize ((flooding ts scheduler agenda).step s).solve = s' at hm ⊢
  cases hm with
  | exhausted hs => exact ⟨hs, .inl ⟨rfl, rfl⟩⟩
  | blocked hs _ _ hc hpass hf =>
    obtain rfl := pass_flooding hpass
    refine ⟨hs, .inr ⟨_, _, _, hc, rfl, rfl, rfl, ?_⟩⟩
    rintro q ⟨⟩
    exact hf
  | advanced hs _ _ hc hpass _ hstatus =>
    obtain rfl := pass_flooding hpass
    refine ⟨hs, .inr ⟨_, _, _, hc, rfl, rfl, rfl, ?_⟩⟩
    intro q hq
    subst hstatus
    simp only at hq
    split at hq <;> contradiction

theorem ready_of_opening {width height : Nat} {full : Grid}
    (h : Opening (flooding ts scheduler agenda) width height [] s)
    (hfull : Grid.new width height ts.size = .ok full)
    (hf : (propagate ts full full.positions).failure = none) :
    s.status = .inProgress ∧ s.grid = (propagate ts full full.positions).grid := by
  cases h with
  | emptied _ happ => simp [applyGiven] at happ
  | blocked hfull' happ hpass hfail =>
    cases hfull.symm.trans hfull'
    cases happ
    obtain rfl := pass_flooding hpass
    cases hf.symm.trans hfail
  | ready hfull' happ hpass _ hgrid hstatus =>
    cases hfull.symm.trans hfull'
    cases happ
    obtain rfl := pass_flooding hpass
    exact ⟨hstatus, hgrid⟩

theorem coherent_of_opening {width height : Nat} {given : List Given}
    (h : Opening (flooding ts scheduler agenda) width height given s) : Coherent ts s := by
  obtain ⟨full, hfull, hnar⟩ := h.narrows
  have hagree : ts.Agrees full := by
    intro p q d a b _ hp _
    simp [Grid.chosen?_new hfull] at hp
  refine ⟨hnar.valid (Grid.valid_new hfull), ?_, TileSet.agrees_of_narrows hnar hagree, ?_⟩
  · have hshape := hnar.shape_eq.trans (Grid.shape_new hfull)
    exact congrArg (·.2.2) hshape
  · intro hno
    cases h with
    | emptied _ _ hs => exact absurd hs (hno _)
    | blocked _ _ _ _ _ hs => exact absurd hs (hno _)
    | @ready full' g pass _ hfull' happ hpass hf hgrid =>
      have hpass := pass_flooding hpass
      subst hpass
      have hg := narrows_applyGiven happ
      have hv := hg.valid (Grid.valid_new hfull')
      have hall : ts.ClosedOff g g.positions := by
        intro p q d hp hne
        exact absurd (hv.mem_positions.mpr hp) hne
      rw [hgrid]
      refine arcConsistent_propagate hv (TileSet.agrees_of_narrows hg ?_) hall hf
      intro p q d a b _ hp _
      simp [Grid.chosen?_new hfull'] at hp

theorem failure_ne_grid (h : Coherent ts s) {p : Position} {tile : TileId} {g : Grid} {pass : Pass}
    {memory : Unit} {cause : GridError} (hc : s.grid.collapse p tile = .ok g)
    (hpass : (flooding ts scheduler agenda).propagator.pass s.memory
      (flooding ts scheduler agenda).tiles g [p] = (pass, memory)) :
    pass.failure ≠ some (.grid cause) := by
  obtain rfl := pass_flooding hpass
  intro hf
  have hn := (congrArg (·.2.2) (Grid.shape_collapse hc)).trans h.tileCount
  obtain ⟨q, hq⟩ := contradiction_of_propagate (Grid.valid_collapse h.valid hc) hn hf
  contradiction

theorem coherent_decided (h : Coherent ts s) (hs : s.status = .inProgress) {p : Position}
    {tile : TileId} {g : Grid} (hc : s.grid.collapse p tile = .ok g) {stream : Random.Stream}
    {status : Status} (hstatus : (propagate ts g [p]).failure = none ∨ ∃ q, status = .contradiction q)
    (agenda : σ) : Coherent ts
      (decided s ⟨p, tile⟩ agenda stream (propagate ts g [p]).grid () status) := by
  have harcs := h.arcs (by simp [hs])
  have hv := Grid.valid_collapse h.valid hc
  have hagree := TileSet.agrees_collapse h.valid harcs h.agrees hc
  have hnar := narrows_propagate ts g [p]
  refine ⟨hnar.valid hv, ?_, TileSet.agrees_of_narrows hnar hagree, fun hno => ?_⟩
  · have hshape := hnar.shape_eq.trans (Grid.shape_collapse hc)
    exact (congrArg (·.2.2) hshape).trans h.tileCount
  · rcases hstatus with hf | ⟨q, rfl⟩
    · exact arcConsistent_propagate hv hagree (TileSet.closedOff_collapse harcs hc) hf
    · exact absurd rfl (hno q)

theorem coherent_step (h : Coherent ts s) :
    Coherent ts ((flooding ts scheduler agenda).step s).solve := by
  have hm := step_move (flooding ts scheduler agenda) s
  generalize ((flooding ts scheduler agenda).step s).result = r at hm
  generalize ((flooding ts scheduler agenda).step s).solve = s' at hm ⊢
  cases hm with
  | finished => exact h
  | exhausted hs => exact ⟨h.valid, h.tileCount, h.agrees, fun _ => h.arcs (by simp [hs])⟩
  | undrawn => exact ⟨h.valid, h.tileCount, h.agrees, h.arcs⟩
  | refused => exact ⟨h.valid, h.tileCount, h.agrees, h.arcs⟩
  | blocked hs _ _ hc hpass hf =>
    obtain rfl := pass_flooding hpass
    exact coherent_decided h hs hc (.inr ⟨_, rfl⟩) _
  | broken _ _ _ hc hpass hf => exact absurd hf (failure_ne_grid h hc hpass)
  | advanced hs _ _ hc hpass hf =>
    obtain rfl := pass_flooding hpass
    exact coherent_decided h hs hc (.inl hf) _

theorem coherent_of_reaches {width height : Nat} {given : List Given} {now : Solve σ Unit}
    (h : (flooding ts scheduler agenda).Reaches width height given now) : Coherent ts now :=
  h.invariant (fun _ => coherent_of_opening) fun _ _ => coherent_step

/-- Whatever cells the scheduler names and whatever the steps return, every candidate keeps its
support until a contradiction comes up, and decided neighbours fit each other even then. -/
theorem arcConsistent_of_reaches {width height : Nat} {given : List Given} {now : Solve σ Unit}
    (h : (flooding ts scheduler agenda).Reaches width height given now) :
    ((∀ p, now.status ≠ .contradiction p) → ts.ArcConsistent now.grid) ∧ ts.Agrees now.grid := by
  have hc := coherent_of_reaches h
  exact ⟨hc.arcs, hc.agrees⟩

end Engine

def TileSet.couple : TileSet where
  tiles := #[⟨"A", ⟨"-", "-", "a", "x"⟩, 1⟩, ⟨"B", ⟨"-", "-", "x", "b"⟩, 1⟩]
  index := .ofTiles [⟨"A", ⟨"-", "-", "a", "x"⟩, 1⟩, ⟨"B", ⟨"-", "-", "x", "b"⟩, 1⟩]
  nonempty := by simp
  faultless := by decide +kernel
  index_eq := rfl

def TileSet.plains : TileSet where
  tiles := #[⟨"light", .uniform "l", 1⟩, ⟨"dark", .uniform "d", 1⟩]
  index := .ofTiles [⟨"light", .uniform "l", 1⟩, ⟨"dark", .uniform "d", 1⟩]
  nonempty := by simp
  faultless := by decide +kernel
  index_eq := rfl

def Scheduler.script : Scheduler (List Position) where
  select memory _ s := (memory.head?, memory.tail, s)

namespace Engine

/-- A cell named twice and one outside the grid fail two of the three steps, and the grid is none
the worse for it. -/
theorem arcConsistent_of_reaches_couple : ∃ now,
    (flooding .couple .script [⟨0, 0⟩, ⟨0, 0⟩, ⟨7, 7⟩]).Reaches 2 1 [] now ∧
      (now.status, now.history, now.steps) = (.inProgress, [⟨⟨0, 0⟩, 0⟩], 3) ∧
      TileSet.couple.ArcConsistent now.grid ∧ TileSet.couple.Agrees now.grid := by
  obtain ⟨now, h, hnow⟩ : ∃ now,
      (flooding .couple .script [⟨0, 0⟩, ⟨0, 0⟩, ⟨7, 7⟩]).Reaches 2 1 [] now ∧
        (now.status, now.history, now.steps) = (.inProgress, [⟨⟨0, 0⟩, 0⟩], 3) :=
    exists_reaches 5 [.step, .step, .step] (by decide +kernel)
  obtain ⟨harcs, hagree⟩ := arcConsistent_of_reaches h
  have hs : now.status = .inProgress := congrArg Prod.fst hnow
  exact ⟨now, h, hnow, harcs (by simp [hs]), hagree⟩

end Engine

end EdgeTiling
