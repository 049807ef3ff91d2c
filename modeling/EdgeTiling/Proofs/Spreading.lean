import EdgeTiling.Propagation
import EdgeTiling.Proofs.Changes

/-! What a flood achieves. Every single narrowing is justified by a neighbour, so no closed family
of candidates is ever lost. A flood that stops early is stuck at a cell that a neighbour leaves
without candidates, and one that runs dry leaves every open cell supported from all sides. -/

namespace EdgeTiling

abbrev Family := Position → TileId → Prop

namespace TileSet

/-- Whatever the family has at `q`, in direction `d` of `p`, fits something it has at `p`. -/
def Supports (ts : TileSet) (E : Family) (p q : Position) (d : Direction) : Prop :=
  ∀ t, E q t → ∃ a, E p a ∧ ts.compatible a t d = true

def Closed (ts : TileSet) (g : Grid) (E : Family) : Prop :=
  ∀ p q d, g.Inside p → (q, d) ∈ g.neighbors p → g.isResolved q = false → ts.Supports E p q d

/-- Every open cell is supported by its neighbours, except by those that wait in the queue. -/
def ClosedOff (ts : TileSet) (g : Grid) (queue : List Position) : Prop :=
  ∀ p q d, g.Inside p → p ∉ queue → (q, d) ∈ g.neighbors p → g.isResolved q = false →
    ts.Supports g.Admits p q d

end TileSet

namespace Grid

def Holds (g : Grid) (E : Family) : Prop := ∀ p t, g.Inside p → E p t → g.Admits p t

inductive Spreads (ts : TileSet) : Grid → Grid → Prop
  | refl (g : Grid) : Spreads ts g g
  | pull {g g' g'' : Grid} {p q : Position} {d : Direction} {source : Domain} {shrank : Bool} :
    (q, d) ∈ g.neighbors p → g.domain? p = some source → g.isResolved q = false →
      g.restrict q (ts.supported source d) = .ok (g', shrank) → Spreads ts g' g'' →
      Spreads ts g g''

/-- The narrowing makes `g'` of `g`: its target is open and loses what its source, a neighbour, does
not support. -/
def Traced (ts : TileSet) (n : Narrowing) (g g' : Grid) : Prop :=
  ∃ d source, (n.target, d) ∈ g.neighbors n.source ∧ g.domain? n.source = some source ∧
    g.isResolved n.target = false ∧ g.restrict n.target (ts.supported source d) = .ok (g', true) ∧
    n.before = g.domainSize n.target ∧ n.after = g'.domainSize n.target

inductive Traces (ts : TileSet) : Grid → List Narrowing → Grid → Prop
  | refl (g : Grid) : Traces ts g [] g
  | narrow {g g' g'' : Grid} {n : Narrowing} {trail : List Narrowing} :
    Traced ts n g g' → Traces ts g' trail g'' → Traces ts g (n :: trail) g''

def Stuck (ts : TileSet) (g : Grid) (e : PropagationError) : Prop :=
  ∃ p q d source cause, (q, d) ∈ g.neighbors p ∧ g.domain? p = some source ∧
    g.isResolved q = false ∧ g.restrict q (ts.supported source d) = .error cause ∧
    e = .ofGridError cause

variable {ts : TileSet} {g g' : Grid} {p : Position}

theorem domain?_restrict_of_ne {q : Position} {allowed : Domain} {shrank : Bool}
    (h : g.restrict q allowed = .ok (g', shrank)) (hp : p ≠ q) : g'.domain? p = g.domain? p := by
  simp [domain?, cell?_restrict h p, hp]

theorem Traced.cell?_of_ne {n : Narrowing} (h : Traced ts n g g') (hp : p ≠ n.target) :
    g'.cell? p = g.cell? p := by
  obtain ⟨d, source, -, -, -, hr, -, -⟩ := h
  rw [cell?_restrict hr, if_neg hp]

namespace Traces

variable {trail later : List Narrowing} {g'' : Grid}

theorem append (h : g.Traces ts trail g') (h' : g'.Traces ts later g'') :
    g.Traces ts (trail ++ later) g'' := by
  induction h with
  | refl => exact h'
  | narrow hn _ ih => exact .narrow hn (ih h')

theorem spreads (h : g.Traces ts trail g') : g.Spreads ts g' := by
  induction h with
  | refl g => exact .refl g
  | narrow hn _ ih =>
    obtain ⟨d, source, hq, hs, ho, hr, -, -⟩ := hn
    exact .pull hq hs ho hr ih

theorem cell?_of_notMem (h : g.Traces ts trail g') (hp : p ∉ trail.map (·.target)) :
    g'.cell? p = g.cell? p := by
  induction h with
  | refl => rfl
  | narrow hn _ ih =>
    obtain ⟨hne, hlater⟩ := not_or.mp (mt List.mem_cons.mpr hp)
    rw [ih hlater, hn.cell?_of_ne hne]

end Traces

/-- A family stays closed when candidates are lost and decisions made. -/
theorem Shrinks.closed {E : Family} (h : g.Shrinks g') (hE : ts.Closed g E) : ts.Closed g' E := by
  intro r s d hr hs ho
  rw [inside_of_shape h.shape] at hr
  rw [neighbors_of_shape h.shape] at hs
  exact hE r s d hr hs (h.isOpen ho)

theorem Spreads.holds {E : Family} (h : g.Spreads ts g') (hE : ts.Closed g E) (hg : g.Holds E) :
    g'.Holds E := by
  induction h with
  | refl => exact hg
  | @pull g g₁ _ p q d source _ hn hs ho hr _ ih =>
    refine ih ((Narrows.restrict hr (.refl _)).shrinks.closed hE) ?_
    intro r t hin ht
    rw [inside_of_shape (shape_restrict hr)] at hin
    refine admits_restrict hr (hg r t hin ht) ?_
    rintro rfl
    have hp : g.Inside p := by
      obtain ⟨c, hc, -⟩ := Option.map_eq_some_iff.mp hs
      exact inside_of_cell? hc
    obtain ⟨a, ha, hfit⟩ := hE p r d hp hn ho t ht
    obtain ⟨D, hD, hhas⟩ := hg p a hp ha
    obtain rfl := Option.some.inj (hs.symm.trans hD)
    exact TileSet.has_supported.mpr ⟨a, hhas, hfit⟩

/-- With as many tiles in the grid as in the set, getting stuck is a contradiction at a cell. -/
theorem Stuck.contradiction {e : PropagationError} (h : g.Stuck ts e) (hv : g.Valid)
    (hn : g.tileCount = ts.size) : ∃ p q d, e = .contradiction q ∧ g.Inside p ∧
      (q, d) ∈ g.neighbors p ∧ g.isResolved q = false ∧
      ∀ a t, g.Admits p a → g.Admits q t → ts.compatible a t d = false := by
  obtain ⟨p, q, d, source, cause, hq, hs, ho, hr, rfl⟩ := h
  have hin := inside_of_mem_neighbors hq
  obtain rfl := restrict_eq_error hv hin (by simp [hn]) hr
  obtain ⟨-, -, -, hnone⟩ := restrict_eq_emptyDomain hr
  obtain ⟨c, hc, rfl⟩ := Option.map_eq_some_iff.mp hs
  refine ⟨p, q, d, rfl, inside_of_cell? hc, hq, ho, fun a t ha ht => ?_⟩
  by_contra hfit
  have hsup : (ts.supported c.domain d).has t = true :=
    TileSet.has_supported.mpr ⟨a, (admits_of_cell? hc).mp ha, by simpa using hfit⟩
  simp [hnone t ht] at hsup

theorem not_stuck {e : PropagationError} {E : Family} (hv : g.Valid) (hn : g.tileCount = ts.size)
    (hE : ts.Closed g E) (hg : g.Holds E) (hi : ∀ p, g.Inside p → ∃ t, E p t) :
    ¬ g.Stuck ts e := by
  intro h
  obtain ⟨p, q, d, -, hp, hq, ho, hclash⟩ := h.contradiction hv hn
  obtain ⟨t, ht⟩ := hi q (inside_of_mem_neighbors hq)
  obtain ⟨a, ha, hfit⟩ := hE p q d hp hq ho t ht
  have hno := hclash a t (hg p a hp ha) (hg q t (inside_of_mem_neighbors hq) ht)
  rw [hfit] at hno
  contradiction

end Grid

section Floods

variable {ts : TileSet} {p : Position} {source : Domain}

/-- After a restriction away from `p` the rest of a round still starts from the same candidates. -/
theorem round_of_restrict {g g' : Grid} {q : Position} {d : Direction} {allowed : Domain}
    {shrank : Bool} {rest : List (Position × Direction)}
    (hr : g.restrict q allowed = .ok (g', shrank)) (hs : g.domain? p = some source)
    (hn : ∀ x ∈ (q, d) :: rest, x ∈ g.neighbors p) :
    g'.domain? p = some source ∧ ∀ x ∈ rest, x ∈ g'.neighbors p := by
  have hq := hn (q, d) List.mem_cons_self
  refine ⟨?_, fun x hx => ?_⟩
  · rw [Grid.domain?_restrict_of_ne hr (Grid.ne_of_mem_neighbors hq).symm, hs]
  · rw [Grid.neighbors_of_shape (Grid.shape_restrict hr)]
    exact hn x (List.mem_cons_of_mem _ hx)

theorem traces_spreadTo (g : Grid) (near : List (Position × Direction))
    (hs : g.domain? p = some source) (hn : ∀ x ∈ near, x ∈ g.neighbors p) :
    g.Traces ts (spreadTo ts p source g near).trail (spreadTo ts p source g near).grid := by
  fun_induction spreadTo ts p source g near with
  | case1 g => exact .refl g
  | case2 g q d rest _ ih => exact ih hs fun x hx => hn x (List.mem_cons_of_mem _ hx)
  | case3 g => exact .refl g
  | case4 g q d rest ho g' later hr ih =>
    obtain ⟨hs', hn'⟩ := round_of_restrict hr hs hn
    exact .narrow ⟨d, source, hn _ List.mem_cons_self, hs, by simpa using ho, hr, rfl, rfl⟩
      (ih hs' hn')
  | case5 g q d rest ho g' shrank hr later hf ih =>
    obtain rfl : shrank = false := by simpa using hf
    obtain rfl := Grid.eq_of_restrict_eq_ok_false hr
    exact ih hs fun x hx => hn x (List.mem_cons_of_mem _ hx)

theorem stuck_spreadTo {e : PropagationError} (g : Grid) (near : List (Position × Direction))
    (hs : g.domain? p = some source) (hn : ∀ x ∈ near, x ∈ g.neighbors p)
    (hf : (spreadTo ts p source g near).failure = some e) :
    (spreadTo ts p source g near).grid.Stuck ts e := by
  fun_induction spreadTo ts p source g near with
  | case1 g => contradiction
  | case2 g q d rest _ ih => exact ih hs (fun x hx => hn x (List.mem_cons_of_mem _ hx)) hf
  | case3 g q d rest ho cause hr =>
    exact ⟨p, q, d, source, cause, hn _ List.mem_cons_self, hs, by simpa using ho, hr,
      (Option.some.inj hf).symm⟩
  | case4 g q d rest ho g' later hr ih =>
    obtain ⟨hs', hn'⟩ := round_of_restrict hr hs hn
    exact ih hs' hn' hf
  | case5 g q d rest ho g' shrank hr later _ ih =>
    obtain ⟨hs', hn'⟩ := round_of_restrict hr hs hn
    exact ih hs' hn' hf

theorem supported_spreadTo (g : Grid) (near : List (Position × Direction))
    (hf : (spreadTo ts p source g near).failure = none) {q : Position} {d : Direction}
    (hq : (q, d) ∈ near) (ho : g.isResolved q = false) {t : TileId}
    (ht : (spreadTo ts p source g near).grid.Admits q t) :
    (ts.supported source d).has t = true := by
  fun_induction spreadTo ts p source g near with
  | case1 g => contradiction
  | case2 g r c rest hres ih =>
    rcases List.mem_cons.mp hq with heq | hmem
    · cases heq
      simp [ho] at hres
    · exact ih hf hmem ho ht
  | case3 g => contradiction
  | case4 g r c rest _ g' later hr ih =>
    rcases List.mem_cons.mp hq with heq | hmem
    · cases heq
      have hadm := (narrows_spreadTo ts p source rest g').admits ht
      exact ((Grid.admits_restrict_self hr ho).mp hadm).2
    · exact ih hf hmem (by rwa [Grid.isResolved, Grid.chosen?_restrict hr]) ht
  | case5 g r c rest _ g' shrank hr later _ ih =>
    rcases List.mem_cons.mp hq with heq | hmem
    · cases heq
      have hadm := (narrows_spreadTo ts p source rest g').admits ht
      exact ((Grid.admits_restrict_self hr ho).mp hadm).2
    · exact ih hf hmem (by rwa [Grid.isResolved, Grid.chosen?_restrict hr]) ht

theorem spreadFrom_of_domain? {g : Grid} (hs : g.domain? p = some source) :
    spreadFrom ts g p = spreadTo ts p source g (g.neighbors p) := by
  simp [spreadFrom, hs]

theorem traces_spreadFrom (ts : TileSet) (g : Grid) (p : Position) :
    g.Traces ts (spreadFrom ts g p).trail (spreadFrom ts g p).grid := by
  cases hs : g.domain? p with
  | none => simpa [spreadFrom, hs] using Grid.Traces.refl g
  | some source =>
    rw [spreadFrom_of_domain? hs]
    exact traces_spreadTo g _ hs fun _ hx => hx

theorem stuck_spreadFrom {g : Grid} {p : Position} {e : PropagationError}
    (hf : (spreadFrom ts g p).failure = some e) : (spreadFrom ts g p).grid.Stuck ts e := by
  cases hs : g.domain? p with
  | none => simp [spreadFrom, hs] at hf
  | some source =>
    rw [spreadFrom_of_domain? hs] at hf ⊢
    exact stuck_spreadTo g _ hs (fun _ hx => hx) hf

/-- One cell is taken from the queue, and those it narrowed are put in. -/
theorem closedOff_spreadFrom {g : Grid} {p : Position} {queue : List Position} (hv : g.Valid)
    (h : ts.ClosedOff g (p :: queue)) (hf : (spreadFrom ts g p).failure = none) :
    ts.ClosedOff (spreadFrom ts g p).grid
      (queue ++ (spreadFrom ts g p).trail.map (·.target)) := by
  have hnar := narrows_spreadFrom ts g p
  intro r q d hin hr hq ho t ht
  rw [Grid.inside_of_shape hnar.shape_eq] at hin
  rw [Grid.neighbors_of_shape hnar.shape_eq] at hq
  rw [hnar.isResolved_eq] at ho
  obtain ⟨hqueue, htrail⟩ := not_or.mp (mt List.mem_append.mpr hr)
  have hsame := (traces_spreadFrom ts g p).cell?_of_notMem htrail
  by_cases hrp : r = p
  · subst hrp
    obtain ⟨c, hc⟩ := hv.exists_cell hin
    have hs : g.domain? r = some c.domain := by simp [Grid.domain?, hc]
    rw [spreadFrom_of_domain? hs] at hf ht
    obtain ⟨a, ha, hfit⟩ := TileSet.has_supported.mp (supported_spreadTo g _ hf hq ho ht)
    exact ⟨a, (Grid.admits_of_cell? (hsame.trans hc)).mpr ha, hfit⟩
  · obtain ⟨a, ha, hfit⟩ := h r q d hin (by simp [hrp, hqueue]) hq ho t (hnar.admits ht)
    exact ⟨a, by rwa [Grid.admits_iff, hsame, ← Grid.admits_iff], hfit⟩

theorem traces_flood (ts : TileSet) (g : Grid) (queue : List Position) :
    g.Traces ts (flood ts g queue).trail (flood ts g queue).grid := by
  fun_induction flood ts g queue with
  | case1 g => exact .refl g
  | case2 g p queue near hf => exact traces_spreadFrom ts g p
  | case3 g p queue near hf later ih => exact (traces_spreadFrom ts g p).append ih

theorem spreads_flood (ts : TileSet) (g : Grid) (queue : List Position) :
    g.Spreads ts (flood ts g queue).grid :=
  (traces_flood ts g queue).spreads

theorem stuck_flood {g : Grid} {queue : List Position} {e : PropagationError}
    (hf : (flood ts g queue).failure = some e) : (flood ts g queue).grid.Stuck ts e := by
  fun_induction flood ts g queue with
  | case1 g => contradiction
  | case2 g p queue near _ => exact stuck_spreadFrom hf
  | case3 g p queue near _ later ih => exact ih hf

/-- A flood that runs dry leaves a grid on which its own candidates are a closed family. -/
theorem closed_flood {g : Grid} {queue : List Position} (hv : g.Valid)
    (h : ts.ClosedOff g queue) (hf : (flood ts g queue).failure = none) :
    ts.Closed (flood ts g queue).grid (flood ts g queue).grid.Admits := by
  fun_induction flood ts g queue with
  | case1 g => exact fun p q d hin hq ho => h p q d hin List.not_mem_nil hq ho
  | case2 g p queue near hsome => simp [hf] at hsome
  | case3 g p queue near hnone later ih =>
    have hnear : near.failure = none := by simpa using hnone
    exact ih ((narrows_spreadFrom ts g p).valid hv) (closedOff_spreadFrom hv h hnear) hf

end Floods

end EdgeTiling
