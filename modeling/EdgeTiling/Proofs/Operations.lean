import EdgeTiling.Proofs.Consistency
import EdgeTiling.Proofs.InPlace

/-! A grid under any sequence of restrictions, decisions and passes, those that fail included. The
grid stays valid, cells only lose candidates, and a decided cell is never touched again. -/

namespace EdgeTiling

structure Cell.Becomes (c c' : Cell) : Prop where
  has : ∀ t, c'.domain.has t = true → c.domain.has t = true
  decided : c.chosen.isSome = true → c' = c

namespace Grid

inductive Operation
  | restrict (p : Position) (allowed : Domain)
  | collapse (p : Position) (tile : TileId)
  | pass (ts : TileSet) (seeds : List Position)

/-- The grid after a call. A pass that fails leaves what it had narrowed by then. -/
def perform (g : Grid) : Operation → Grid
  | .restrict p allowed =>
    match g.restrict p allowed with
    | .ok (g', _) => g'
    | .error _ => g
  | .collapse p tile =>
    match g.collapse p tile with
    | .ok g' => g'
    | .error _ => g
  | .pass ts seeds => (propagate ts g seeds).grid

def performAll (g : Grid) (ops : List Operation) : Grid := ops.foldl perform g

variable {g g' : Grid}

/-- A call does no more than drop candidates or decide one cell. -/
theorem perform_cases (g : Grid) (op : Operation) :
    g.Narrows (g.perform op) ∨ ∃ p tile, g.collapse p tile = .ok (g.perform op) := by
  cases op with
  | restrict p allowed =>
    left
    cases h : g.restrict p allowed with
    | ok r => simpa [perform, h] using Narrows.restrict h (.refl r.1)
    | error e => simpa [perform, h] using Narrows.refl g
  | collapse p tile =>
    cases h : g.collapse p tile with
    | ok g' => exact .inr ⟨p, tile, by simp [perform, h]⟩
    | error e => exact .inl (by simpa [perform, h] using Narrows.refl g)
  | pass ts seeds => exact .inl (narrows_propagate ts g seeds)

theorem valid_perform (hv : g.Valid) (op : Operation) : (g.perform op).Valid := by
  obtain h | ⟨p, tile, h⟩ := perform_cases g op
  · exact h.valid hv
  · exact valid_collapse hv h

theorem shrinks_perform (g : Grid) (op : Operation) : g.Shrinks (g.perform op) := by
  obtain h | ⟨p, tile, h⟩ := perform_cases g op
  · exact h.shrinks
  · exact shrinks_collapse h

theorem valid_performAll (hv : g.Valid) (ops : List Operation) : (g.performAll ops).Valid := by
  induction ops generalizing g with
  | nil => exact hv
  | cons op rest ih => exact ih (valid_perform hv op)

theorem shrinks_performAll (g : Grid) (ops : List Operation) : g.Shrinks (g.performAll ops) := by
  induction ops generalizing g with
  | nil => exact .refl g
  | cons op rest ih => exact (shrinks_perform g op).trans (ih (g.perform op))

theorem Shrinks.becomes (h : g.Shrinks g') (hv : g.Valid) (hv' : g'.Valid) {p : Position}
    {c : Cell} (hc : g.cell? p = some c) : ∃ c', g'.cell? p = some c' ∧ c.Becomes c' := by
  have hin : g'.Inside p := (inside_of_shape h.shape p).mpr (inside_of_cell? hc)
  obtain ⟨c', hc'⟩ := hv'.exists_cell hin
  refine ⟨c', hc', ⟨fun t ht => ?_, fun hs => ?_⟩⟩
  · rw [← admits_of_cell? hc]
    exact h.admits p t ((admits_of_cell? hc').mpr ht)
  · obtain ⟨t, ht⟩ := Option.isSome_iff_exists.mp hs
    have ht' : c'.chosen = some t := by
      rw [← chosen?_of_cell? hc']
      exact h.chosen p t (by rw [chosen?_of_cell? hc, ht])
    -- both have the decided tile for their only candidate
    have hvalid' : c'.Valid g.tileCount := (shape_eq_iff.mp h.shape).2.2 ▸ hv'.cell hc'
    refine hvalid'.eq (hv.cell hc) (fun u => ?_) (ht'.trans ht.symm)
    rw [hvalid'.decided t ht', (hv.cell hc).decided t ht]

/-- After any calls on a new grid there is a valid cell for each position, every further call lets
the cells only lose candidates and the decided ones nothing, and one that succeeds changes its target
alone. Worked out in place, a restriction or a decision does the same, and if it fails it leaves the
whole grid as it was. -/
theorem operations_keep_invariant {width height n : Nat} {full : Grid} {ops : List Operation}
    (hfull : Grid.new width height n = .ok full) (hg : full.performAll ops = g) :
    (g.cells.size = width * height ∧ ∀ c ∈ g.cells, c.Valid n) ∧
    (∀ op p c, g.cell? p = some c → ∃ c', (g.perform op).cell? p = some c' ∧ c.Becomes c') ∧
    (∀ p allowed g' shrank, g.restrict p allowed = .ok (g', shrank) → ∀ q,
      g'.cell? q = if q = p then (g.cell? q).map (Cell.keep allowed) else g.cell? q) ∧
    (∀ p tile g', g.collapse p tile = .ok g' → ∀ q,
      g'.cell? q = if q = p then some ⟨.only n tile, some tile⟩ else g.cell? q) ∧
    (∀ p allowed, (InPlace.restrict p allowed).run g =
      match g.restrict p allowed with
      | .ok (g', shrank) => .ok shrank g'
      | .error e => .error e g) ∧
    ∀ p tile, (InPlace.collapse p tile).run g =
      match g.collapse p tile with
      | .ok g' => .ok () g'
      | .error e => .error e g := by
  subst hg
  have hv := valid_performAll (valid_new hfull) ops
  have hshape := (shrinks_performAll full ops).shape.trans (shape_new hfull)
  generalize full.performAll ops = g at hv hshape
  obtain ⟨rfl, rfl, rfl⟩ : g.width = width ∧ g.height = height ∧ g.tileCount = n := by
    simpa [shape] using hshape
  refine ⟨⟨hv.size, hv.cells⟩, fun op p c hc => ?_, fun p allowed g' shrank h q => ?_,
    fun p tile g' h q => ?_, InPlace.run_restrict g, InPlace.run_collapse g⟩
  · exact (shrinks_perform g op).becomes hv (valid_perform hv op) hc
  · exact cell?_restrict h q
  · exact cell?_collapse hv h q

/-- Calls on a row of three: a decision that comes too late, and a pass that finds the middle cell
between two ends that do not go together. -/
def quarrel : List Operation :=
  [.restrict ⟨0, 0⟩ (.only 2 0), .restrict ⟨2, 0⟩ (.only 2 1), .collapse ⟨2, 0⟩ 0,
    .pass .plains [⟨0, 0⟩, ⟨2, 0⟩], .collapse ⟨1, 0⟩ 0]

/-- The pass stops halfway with the middle cell narrowed, which then is decided. -/
theorem operations_keep_invariant_quarrel : ∃ full g,
    Grid.new 3 1 2 = .ok full ∧ full.performAll quarrel = g ∧
      g.cells = #[⟨.only 2 0, none⟩, ⟨.only 2 0, some 0⟩, ⟨.only 2 1, none⟩] ∧
      (∀ c ∈ g.cells, c.Valid 2) ∧
      (∃ c', (g.perform (.restrict ⟨1, 0⟩ (.only 2 1))).cell? ⟨1, 0⟩ = some c' ∧
        Cell.Becomes ⟨.only 2 0, some 0⟩ c') ∧
      (InPlace.restrict ⟨2, 0⟩ (.only 2 0)).run g = .error (.emptyDomain ⟨2, 0⟩) g := by
  obtain ⟨full, hfull, hcells⟩ : ∃ full, Grid.new 3 1 2 = .ok full ∧
      full.performAll quarrel = ⟨3, 1, 2, #[⟨.only 2 0, none⟩, ⟨.only 2 0, some 0⟩,
        ⟨.only 2 1, none⟩]⟩ :=
    ⟨_, rfl, by decide +kernel⟩
  obtain ⟨⟨-, hvalid⟩, hbecomes, -, -, hrestrict, -⟩ := operations_keep_invariant hfull hcells
  exact ⟨full, _, hfull, hcells, rfl, hvalid, hbecomes _ _ _ rfl, hrestrict _ _⟩

end Grid

end EdgeTiling
