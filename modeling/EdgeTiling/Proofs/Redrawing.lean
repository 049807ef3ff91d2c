import EdgeTiling.Display
import EdgeTiling.Proofs.Consistency
import EdgeTiling.Proofs.FirstChanges
import EdgeTiling.Proofs.Refutation

/-! Drawing only what a step changed. A cell looks otherwise than before when it was decided, lost
candidates or came into contradiction, and the report of the step names every such cell. So the frame
of the new state is the old one with the characters of the reported cells replaced. -/

namespace EdgeTiling

def Status.cell? : Status → Option Position
  | .contradiction p => some p
  | _ => none

def Report.cells (r : Report) : List Position :=
  (r.collapsed.map (·.position)).toList ++ r.narrowed ++ r.status.cell?.toList

/-- Where the character of a cell stands in a frame, in which every row ends a line. -/
def framePlace (width : Nat) (p : Position) : Nat := p.y * (width + 1) + p.x

/-- The frame with the characters of the given cells, and no others, replaced by those that `g` has
for them. -/
def repaint (frame : String) (g : Grid) (c : Catalog) (status : Status) (cells : List Position) :
    String :=
  String.ofList (cells.foldl (fun chars p => chars.set (framePlace g.width p) (cellChar g c status p))
    frame.toList)

theorem Status.cell?_eq_some {status : Status} {p : Position} :
    status.cell? = some p ↔ status = .contradiction p := by
  cases status <;> simp [cell?]

theorem Report.mem_cells {r : Report} {p : Position} : p ∈ r.cells ↔
    (∃ c, r.collapsed = some c ∧ c.position = p) ∨ p ∈ r.narrowed ∨ r.status = .contradiction p := by
  simp [cells, Status.cell?_eq_some]

section Frames

variable {width height : Nat} {f f' : Position → Char} {p : Position}

def frameChars (width height : Nat) (f : Position → Char) : List Char :=
  (List.range height).flatMap fun y => (List.range width).map (fun x => f ⟨x, y⟩) ++ ['\n']

theorem toList_plainFrame (g : Grid) (c : Catalog) (status : Status) :
    (plainFrame g c status).toList = frameChars g.width g.height (cellChar g c status) := by
  unfold plainFrame frameOf frameChars
  rw [String.toList_join, List.flatMap_map]
  congr 1
  funext y
  rw [String.toList_append, String.toList_join, List.flatMap_map, List.map_eq_flatMap]
  simp

theorem frameChars_succ (width height : Nat) (f : Position → Char) :
    frameChars width (height + 1) f = frameChars width height f ++
      ((List.range width).map (fun x => f ⟨x, height⟩) ++ ['\n']) := by
  simp [frameChars, List.range_succ]

theorem length_frameChars (width height : Nat) (f : Position → Char) :
    (frameChars width height f).length = height * (width + 1) := by
  induction height with
  | zero => simp [frameChars]
  | succ height ih =>
    rw [frameChars_succ, List.length_append, ih, Nat.succ_mul]
    simp

theorem frameChars_congr (h : ∀ p : Position, p.x < width → p.y < height → f p = f' p) :
    frameChars width height f = frameChars width height f' := by
  unfold frameChars
  apply List.flatMap_congr
  intro y hy
  congr 1
  apply List.map_congr_left
  intro x hx
  exact h ⟨x, y⟩ (List.mem_range.mp hx) (List.mem_range.mp hy)

theorem set_map_range (width x : Nat) (row : Nat → Char) (a : Char) :
    ((List.range width).map row).set x a =
      (List.range width).map fun i => if i = x then a else row i := by
  apply List.ext_getElem
  · simp
  · intro i hi hi'
    simp [List.getElem_set, eq_comm]

theorem set_frameChars (hx : p.x < width) (hy : p.y < height) (a : Char) :
    (frameChars width height f).set (framePlace width p) a =
      frameChars width height fun q => if q = p then a else f q := by
  induction height with
  | zero => contradiction
  | succ height ih =>
    rw [frameChars_succ, frameChars_succ]
    rcases Nat.lt_or_ge p.y height with hlt | hge
    · -- the last row comes after the place
      have hplace : framePlace width p < (frameChars width height f).length := by
        rw [length_frameChars]
        calc p.y * (width + 1) + p.x < p.y * (width + 1) + (width + 1) := by omega
          _ = (p.y + 1) * (width + 1) := by rw [Nat.succ_mul]
          _ ≤ height * (width + 1) := Nat.mul_le_mul_right _ hlt
      have hrow : ∀ x, (⟨x, height⟩ : Position) ≠ p := by
        rintro x rfl
        exact Nat.lt_irrefl _ hlt
      rw [List.set_append_left _ _ hplace, ih hlt]
      simp only [hrow, if_false]
    · obtain rfl : p.y = height := by omega
      have habove : frameChars width p.y (fun q => if q = p then a else f q) =
          frameChars width p.y f := by
        apply frameChars_congr
        rintro q - hq
        rw [if_neg]
        rintro rfl
        exact Nat.lt_irrefl _ hq
      have hplace : framePlace width p - (frameChars width p.y f).length = p.x := by
        rw [length_frameChars, framePlace, Nat.add_sub_cancel_left]
      rw [habove, List.set_append_right _ _ (by rw [length_frameChars]; exact Nat.le_add_right _ _),
        hplace, List.set_append_left _ _ (by simpa using hx), set_map_range]
      congr 2
      apply List.map_congr_left
      intro x _
      simp [Position.ext_iff]

theorem foldl_set_frameChars {cells : List Position}
    (hcells : ∀ p ∈ cells, p.x < width ∧ p.y < height) :
    cells.foldl (fun chars p => chars.set (framePlace width p) (f' p)) (frameChars width height f) =
      frameChars width height fun q => if q ∈ cells then f' q else f q := by
  induction cells generalizing f with
  | nil => simp
  | cons p rest ih =>
    obtain ⟨⟨hx, hy⟩, hrest⟩ := List.forall_mem_cons.mp hcells
    rw [List.foldl_cons, set_frameChars hx hy, ih hrest]
    congr 1
    funext q
    by_cases hq : q ∈ rest
    · simp [hq]
    · by_cases hqp : q = p <;> simp [hq, hqp]

/-- If two grids of one shape look the same outside of the given cells, repainting these leads from
the frame of one to that of the other. -/
theorem repaint_plainFrame {g g' : Grid} {c : Catalog} {status status' : Status}
    {cells : List Position} (hshape : g'.shape = g.shape) (hcells : ∀ p ∈ cells, g.Inside p)
    (hsame : ∀ p, p ∉ cells → cellChar g' c status' p = cellChar g c status p) :
    repaint (plainFrame g c status) g' c status' cells = plainFrame g' c status' := by
  obtain ⟨hw, hh, -⟩ := Grid.shape_eq_iff.mp hshape
  apply String.toList_inj.mp
  rw [repaint, String.toList_ofList, toList_plainFrame, toList_plainFrame, hw, hh,
    foldl_set_frameChars hcells]
  apply frameChars_congr
  intro p _ _
  split
  · rfl
  · next hp => exact (hsame p hp).symm

end Frames

section Cells

variable {ts : TileSet} {g g' : Grid} {seeds : List Position} {p q : Position}

theorem cellChar_congr {c : Catalog} {status status' : Status} (h : g'.cell? p = g.cell? p)
    (hs : status ≠ .contradiction p) (hs' : status' ≠ .contradiction p) :
    cellChar g' c status' p = cellChar g c status p := by
  simp [cellChar, hs, hs', Grid.chosen?, Grid.domainSize, Grid.domain?, h]

theorem cell?_propagate (hp : p ∉ (propagate ts g seeds).narrowed) :
    (propagate ts g seeds).grid.cell? p = g.cell? p := by
  have hdomain : (propagate ts g seeds).grid.domain? p = g.domain? p := by
    by_contra hne
    exact hp (((records_propagate ts g seeds).mem_iff p).mpr hne)
  have hchosen := (narrows_propagate ts g seeds).chosen?_eq p
  unfold Grid.domain? at hdomain
  unfold Grid.chosen? at hchosen
  cases hc : g.cell? p with
  | none => simpa [hc] using hdomain
  | some c =>
    rw [hc] at hdomain hchosen
    obtain ⟨c', hc', heq⟩ := Option.map_eq_some_iff.mp hdomain
    rw [hc', Option.some.injEq]
    exact Cell.ext heq (by simpa [hc'] using hchosen)

theorem Grid.cell?_eq_none (h : ¬ g.Inside p) : g.cell? p = none := by
  simp [cell?, index?, h]

theorem inside_of_mem_narrowed (hp : p ∈ (propagate ts g seeds).narrowed) : g.Inside p := by
  have hchanged := ((records_propagate ts g seeds).mem_iff p).mp hp
  by_contra hout
  have hout' : ¬ (propagate ts g seeds).grid.Inside p := by
    rwa [Grid.inside_of_shape (narrows_propagate ts g seeds).shape_eq]
  apply hchanged
  rw [Grid.domain?, Grid.cell?_eq_none hout', Grid.domain?, Grid.cell?_eq_none hout]

theorem Grid.Stuck.inside (h : g.Stuck ts (.contradiction q)) : g.Inside q := by
  obtain ⟨p, q', d, source, cause, -, -, -, hr, he⟩ := h
  cases cause with
  | emptyDomain position =>
    cases he
    obtain ⟨rfl, hin, -⟩ := restrict_eq_emptyDomain hr
    exact hin
  | _ => simp [PropagationError.ofGridError] at he

end Cells

namespace Engine

variable {σ : Type} {ts : TileSet} {scheduler : Scheduler σ} {agenda : σ} {s : Solve σ Unit}
  {r : Report}

/-- A step changes no cell that it does not report. -/
theorem cell?_step (h : ((flooding ts scheduler agenda).step s).result = .ok r) {p : Position}
    (hp : p ∉ r.cells) :
    ((flooding ts scheduler agenda).step s).solve.grid.cell? p = s.grid.cell? p := by
  obtain ⟨-, ⟨-, hgrid⟩ | ⟨q, tile, g, hc, hmade, hnarrowed, hgrid, -⟩⟩ := report_of_step h
  · rw [hgrid]
  · rw [Report.mem_cells, hmade, hnarrowed] at hp
    obtain ⟨hq, hrest⟩ := not_or.mp hp
    have hpq : p ≠ q := by
      rintro rfl
      exact hq ⟨_, rfl, rfl⟩
    rw [hgrid, cell?_propagate (not_or.mp hrest).1, Grid.cell?_collapse_of_ne hc hpq]

theorem inside_of_mem_cells (h : ((flooding ts scheduler agenda).step s).result = .ok r)
    {p : Position} (hp : p ∈ r.cells) : s.grid.Inside p := by
  obtain ⟨-, ⟨rfl, -⟩ | ⟨q, tile, g, hc, hmade, hnarrowed, -, hstatus⟩⟩ := report_of_step h
  · simp [Report.cells, Status.cell?] at hp
  · have hinside := Grid.inside_of_shape (Grid.shape_collapse hc)
    rw [Report.mem_cells, hmade, hnarrowed] at hp
    rcases hp with ⟨c, hc', rfl⟩ | hp | hp
    · cases hc'
      exact Grid.inside_of_admits (Grid.of_collapse hc).2
    · exact (hinside p).mp (inside_of_mem_narrowed hp)
    · have hin := (stuck_flood (hstatus p hp)).inside
      rw [Grid.inside_of_shape (narrows_flood ts g [q]).shape_eq] at hin
      exact (hinside p).mp hin

theorem cellChar_step (h : ((flooding ts scheduler agenda).step s).result = .ok r) {p : Position}
    (hp : p ∉ r.cells) (c : Catalog) :
    cellChar ((flooding ts scheduler agenda).step s).solve.grid c
        ((flooding ts scheduler agenda).step s).solve.status p =
      cellChar s.grid c s.status p := by
  apply cellChar_congr (cell?_step h hp)
  · rw [(report_of_step h).1]
    simp
  · rw [status_step h]
    intro hs
    exact hp (Report.mem_cells.mpr (.inr (.inr hs)))

/-- Whatever the scheduler, the report of a step is enough to redraw. Every position that it does not
name has the cell that it had and looks as it did; and repainting the positions that it names turns the
last frame into that of the new state. -/
theorem report_suffices_to_redraw {next : Solve σ Unit}
    (h : ((flooding ts scheduler agenda).step s).result = .ok r)
    (hnext : ((flooding ts scheduler agenda).step s).solve = next) :
    (∀ p, (∀ made, r.collapsed = some made → made.position ≠ p) → p ∉ r.narrowed →
        r.status ≠ .contradiction p → next.grid.cell? p = s.grid.cell? p ∧
          ∀ c, cellChar next.grid c next.status p = cellChar s.grid c s.status p) ∧
    ∀ c, repaint (plainFrame s.grid c s.status) next.grid c next.status r.cells =
      plainFrame next.grid c next.status := by
  subst hnext
  refine ⟨fun p hmade hnarrowed hstatus => ?_, fun c => ?_⟩
  · have hp : p ∉ r.cells := by
      rw [Report.mem_cells]
      rintro (⟨made, hsome, rfl⟩ | hmem | hcontra)
      · exact hmade made hsome rfl
      · exact hnarrowed hmem
      · exact hstatus hcontra
    exact ⟨cell?_step h hp, cellChar_step h hp⟩
  · apply repaint_plainFrame
    · exact (shrinks_step (flooding ts scheduler agenda) s).shape
    · exact fun p hp => inside_of_mem_cells h hp
    · exact fun p hp => cellChar_step h hp c

/-- The ring breaks beside a column that takes no part in it: the step decides a corner, narrows the
three others and comes to a contradiction at the last, and the column stays. -/
theorem report_suffices_to_redraw_twisted : ∃ s r next,
    ((standard .twisted .firstMinimum).start 3 2 5 TileSet.twistedCorners).result = .ok s ∧
    ((standard .twisted .firstMinimum).step s).result = .ok r ∧
    ((standard .twisted .firstMinimum).step s).solve = next ∧
    r.cells = [⟨0, 0⟩, ⟨1, 0⟩, ⟨0, 1⟩, ⟨1, 1⟩, ⟨1, 1⟩] ∧
    next.grid.cell? ⟨2, 1⟩ = s.grid.cell? ⟨2, 1⟩ ∧
    repaint "224\n224\n" next.grid (.ofTileSet .twisted []) next.status r.cells = "x14\n1!4\n" := by
  obtain ⟨s, hs, heval⟩ : ∃ s,
      ((standard .twisted .firstMinimum).start 3 2 5 TileSet.twistedCorners).result = .ok s ∧
      (((standard .twisted .firstMinimum).step s).result.toOption.map Report.cells,
        plainFrame s.grid (.ofTileSet .twisted []) s.status,
        plainFrame ((standard .twisted .firstMinimum).step s).solve.grid (.ofTileSet .twisted [])
          ((standard .twisted .firstMinimum).step s).solve.status) =
      (some [⟨0, 0⟩, ⟨1, 0⟩, ⟨0, 1⟩, ⟨1, 1⟩, ⟨1, 1⟩], "224\n224\n", "x14\n1!4\n") :=
    exists_start (by decide +kernel)
  simp only [Prod.mk.injEq] at heval
  obtain ⟨hstep, hbefore, hafter⟩ := heval
  obtain ⟨r, hr, hcells⟩ := exists_of_toOption_map hstep
  obtain ⟨hsame, hframe⟩ := report_suffices_to_redraw hr rfl
  have hp : ⟨2, 1⟩ ∉ r.cells := by
    rw [hcells]
    decide
  rw [Report.mem_cells, not_or, not_or] at hp
  obtain ⟨hmade, hnarrowed, hstatus⟩ := hp
  refine ⟨s, r, _, hs, hr, rfl, hcells, (hsame ⟨2, 1⟩ ?_ hnarrowed hstatus).1, ?_⟩
  · intro made hsome heq
    exact hmade ⟨made, hsome, heq⟩
  · rw [← hbefore, ← hafter]
    exact hframe _

end Engine

end EdgeTiling
