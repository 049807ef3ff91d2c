import EdgeTiling.Proofs.Changes

/-! The operations on a grid as programs that write into it. Such a program makes its checks and then
changes one flag after the other, and what it has written stays written even if it fails. The
programs come to the same as restrictions and decisions that hand out a new grid; in particular none
has written anything by the time it fails. -/

namespace EdgeTiling

namespace Domain

variable {D A : Domain} {t u : TileId}

theorem length_tiles (D : Domain) : D.tiles.length = D.size := by
  have hflags : (List.range D.width).map D.has = D.flags := by
    apply List.ext_getElem
    · simp [width]
    · intro t _ ht
      simp [has, List.getD, ht]
  rw [size, ← hflags, List.count_eq_countP, List.countP_map, List.countP_eq_length_filter, tiles]
  congr 2
  funext t
  simp

theorem tiles_inter (D A : Domain) : (D.inter A).tiles = D.tiles.filter A.has := by
  simp only [tiles, width_inter, List.filter_filter]
  congr 1
  funext t
  rw [has_inter, Bool.and_comm]

def dropped (D A : Domain) : List TileId := D.tiles.filter fun t => !A.has t

theorem mem_dropped : t ∈ D.dropped A ↔ D.has t = true ∧ A.has t = false := by
  simp [dropped, mem_tiles]

theorem size_inter_add_dropped (D A : Domain) :
    (D.inter A).size + (D.dropped A).length = D.size := by
  rw [← length_tiles, ← length_tiles D, tiles_inter, dropped]
  exact (List.length_eq_length_filter_add A.has).symm

theorem size_inter_eq_zero_iff : (D.inter A).size = 0 ↔ (D.dropped A).length = D.size := by
  rw [← size_inter_add_dropped D A]
  omega

theorem dropped_eq_nil_iff : D.dropped A = [] ↔ D.inter A = D := by
  rw [List.eq_nil_iff_forall_not_mem]
  constructor
  · intro h
    apply eq_of_has (width_inter D A)
    intro t
    have ht := h t
    rw [mem_dropped] at ht
    simp only [has_inter, Bool.and_eq_true, and_iff_left_iff_imp]
    intro hD
    simpa [hD] using ht
  · intro h t ht
    obtain ⟨hD, hA⟩ := mem_dropped.mp ht
    rw [← h, has_inter, hA] at hD
    simp at hD

def put (D : Domain) (b : Bool) (t : TileId) : Domain := ⟨D.flags.set t b⟩

@[simp] theorem width_put (D : Domain) (b : Bool) (t : TileId) : (D.put b t).width = D.width := by
  simp [put, width]

theorem has_put_false : (D.put false t).has u = true ↔ u ≠ t ∧ D.has u = true := by
  by_cases hu : t = u
  · subst hu
    by_cases ht : t < D.flags.length <;> simp [put, has, List.getD, ht]
  · simp [put, has, List.getD, List.getElem?_set_ne hu, Ne.symm hu]

theorem has_put_true (ht : t < D.width) :
    (D.put true t).has u = true ↔ u = t ∨ D.has u = true := by
  by_cases hu : t = u
  · subst hu
    simp [put, has, List.getD, show t < D.flags.length from ht]
  · simp [put, has, List.getD, List.getElem?_set_ne hu, Ne.symm hu]

theorem width_foldl_put (b : Bool) (ts : List TileId) (D : Domain) :
    (ts.foldl (put · b) D).width = D.width := by
  induction ts generalizing D with
  | nil => rfl
  | cons t ts ih => rw [List.foldl_cons, ih, width_put]

theorem has_foldl_put_false (ts : List TileId) (D : Domain) :
    (ts.foldl (put · false) D).has u = true ↔ u ∉ ts ∧ D.has u = true := by
  induction ts generalizing D with
  | nil => simp
  | cons t ts ih =>
    rw [List.foldl_cons, ih, has_put_false, List.mem_cons, not_or]
    exact and_left_comm.trans and_assoc.symm

theorem foldl_put_dropped (D A : Domain) :
    (D.dropped A).foldl (put · false) D = D.inter A := by
  apply eq_of_has
  · rw [width_foldl_put, width_inter]
  · intro t
    rw [has_foldl_put_false, mem_dropped, has_inter, Bool.and_eq_true]
    cases D.has t <;> simp

theorem put_foldl_put_range (ht : t < D.width) :
    ((List.range D.width).foldl (put · false) D).put true t = only D.width t := by
  have hw := width_foldl_put false (List.range D.width) D
  apply eq_of_has
  · rw [width_put, hw, width_only]
  · intro u
    rw [has_put_true (by rwa [hw]), has_foldl_put_false, has_only, List.mem_range]
    constructor
    · rintro (rfl | ⟨hu, hD⟩)
      · exact ⟨ht, rfl⟩
      · exact absurd (lt_width_of_has hD) hu
    · exact fun hu => .inl hu.2

end Domain

namespace Grid

def replace (g : Grid) (i : Nat) (c : Cell) : Grid :=
  { g with cells := g.cells.setIfInBounds i c }

variable {g : Grid} {i : Nat} {c : Cell}

theorem getElem?_replace (hc : g.cells[i]? = some c) (c' : Cell) :
    (g.replace i c').cells[i]? = some c' := by
  have hlt : i < g.cells.size := (Array.getElem?_eq_some_iff.mp hc).1
  simp [replace, hlt]

theorem replace_self (hc : g.cells[i]? = some c) : g.replace i c = g := by
  obtain ⟨hlt, rfl⟩ := Array.getElem?_eq_some_iff.mp hc
  simp [replace, Array.setIfInBounds, hlt]

theorem replace_replace (g : Grid) (i : Nat) (c c' : Cell) :
    (g.replace i c).replace i c' = g.replace i c' := by
  simp [replace]

end Grid

/-- A program that works on a grid in place; the grid outlasts a failure. -/
abbrev InPlace := EStateM GridError Grid

namespace InPlace

def change (i : Nat) (f : Cell → Cell) : InPlace Unit :=
  modify fun g => { g with cells := g.cells.modify i f }

def putFlag (i : Nat) (b : Bool) (t : TileId) : InPlace Unit :=
  change i fun c => { c with domain := c.domain.put b t }

def find (p : Position) : InPlace (Nat × Cell) := do
  match (← get).locate p with
  | .ok found => return found
  | .error e => throw e

/-- Clears the flags that are not allowed, once it is known that one will be left. -/
def restrict (p : Position) (allowed : Domain) : InPlace Bool := do
  let (i, c) ← find p
  let n := (← get).tileCount
  let dropped := c.domain.dropped allowed
  if allowed.width ≠ n then throw (.maskLength n allowed.width)
  else if c.chosen.isSome then return false
  else if dropped.isEmpty then return false
  else if dropped.length = c.domain.size then throw (.emptyDomain p)
  else
    dropped.forM (putFlag i false)
    return true

/-- Clears every flag, sets that of `tile` again and notes the decision. -/
def collapse (p : Position) (tile : TileId) : InPlace Unit := do
  let (i, c) ← find p
  if c.chosen.isSome then throw (.alreadyResolved p)
  else if c.domain.has tile = false then throw (.notInDomain p tile)
  else
    (List.range c.domain.width).forM (putFlag i false)
    putFlag i true tile
    change i fun c => { c with chosen := some tile }

@[simp] theorem run_throw {α : Type} (e : GridError) (g : Grid) :
    (throw e : InPlace α).run g = .error e g := rfl

@[simp] theorem run_find (g : Grid) (p : Position) :
    (find p).run g =
      match g.locate p with
      | .ok found => .ok found g
      | .error e => .error e g := by
  cases hl : g.locate p <;> simp [find, hl]

variable {g : Grid} {i : Nat} {c : Cell}

theorem run_change (hc : g.cells[i]? = some c) (f : Cell → Cell) :
    (change i f).run g = .ok () (g.replace i (f c)) := by
  obtain ⟨hlt, rfl⟩ := Array.getElem?_eq_some_iff.mp hc
  have hcells : g.cells.modify i f = g.cells.setIfInBounds i (f g.cells[i]) := by
    apply Array.ext_getElem?
    intro j
    rw [Array.getElem?_modify, Array.getElem?_setIfInBounds]
    split
    · next hij => simp [← hij, hlt]
    · rfl
  simp [change, Grid.replace, hcells]

theorem run_change_replace (hc : g.cells[i]? = some c) (f : Cell → Cell) (c' : Cell) :
    (change i f).run (g.replace i c') = .ok () (g.replace i (f c')) := by
  rw [run_change (Grid.getElem?_replace hc c'), Grid.replace_replace]

theorem run_putFlags (hc : g.cells[i]? = some c) (b : Bool) (ts : List TileId) (D : Domain) :
    (forM ts (putFlag i b)).run (g.replace i { c with domain := D }) =
      .ok () (g.replace i { c with domain := ts.foldl (Domain.put · b) D }) := by
  induction ts generalizing D with
  | nil => rfl
  | cons t ts ih => simp [putFlag, run_change_replace hc, ih]

/-- In place or not, a restriction has the same outcome; if it fails, nothing has been written. -/
theorem run_restrict (g : Grid) (p : Position) (allowed : Domain) :
    (restrict p allowed).run g =
      match g.restrict p allowed with
      | .ok (g', shrank) => .ok shrank g'
      | .error e => .error e g := by
  cases hl : g.locate p with
  | error e => simp [restrict, Grid.restrict, hl]
  | ok found =>
    obtain ⟨i, c⟩ := found
    have hc := (Grid.locate_eq_ok hl).2
    have hclear := run_putFlags hc false (c.domain.dropped allowed) c.domain
    rw [Grid.replace_self hc, Domain.foldl_put_dropped] at hclear
    simp only [Grid.restrict, hl, ← Domain.dropped_eq_nil_iff, Domain.size_inter_eq_zero_iff,
      restrict, EStateM.run_bind, run_find, EStateM.run_get, List.isEmpty_iff, List.forM_eq_forM]
    -- both sides now make the same checks; only the last branch writes
    split_ifs
    · rfl
    · rfl
    · rfl
    · rfl
    · rw [EStateM.run_bind, hclear]
      rfl

theorem run_collapse (g : Grid) (p : Position) (tile : TileId) :
    (collapse p tile).run g =
      match g.collapse p tile with
      | .ok g' => .ok () g'
      | .error e => .error e g := by
  cases hl : g.locate p with
  | error e => simp [collapse, Grid.collapse, hl]
  | ok found =>
    obtain ⟨i, c⟩ := found
    have hc := (Grid.locate_eq_ok hl).2
    have hclear := run_putFlags hc false (List.range c.domain.width) c.domain
    rw [Grid.replace_self hc] at hclear
    simp only [Grid.collapse, hl, collapse, EStateM.run_bind, run_find, List.forM_eq_forM]
    split_ifs with hs ht
    · rfl
    · rfl
    · have hlt : tile < c.domain.width := Domain.lt_width_of_has (by simpa using ht)
      simp only [EStateM.run_bind, hclear, putFlag, run_change_replace hc,
        Domain.put_foldl_put_range hlt]
      rfl

end InPlace

end EdgeTiling
