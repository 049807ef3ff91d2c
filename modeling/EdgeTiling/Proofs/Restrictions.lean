import EdgeTiling.Proofs.Confluence
import EdgeTiling.Proofs.Lines
import EdgeTiling.Snapshot

/-! Restrictions given before a solve. However they are listed, the grid comes to admit at each
cell what all lists for that cell have in common; one of them empties a cell exactly if the lists
for some cell have nothing in common. So a set-up depends on what is allowed where and not on the
order of the restrictions, their number or the way they are divided up, and neither does anything
later. -/

namespace EdgeTiling

namespace Engine

def Allows (given : List Given) (p : Position) (t : TileId) : Prop :=
  ∀ x ∈ given, x.1 = p → t ∈ x.2

instance (given : List Given) (p : Position) (t : TileId) : Decidable (Allows given p t) :=
  inferInstanceAs (Decidable (∀ x ∈ given, x.1 = p → t ∈ x.2))

def Known (ts : TileSet) (width height : Nat) (given : List Given) : Prop :=
  ∀ x ∈ given, x.1.x < width ∧ x.1.y < height ∧ ∀ t ∈ x.2, t < ts.size

instance (ts : TileSet) (width height : Nat) (given : List Given) :
    Decidable (Known ts width height given) :=
  inferInstanceAs (Decidable
    (∀ x ∈ given, x.1.x < width ∧ x.1.y < height ∧ ∀ t ∈ x.2, t < ts.size))

def SameRestrictions (ts : TileSet) (width height : Nat) (given given' : List Given) : Prop :=
  ∀ p t, p.x < width → p.y < height → t < ts.size → (Allows given p t ↔ Allows given' p t)

instance (ts : TileSet) (width height : Nat) (given given' : List Given) :
    Decidable (SameRestrictions ts width height given given') :=
  decidable_of_iff
    (∀ x < width, ∀ y < height, ∀ t < ts.size, (Allows given ⟨x, y⟩ t ↔ Allows given' ⟨x, y⟩ t))
    ⟨fun h p t hx hy ht => h p.x hx p.y hy t ht, fun h x hx y hy t ht => h ⟨x, y⟩ t hx hy ht⟩

section Grids

variable {ts : TileSet} {g g₁ g₂ : Grid} {given given' : List Given} {stop stop' : Option Position}

theorem admits_applyGiven_iff (hv : g.Valid) (ho : ∀ p, g.chosen? p = none)
    (h : applyGiven ts g given = .ok (g₁, none)) {p : Position} {t : TileId} :
    g₁.Admits p t ↔ g.Admits p t ∧ Allows given p t := by
  have hnar := narrows_applyGiven h
  have hleft : ∀ q u, g₁.Admits q u → g.Admits q u ∧ Allows given q u := by
    intro q u hu
    refine ⟨hnar.admits hu, ?_⟩
    rintro ⟨r, tiles⟩ hx rfl
    exact (admits_applyGiven h ho hx).2 u hu
  refine ⟨hleft p t, fun ht => ?_⟩
  -- what all lists allow is a family that no restriction takes anything from
  have hholds := (holds_applyGiven (E := fun q u => g.Admits q u ∧ Allows given q u) h
    (fun q tiles hx _ u hu => hu.2 _ hx rfl) (fun q u _ hu => hu.1) (fun q hq => ?_)).1
  · exact hholds p t ((Grid.inside_of_shape hnar.shape_eq p).mpr (Grid.inside_of_admits ht.1)) ht
  · obtain ⟨u, hu⟩ :=
      (hnar.valid hv).exists_admits ((Grid.inside_of_shape hnar.shape_eq q).mpr hq)
    exact ⟨u, hleft q u hu⟩

theorem stop_eq_none_iff (hv : g.Valid) (ho : ∀ p, g.chosen? p = none)
    (h : applyGiven ts g given = .ok (g₁, stop)) :
    stop = none ↔ ∀ p, g.Inside p → ∃ t, g.Admits p t ∧ Allows given p t := by
  constructor
  · rintro rfl p hp
    have hnar := narrows_applyGiven h
    obtain ⟨t, ht⟩ :=
      (hnar.valid hv).exists_admits ((Grid.inside_of_shape hnar.shape_eq p).mpr hp)
    exact ⟨t, (admits_applyGiven_iff hv ho h).mp ht⟩
  · intro hsome
    exact (holds_applyGiven (E := fun q u => g.Admits q u ∧ Allows given q u) h
      (fun q tiles hx _ u hu => hu.2 _ hx rfl) (fun q u _ hu => hu.1) hsome).2

/-- Restrictions that allow the same leave the same grid, or empty a cell both. -/
theorem applyGiven_congr (hv : g.Valid) (ho : ∀ p, g.chosen? p = none)
    (hsame : ∀ p t, g.Admits p t → (Allows given p t ↔ Allows given' p t))
    (h₁ : applyGiven ts g given = .ok (g₁, stop)) (h₂ : applyGiven ts g given' = .ok (g₂, stop')) :
    (stop = none ∧ stop' = none ∧ g₁ = g₂) ∨ (stop ≠ none ∧ stop' ≠ none) := by
  have hstop : stop = none ↔ stop' = none := by
    rw [stop_eq_none_iff hv ho h₁, stop_eq_none_iff hv ho h₂]
    refine forall_congr' fun p => imp_congr_right fun _ => exists_congr fun t => ?_
    exact and_congr_right (hsame p t)
  by_cases hnone : stop = none
  · obtain rfl := hnone
    obtain rfl := hstop.mp rfl
    refine .inl ⟨rfl, rfl, ?_⟩
    have hnar₁ := narrows_applyGiven h₁
    have hnar₂ := narrows_applyGiven h₂
    have hshape : g₁.shape = g₂.shape := hnar₁.shape_eq.trans hnar₂.shape_eq.symm
    have hadm : ∀ p t, g₁.Admits p t ↔ g₂.Admits p t := by
      intro p t
      rw [admits_applyGiven_iff hv ho h₁, admits_applyGiven_iff hv ho h₂]
      exact and_congr_right (hsame p t)
    have hch : ∀ p, g₁.chosen? p = g₂.chosen? p := by
      intro p
      rw [hnar₁.chosen?_eq, hnar₂.chosen?_eq]
    refine Grid.Shrinks.antisymm ?_ ?_ (hnar₁.valid hv) (hnar₂.valid hv)
    · exact ⟨hshape.symm, fun p t => (hadm p t).mpr, fun p t ht => hch p ▸ ht⟩
    · exact ⟨hshape, fun p t => (hadm p t).mp, fun p t ht => hch p ▸ ht⟩
  · exact .inr ⟨hnone, mt hstop.mpr hnone⟩

end Grids

section SetUps

variable {σ π : Type} {e : Engine σ π} {width height : Nat} {seed : UInt64}
  {given given' : List Given} {s s' : Solve σ π}

theorem Opening.applied (h : Opening e width height given s) :
    ∃ full g stop, Grid.new width height e.tiles.size = .ok full ∧
      applyGiven e.tiles full given = .ok (g, stop) ∧
      (stop ≠ none → ∃ p, s.status = .contradiction p) := by
  cases h with
  | @emptied full p hfull happ hs => exact ⟨full, _, some p, hfull, happ, fun _ => ⟨p, hs⟩⟩
  | @blocked full g pass memory p hfull happ => exact ⟨full, g, none, hfull, happ, by simp⟩
  | @ready full g pass memory hfull happ => exact ⟨full, g, none, hfull, happ, by simp⟩

/-- The restrictions matter to a set-up only through the grid that they leave. -/
theorem start_congr {full : Grid} (hfull : Grid.new width height e.tiles.size = .ok full)
    (happ : applyGiven e.tiles full given = applyGiven e.tiles full given') :
    e.start width height seed given = e.start width height seed given' := by
  unfold start
  simp only [hfull, happ]

/-- Under any propagator, restrictions that allow the same are the same to a set-up, unless they
contradict each other. -/
theorem eq_or_contradiction_of_start (hsame : SameRestrictions e.tiles width height given given')
    (h : (e.start width height seed given).result = .ok s)
    (h' : (e.start width height seed given').result = .ok s') :
    s = s' ∨ ∃ p q, s.status = .contradiction p ∧ s'.status = .contradiction q := by
  obtain ⟨full, g, stop, hfull, happ, hstop⟩ := (opening_of_start h).applied
  obtain ⟨full', g', stop', hfull', happ', hstop'⟩ := (opening_of_start h').applied
  cases hfull.symm.trans hfull'
  have hallows : ∀ p t, full.Admits p t → (Allows given p t ↔ Allows given' p t) := by
    intro p t ht
    have hp := Grid.inside_of_admits ht
    obtain ⟨hx, hy⟩ := (Grid.inside_iff_of_shape (Grid.shape_new hfull)).mp hp
    exact hsame p t hx hy ((Grid.admits_new hfull hp).mp ht)
  rcases applyGiven_congr (Grid.valid_new hfull) (Grid.chosen?_new hfull) hallows happ happ' with
    ⟨rfl, rfl, rfl⟩ | ⟨hne, hne'⟩
  · rw [← start_congr hfull (happ.trans happ'.symm), h] at h'
    exact .inl (Except.ok.inj h')
  · obtain ⟨p, hp⟩ := hstop hne
    obtain ⟨q, hq⟩ := hstop' hne'
    exact .inr ⟨p, q, hp, hq⟩

end SetUps

inductive Reply
  | step (result : Except SolverError Report)
  | run (result : Except SolverError Status)

structure Sight where
  reply : Reply
  status : Status
  history : List Collapse
  steps : Nat
  snapshot : Snapshot

section Transcripts

variable {σ π : Type}

def reply (e : Engine σ π) (s : Solve σ π) : Call → Reply
  | .step => .step (e.step s).result
  | .run => .run (e.run s).result

/-- All that is returned and can be seen while calls are made of a solve. -/
def transcript (e : Engine σ π) (s : Solve σ π) : List Call → List Sight
  | [] => []
  | call :: rest =>
    let now := e.answer s call
    ⟨e.reply s call, now.status, now.history, now.steps, now.snapshot⟩ :: e.transcript now rest

end Transcripts

section Main

variable {σ : Type} {ts : TileSet} {width height : Nat} {given given' : List Given}

/-- Restrictions of cells of the grid to known tiles that allow the same lead to the same solve: the
set-up of either ends in a contradiction, or both are in progress with the same grid, and from then
on no sequence of calls tells them apart. Where there is no grid, both fail alike. -/
theorem same_restrictions_same_solve (scheduler : Scheduler σ) (agenda : σ) (seed : UInt64)
    (h : Known ts width height given) (h' : Known ts width height given')
    (hsame : SameRestrictions ts width height given given') :
    let e := flooding ts scheduler agenda
    (∀ cause, Grid.new width height ts.size = .error cause →
      (e.start width height seed given).result = .error (.grid cause) ∧
      (e.start width height seed given').result = .error (.grid cause)) ∧
    ∀ full, Grid.new width height ts.size = .ok full →
      ∃ s s', (e.start width height seed given).result = .ok s ∧
        (e.start width height seed given').result = .ok s' ∧
        ((∃ p q, s.status = .contradiction p ∧ s'.status = .contradiction q) ∨
          (s.status = .inProgress ∧ s'.status = .inProgress ∧ s.grid = s'.grid ∧
            ∀ calls, e.transcript s calls = e.transcript s' calls)) := by
  intro e
  constructor
  · intro cause hno
    have hno' : Grid.new width height e.tiles.size = .error cause := hno
    constructor <;> simp only [start, hno']
  · intro full hfull
    obtain ⟨s, hs⟩ : ∃ s, (e.start width height seed given).result = .ok s :=
      exists_start_of_known hfull (fun p tiles hx => h _ hx) seed
    obtain ⟨s', hs'⟩ : ∃ s', (e.start width height seed given').result = .ok s' :=
      exists_start_of_known hfull (fun p tiles hx => h' _ hx) seed
    refine ⟨s, s', hs, hs', ?_⟩
    rcases eq_or_contradiction_of_start hsame hs hs' with rfl | hboth
    · cases opening_of_start hs with
      | emptied _ _ hstatus => exact .inl ⟨_, _, hstatus, hstatus⟩
      | blocked _ _ _ _ _ hstatus => exact .inl ⟨_, _, hstatus, hstatus⟩
      | ready _ _ _ _ _ hstatus => exact .inr ⟨hstatus, hstatus, rfl, fun _ => rfl⟩
    · exact .inl hboth

/-- The corners of the ring in another order, repeated, and as intersections of longer lists. -/
def scattered : List Given :=
  [(⟨0, 1⟩, [7, 3, 7]), (⟨0, 0⟩, [0, 1, 4]), (⟨1, 1⟩, [6, 2]), (⟨0, 0⟩, [5, 4, 0]),
    (⟨1, 0⟩, [5, 1, 2, 6]), (⟨1, 1⟩, [6, 2]), (⟨1, 0⟩, [0, 1, 3, 5])]

theorem same_restrictions_same_solve_scattered : ∃ s s',
    ((standard .twisted .firstMinimum).start 2 2 5 TileSet.twistedCorners).result = .ok s ∧
      ((standard .twisted .firstMinimum).start 2 2 5 scattered).result = .ok s' ∧
      s.status = .inProgress ∧ s'.status = .inProgress ∧ s.grid = s'.grid ∧
      ∀ calls, (standard .twisted .firstMinimum).transcript s calls =
        (standard .twisted .firstMinimum).transcript s' calls := by
  have hknown : Known .twisted 2 2 TileSet.twistedCorners := by decide +kernel
  have hknown' : Known .twisted 2 2 scattered := by decide +kernel
  have hsame : SameRestrictions .twisted 2 2 TileSet.twistedCorners scattered := by decide +kernel
  obtain ⟨s, h, hs⟩ : ∃ s,
      ((standard .twisted .firstMinimum).start 2 2 5 TileSet.twistedCorners).result = .ok s ∧
        s.status = .inProgress := exists_start (by decide +kernel)
  obtain ⟨t, t', ht, ht', ⟨p, q, hp, -⟩ | hboth⟩ :=
    (same_restrictions_same_solve (.fewest .firstMinimum) () 5 hknown hknown' hsame).2 _ rfl
  all_goals obtain rfl : s = t := Except.ok.inj (h.symm.trans ht)
  · simp [hs] at hp
  · exact ⟨s, t', h, ht', hboth⟩

end Main

end Engine

end EdgeTiling
