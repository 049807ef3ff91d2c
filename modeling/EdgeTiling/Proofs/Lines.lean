import EdgeTiling.Proofs.Progress
import EdgeTiling.Proofs.Refutation

/-! Grids of one row or one column. Along a line arc consistency is all there is to ask for: a tile
that fits one of the next cell can be continued to both ends, so every candidate of every cell is
part of a tiling. Hence the set-up decides whether a line can be tiled, and no decision made later
is ever wrong. In two dimensions neither is so. -/

namespace EdgeTiling

structure Links (A : Nat → TileId → Prop) (R : TileId → TileId → Prop) (n : Nat)
    (f : Nat → TileId) : Prop where
  chosen : ∀ i < n, A i (f i)
  fits : ∀ i, i + 1 < n → R (f i) (f (i + 1))

section Links

variable {A : Nat → TileId → Prop} {R : TileId → TileId → Prop} {f : Nat → TileId} {n k : Nat}
  {t : TileId}

theorem Links.extend (h : Links A R (n + 1) f) (ht : A (n + 1) t) (hfit : R (f n) t) :
    Links A R (n + 2) fun i => if i = n + 1 then t else f i where
  chosen i hi := by
    split
    · next heq => exact heq ▸ ht
    · exact h.chosen i (by omega)
  fits i hi := by
    rw [if_neg (by omega)]
    split
    · next heq =>
      obtain rfl : i = n := by omega
      exact hfit
    · exact h.fits i (by omega)

/-- If every candidate has something that fits on either side, each of them is part of a choice for
all places. -/
theorem exists_links (hnext : ∀ i a, i + 1 < n → A i a → ∃ b, A (i + 1) b ∧ R a b)
    (hback : ∀ i b, i + 1 < n → A (i + 1) b → ∃ a, A i a ∧ R a b) (hk : k < n) (ht : A k t) :
    ∃ f, f k = t ∧ Links A R n f := by
  induction n generalizing k t with
  | zero => contradiction
  | succ n ih =>
    replace ih : ∀ {k t}, k < n → A k t → ∃ f, f k = t ∧ Links A R n f :=
      ih (fun i a hi => hnext i a (by omega)) (fun i b hi => hback i b (by omega))
    cases n with
    | zero =>
      obtain rfl : k = 0 := by omega
      refine ⟨fun _ => t, rfl, fun i hi => ?_, fun i hi => by omega⟩
      obtain rfl : i = 0 := by omega
      exact ht
    | succ n =>
      by_cases hlast : k = n + 1
      · -- the last place is given, and the others are chosen to fit it
        subst hlast
        obtain ⟨a, ha, hfit⟩ := hback n t (by omega) ht
        obtain ⟨f, rfl, hf⟩ := ih (by omega) ha
        exact ⟨fun i => if i = n + 1 then t else f i, if_pos rfl, hf.extend ht hfit⟩
      · obtain ⟨f, rfl, hf⟩ := ih (by omega) ht
        obtain ⟨b, hb, hfit⟩ := hnext n (f n) (by omega) (hf.chosen n (by omega))
        exact ⟨fun i => if i = n + 1 then b else f i, if_neg hlast, hf.extend hb hfit⟩

end Links

namespace Grid

variable {g : Grid} {p q : Position} {d : Direction}

def IsLine (g : Grid) : Prop := g.width = 1 ∨ g.height = 1

def onward (g : Grid) : Direction := if g.height = 1 then .right else .down

theorem step_onward (hline : g.IsLine) {i : Nat} (hi : i + 1 < g.width * g.height) :
    (g.position i).step g.onward = some (g.position (i + 1)) := by
  by_cases hh : g.height = 1
  · rw [hh, Nat.mul_one] at hi
    simp [onward, hh, position, Position.step, Nat.mod_eq_of_lt hi, Nat.div_eq_of_lt hi,
      Nat.mod_eq_of_lt (Nat.lt_of_succ_lt hi), Nat.div_eq_of_lt (Nat.lt_of_succ_lt hi)]
  · have hw : g.width = 1 := hline.resolve_right hh
    simp [onward, hh, position, Position.step, hw, Nat.mod_one]

theorem index_of_step (hline : g.IsLine) (hp : g.Inside p) (hq : g.Inside q)
    (h : p.step d = some q) :
    (d = g.onward ∧ p.y * g.width + p.x + 1 = q.y * g.width + q.x) ∨
      (d = g.onward.opposite ∧ q.y * g.width + q.x + 1 = p.y * g.width + p.x) := by
  obtain ⟨px, py⟩ := p
  obtain ⟨qx, qy⟩ := q
  obtain ⟨hpx, hpy⟩ : px < g.width ∧ py < g.height := hp
  obtain ⟨hqx, hqy⟩ : qx < g.width ∧ qy < g.height := hq
  by_cases hh : g.height = 1
  · obtain rfl : py = 0 := by omega
    obtain rfl : qy = 0 := by omega
    cases d <;> simp [onward, hh, Position.step, Direction.opposite] at h ⊢ <;> omega
  · have hw : g.width = 1 := hline.resolve_right hh
    obtain rfl : px = 0 := by omega
    obtain rfl : qx = 0 := by omega
    cases d <;> simp [onward, hh, hw, Position.step, Direction.opposite] at h ⊢ <;> omega

end Grid

section Tilings

variable {ts : TileSet} {g : Grid} {p : Position} {t : TileId}

/-- On an arc consistent line every candidate is part of a tiling with candidates. -/
theorem exists_tiling_of_isLine (hv : g.Valid) (hn : g.tileCount = ts.size) (hline : g.IsLine)
    (harcs : ts.ArcConsistent g) (ht : g.Admits p t) :
    ∃ f, f p = t ∧ ts.Tiling g.width g.height f ∧ g.Holds (.single f) := by
  have hnear : ∀ i, i + 1 < g.width * g.height →
      (g.position (i + 1), g.onward) ∈ g.neighbors (g.position i) :=
    fun i hi => Grid.mem_neighbors.mpr ⟨Grid.step_onward hline hi, Grid.inside_position hi⟩
  have hindex : ∀ q, g.Inside q → g.index? q = some (q.y * g.width + q.x) :=
    fun q hq => Grid.index?_eq_some.mpr ⟨hq, rfl⟩
  have hp := Grid.inside_of_admits ht
  -- the cells are the places of a chain, in row order
  obtain ⟨f, hfp, hf⟩ : ∃ f, f (p.y * g.width + p.x) = t ∧
      Links (fun i => g.Admits (g.position i)) (fun a b => ts.compatible a b g.onward = true)
        (g.width * g.height) f := by
    apply exists_links
    · exact fun i a hi ha => harcs _ _ _ a (hnear i hi) ha
    · exact fun i b hi hb =>
        harcs.supports (Grid.inside_position (by omega)) (hnear i hi) b hb
    · exact Grid.index?_lt (hindex p hp)
    · rwa [Grid.position_of_index? (hindex p hp)]
  have hadm : ∀ q, g.Inside q → g.Admits q (f (q.y * g.width + q.x)) := by
    intro q hq
    have hq' := hf.chosen _ (Grid.index?_lt (hindex q hq))
    rwa [Grid.position_of_index? (hindex q hq)] at hq'
  refine ⟨fun q => f (q.y * g.width + q.x), hfp, ⟨?_, ?_⟩, ?_⟩
  · intro q hx hy
    rw [← hn]
    exact hv.lt_tileCount (hadm q ⟨hx, hy⟩)
  · intro q r d hqx hqy hrx hry hstep
    have hq : g.Inside q := ⟨hqx, hqy⟩
    have hr : g.Inside r := ⟨hrx, hry⟩
    rcases Grid.index_of_step hline hq hr hstep with ⟨rfl, heq⟩ | ⟨rfl, heq⟩
    · have hfit := hf.fits _ (heq ▸ Grid.index?_lt (hindex r hr))
      rwa [heq] at hfit
    · have hfit := hf.fits _ (heq ▸ Grid.index?_lt (hindex q hq))
      rw [heq] at hfit
      exact TileSet.compatible_symm hfit
  · rintro q u hq rfl
    exact hadm q hq

theorem failure_eq_none_of_isLine {g' : Grid} (hv : g.Valid) (hn : g.tileCount = ts.size)
    (hline : g.IsLine) (harcs : ts.ArcConsistent g) (hc : g.collapse p t = .ok g')
    (seeds : List Position) : (propagate ts g' seeds).failure = none := by
  obtain ⟨f, hfp, htiling, hholds⟩ :=
    exists_tiling_of_isLine hv hn hline harcs (Grid.of_collapse hc).2
  have hshape : g'.shape = (g.width, g.height, ts.size) := by
    rw [Grid.shape_collapse hc, Grid.shape, hn]
  exact (htiling.holds_propagate (Grid.valid_collapse hv hc) hshape
    (Grid.holds_collapse hc hfp hholds) seeds).2

end Tilings

namespace Engine

section SetUp

variable {σ : Type} {ts : TileSet} {scheduler : Scheduler σ} {agenda : σ} {width height : Nat}
  {given : List Given}

theorem exists_applyGiven {g : Grid} (hv : g.Valid) (hn : g.tileCount = ts.size)
    (hgiven : ∀ p tiles, (p, tiles) ∈ given → g.Inside p ∧ ∀ t ∈ tiles, t < ts.size) :
    ∃ g' stop, applyGiven ts g given = .ok (g', stop) := by
  fun_induction applyGiven ts g given with
  | case1 g => exact ⟨g, none, rfl⟩
  | case2 g p tiles rest e hm =>
    obtain ⟨t, ht, hlt⟩ := TileSet.mask_eq_error hm
    exact absurd ((hgiven p tiles List.mem_cons_self).2 t ht) (Nat.not_lt.mpr hlt)
  | case3 g p tiles rest mask hm g' shrank hr ih =>
    have hshape := Grid.shape_restrict hr
    refine ih (Grid.valid_restrict hv hr) ((congrArg (·.2.2) hshape).trans hn) ?_
    intro q tiles' hx
    obtain ⟨hq, hknown⟩ := hgiven q tiles' (List.mem_cons_of_mem _ hx)
    exact ⟨(Grid.inside_of_shape hshape q).mpr hq, hknown⟩
  | case4 g p tiles rest mask hm q hr => exact ⟨g, some q, rfl⟩
  | case5 g p tiles rest mask hm e hne hr =>
    have hw : mask.width = g.tileCount := (TileSet.mask_eq_ok hm).1.trans hn.symm
    exact absurd (Grid.restrict_eq_error hv (hgiven p tiles List.mem_cons_self).1 hw hr) (hne p)

theorem start_error_iff {full : Grid} (hfull : Grid.new width height ts.size = .ok full)
    (seed : UInt64) {cause : SolverError} :
    ((flooding ts scheduler agenda).start width height seed given).result = .error cause ↔
      applyGiven ts full given = .error cause := by
  constructor
  · intro hres
    cases refusal_of_start hres with
    | noGrid hno => cases hfull.symm.trans hno
    | badGiven hfull' happ =>
      cases hfull.symm.trans hfull'
      exact happ
    | broken hfull' happ hpass hf =>
      cases hfull.symm.trans hfull'
      obtain rfl := pass_flooding hpass
      have hnar := narrows_applyGiven happ
      obtain ⟨q, hq⟩ := contradiction_of_propagate (hnar.valid (Grid.valid_new hfull))
        (congrArg (·.2.2) (hnar.shape_eq.trans (Grid.shape_new hfull))) hf
      cases hq
  · intro happ
    simp [start, flooding, hfull, happ]

theorem exists_start_of_known {full : Grid} (hfull : Grid.new width height ts.size = .ok full)
    (hgiven : ∀ p tiles, (p, tiles) ∈ given → p.x < width ∧ p.y < height ∧ ∀ t ∈ tiles, t < ts.size)
    (seed : UInt64) :
    ∃ s, ((flooding ts scheduler agenda).start width height seed given).result = .ok s := by
  have hshape := Grid.shape_new hfull
  obtain ⟨g, stop, happ⟩ := exists_applyGiven (Grid.valid_new hfull) (congrArg (·.2.2) hshape)
    fun p tiles hx => by
      obtain ⟨hpx, hpy, hknown⟩ := hgiven p tiles hx
      exact ⟨(Grid.inside_iff_of_shape hshape).mpr ⟨hpx, hpy⟩, hknown⟩
  cases hres : ((flooding ts scheduler agenda).start width height seed given).result with
  | ok s => exact ⟨s, rfl⟩
  | error cause => cases happ.symm.trans ((start_error_iff hfull seed).mp hres)

end SetUp

section Runs

variable {σ : Type} {ts : TileSet} {scheduler : Scheduler σ} {agenda : σ} {width height : Nat}
  {given : List Given} {s : Solve σ Unit}

theorem isLine_of_reaches (h : (flooding ts scheduler agenda).Reaches width height given s)
    (hline : width = 1 ∨ height = 1) : s.grid.IsLine := by
  obtain ⟨hw, hh, -⟩ : s.grid.width = width ∧ s.grid.height = height ∧ _ := by
    simpa [Grid.shape] using h.shape_eq
  rwa [Grid.IsLine, hw, hh]

theorem ne_contradiction_step (hc : Coherent ts s) (hline : s.grid.IsLine)
    (hno : ∀ p, s.status ≠ .contradiction p) (p : Position) :
    ((flooding ts scheduler agenda).step s).solve.status ≠ .contradiction p := by
  intro hp
  rcases kept_or_flooded ts scheduler agenda s with
    ⟨-, -, hstatus⟩ | ⟨q, tile, g, _, _, -, hplace, -, -, hstatus⟩
  · exact hno p (hstatus p hp)
  · have hf := hstatus p hp
    rw [failure_eq_none_of_isLine hc.valid hc.tileCount hline (hc.arcs hno) hplace] at hf
    contradiction

/-- A solve of a line that starts well meets no contradiction, whatever is asked of it. -/
theorem ne_contradiction_after {seed : UInt64} (hline : width = 1 ∨ height = 1)
    (h : ((flooding ts scheduler agenda).start width height seed given).result = .ok s)
    (hs : s.status = .inProgress) (calls : List Call) (p : Position) :
    ((flooding ts scheduler agenda).after s calls).status ≠ .contradiction p := by
  have hinv := after_invariant (e := flooding ts scheduler agenda)
    (P := fun now => (flooding ts scheduler agenda).Reaches width height given now ∧
      ∀ p, now.status ≠ .contradiction p)
    (fun now ⟨hr, hno⟩ => ⟨hr.answer .step,
      ne_contradiction_step (coherent_of_reaches hr) (isLine_of_reaches hr hline) hno⟩)
    ⟨reaches_of_start h, by simp [hs]⟩ calls
  exact hinv.2 p

theorem inProgress_iff_of_opening (hline : width = 1 ∨ height = 1)
    (h : (flooding ts scheduler agenda).Reaches width height given s)
    (hopen : Opening (flooding ts scheduler agenda) width height given s) :
    s.status = .inProgress ↔ ∃ f, ts.Tiling width height f ∧
      ∀ p tiles, (p, tiles) ∈ given → p.x < width → p.y < height → f p ∈ tiles := by
  have hc := coherent_of_opening hopen
  obtain ⟨hw, hh, -⟩ : s.grid.width = width ∧ s.grid.height = height ∧ _ := by
    simpa [Grid.shape] using h.shape_eq
  constructor
  · intro hs
    have hno : ∀ p, s.status ≠ .contradiction p := by simp [hs]
    obtain ⟨full, hfull, -⟩ := hopen.narrows
    obtain ⟨hw0, hh0, -⟩ := Grid.new_eq_ok hfull
    have horigin : s.grid.Inside ⟨0, 0⟩ := (Grid.inside_iff_of_shape h.shape_eq).mpr ⟨hw0, hh0⟩
    obtain ⟨t, ht⟩ := hc.valid.exists_admits horigin
    obtain ⟨f, -, htiling, hholds⟩ := exists_tiling_of_isLine hc.valid hc.tileCount
      (isLine_of_reaches h hline) (hc.arcs hno) ht
    rw [hw, hh] at htiling
    refine ⟨f, htiling, fun p tiles hx _ _ => ?_⟩
    obtain ⟨hp, hmem⟩ := given_of_opening hopen hno hx
    exact hmem _ (hholds p _ hp rfl)
  · rintro ⟨f, htiling, hgiven⟩
    have hsurv := survives_of_opening htiling hgiven hopen
    cases hopen with
    | emptied _ _ hs => exact absurd hs (hsurv.2 _)
    | blocked _ _ _ _ _ hs => exact absurd hs (hsurv.2 _)
    | ready _ _ _ _ _ hs => exact hs

end Runs

/-- Grids of one row or one column are decided without search. The set-up succeeds for every list of
restrictions inside the grid to known tiles, and the solve is then in progress exactly if there is a
tiling within them. In that case nothing that is asked of the solve ever meets a contradiction, and a
run ends resolved unless a draw has no finite total. -/
theorem line_decided_without_search {ts : TileSet} (how : Selection) {width height : Nat}
    {full : Grid} (seed : UInt64) {given : List Given}
    (hfull : Grid.new width height ts.size = .ok full) (hline : width = 1 ∨ height = 1)
    (hgiven : ∀ p tiles, (p, tiles) ∈ given →
      p.x < width ∧ p.y < height ∧ ∀ t ∈ tiles, t < ts.size) :
    ∃ s, ((standard ts how).start width height seed given).result = .ok s ∧
      (s.status = .inProgress ↔ ∃ f, ts.Tiling width height f ∧
        ∀ p tiles, (p, tiles) ∈ given → f p ∈ tiles) ∧
      (s.status = .inProgress → ∀ calls now, (standard ts how).after s calls = now →
        (∀ p, now.status ≠ .contradiction p) ∧
        (∀ r p, ((standard ts how).step now).result = .ok r → r.status ≠ .contradiction p) ∧
        (((standard ts how).run now).result ≠ .error (.weights .infiniteTotal) →
          ((standard ts how).run now).result = .ok .resolved)) := by
  obtain ⟨s, h⟩ : ∃ s, ((standard ts how).start width height seed given).result = .ok s :=
    exists_start_of_known hfull hgiven seed
  refine ⟨s, h, ?_, fun hs calls now hnow => ?_⟩
  · rw [inProgress_iff_of_opening hline (reaches_of_start h) (opening_of_start h)]
    refine exists_congr fun f => and_congr_right fun _ => ?_
    refine forall_congr' fun p => forall_congr' fun tiles => forall_congr' fun hx => ?_
    obtain ⟨hpx, hpy, -⟩ := hgiven p tiles hx
    simp [hpx, hpy]
  · subst hnow
    have hno := ne_contradiction_after hline h hs
    have hreach : (standard ts how).Reaches width height given ((standard ts how).after s calls) :=
      ⟨seed, s, calls, h, rfl⟩
    refine ⟨hno calls, fun r p hr => ?_, fun hne => ?_⟩
    · rw [← status_step hr]
      have hlater := hno (calls ++ [.step]) p
      rwa [after_concat] at hlater
    · rcases run_ends (Scheduler.faithful_fewest how) hreach with ⟨status, hok, hend, heq, -⟩ | hinf
      · have hlater := hno (calls ++ [.run])
        simp only [after_concat] at hlater
        cases status with
        | inProgress => contradiction
        | resolved => exact hok
        | contradiction p => exact absurd heq (hlater p)
      · exact absurd hinf hne

/-- A column of three, with the last cell given, has one tiling and is filled by it. -/
theorem line_decided_without_search_plains : ∃ full s,
    Grid.new 1 3 TileSet.plains.size = .ok full ∧
      ((standard .plains .firstMinimum).start 1 3 5 [(⟨0, 2⟩, [1])]).result = .ok s ∧
      s.status = .inProgress ∧
      (∃ f, TileSet.plains.Tiling 1 3 f ∧ f ⟨0, 2⟩ ∈ [1]) ∧
      ((standard .plains .firstMinimum).run s).result = .ok .resolved := by
  obtain ⟨full, hfull⟩ : ∃ full, Grid.new 1 3 TileSet.plains.size = .ok full := ⟨_, rfl⟩
  have hgiven : ∀ p tiles, (p, tiles) ∈ ([(⟨0, 2⟩, [1])] : List Given) →
      p.x < 1 ∧ p.y < 3 ∧ ∀ t ∈ tiles, t < TileSet.plains.size := by
    intro p tiles hx
    obtain ⟨rfl, rfl⟩ : p = ⟨0, 2⟩ ∧ tiles = [1] := by simpa using hx
    decide
  obtain ⟨s, h, heval⟩ : ∃ s,
      ((standard .plains .firstMinimum).start 1 3 5 [(⟨0, 2⟩, [1])]).result = .ok s ∧
        (s.status, cause? ((standard .plains .firstMinimum).run s).result) = (.inProgress, none) :=
    exists_start (by decide +kernel)
  obtain ⟨hs, hrun⟩ := Prod.mk.inj heval
  obtain ⟨s', h', hiff, hruns⟩ := line_decided_without_search .firstMinimum 5 hfull (.inl rfl) hgiven
  obtain rfl : s = s' := Except.ok.inj (h.symm.trans h')
  obtain ⟨f, htiling, hf⟩ := hiff.mp hs
  exact ⟨full, s, hfull, h, hs, ⟨f, htiling, hf _ _ List.mem_cons_self⟩,
    (hruns hs [] s rfl).2.2 (ne_error_of_cause? hrun _)⟩

end Engine

end EdgeTiling
