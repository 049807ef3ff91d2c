import EdgeTiling.Proofs.FirstChanges
import EdgeTiling.Proofs.Operations

/-! A pass as it is worked out in place, with a queue of cells, flags for the cells that are
reported already, and sets of tiles whose flags are read and written by index. An index beyond the
last flag ends the work on the spot. On a valid grid that does not happen: whatever the tile set and
the seeds, the work comes to an end and leaves what the pass says. -/

namespace EdgeTiling

namespace Domain

variable {D A : Domain} {b : Bool} {ts : List TileId} {u : TileId} {n : Nat}
  {sets sets' : List Domain}

def set? (b : Bool) (D : Domain) (t : TileId) : Option Domain :=
  if t < D.width then some (D.put b t) else none

/-- The members whose flag in `A` is not set, if `A` has a flag for each member. -/
def dropped? (D A : Domain) : Option (List TileId) :=
  D.tiles.filterMapM fun t => A.flags[t]?.map fun kept => if kept then none else some t

theorem foldlM_set? (h : ∀ t ∈ ts, t < D.width) :
    ts.foldlM (set? b) D = some (ts.foldl (put · b) D) := by
  induction ts generalizing D with
  | nil => rfl
  | cons t rest ih =>
    obtain ⟨ht, hrest⟩ := List.forall_mem_cons.mp h
    have hput := ih (D := D.put b t) (by simpa using hrest)
    simp [set?, ht, hput]

theorem has_foldl_put_true (h : ∀ t ∈ ts, t < D.width) :
    (ts.foldl (put · true) D).has u = true ↔ u ∈ ts ∨ D.has u = true := by
  induction ts generalizing D with
  | nil => simp
  | cons t rest ih =>
    obtain ⟨ht, hrest⟩ := List.forall_mem_cons.mp h
    rw [List.foldl_cons, ih (by simpa using hrest), has_put_true ht, List.mem_cons]
    tauto

theorem dropped?_eq (h : D.width ≤ A.width) : D.dropped? A = some (D.dropped A) := by
  have hall : ∀ t ∈ D.tiles, t < A.width :=
    fun t ht => Nat.lt_of_lt_of_le (lt_width_of_has (mem_tiles.mp ht)) h
  unfold dropped? dropped
  generalize D.tiles = ts at hall
  induction ts with
  | nil => rfl
  | cons t rest ih =>
    obtain ⟨ht, hrest⟩ := List.forall_mem_cons.mp hall
    have hget : A.flags[t]? = some (A.has t) := by
      simp [has, List.getD, show t < A.flags.length from ht]
    cases hA : A.has t <;> simp [List.filterMapM_cons, hget, hA, ih hrest]

theorem foldlM_tiles (hD : D.width = n) (hsets : ∀ E ∈ sets, E.width = n) :
    sets.foldlM (fun D E => E.tiles.foldlM (set? true) D) D = some (sets.foldl union D) := by
  induction sets generalizing D with
  | nil => rfl
  | cons E rest ih =>
    obtain ⟨hE, hrest⟩ := List.forall_mem_cons.mp hsets
    have hlt : ∀ t ∈ E.tiles, t < D.width :=
      fun t ht => hD ▸ hE ▸ lt_width_of_has (mem_tiles.mp ht)
    have hunion : E.tiles.foldl (put · true) D = D.union E := by
      apply eq_of_has
      · rw [width_foldl_put, width_union (hD.trans hE.symm)]
      · intro t
        rw [has_foldl_put_true hlt, has_union (hD.trans hE.symm), mem_tiles, or_comm]
    rw [List.foldlM_cons, foldlM_set? hlt, hunion]
    exact ih ((width_union (hD.trans hE.symm)).trans hD) hrest

theorem foldl_union_congr (hD : D.width = n) (hsets : ∀ E ∈ sets, E.width = n)
    (h : ∀ E, E ∈ sets ↔ E ∈ sets') : sets.foldl union D = sets'.foldl union D := by
  have hsets' : ∀ E ∈ sets', E.width = n := fun E hE => hsets E ((h E).mpr hE)
  apply eq_of_has
  · rw [width_foldl_union hD hsets, width_foldl_union hD hsets']
  · intro t
    simp only [has_foldl_union hD hsets, has_foldl_union hD hsets', h]

end Domain

namespace TileSet

def shown? (ts : TileSet) (D : Domain) (d : Direction) : Option Domain :=
  (D.tiles.filterMap fun t => ts.index.code? t d).foldlM (Domain.set? true)
    (.empty ts.index.labels.length)

/-- The supported tiles, with the flags of all that carry a label shown set one by one. -/
def supported? (ts : TileSet) (D : Domain) (d : Direction) : Option Domain := do
  let shown ← ts.shown? D d
  (shown.tiles.filterMap fun label => (ts.index.carriers.get d.opposite)[label]?).foldlM
    (fun allowed carriers => carriers.tiles.foldlM (Domain.set? true) allowed) (.empty ts.size)

theorem shown?_eq (ts : TileSet) (D : Domain) (d : Direction) :
    ∃ S, ts.shown? D d = some S ∧ ∀ label, label ∈ S.tiles ↔ label ∈ ts.shown D d := by
  have hmem : ∀ label, label ∈ (D.tiles.filterMap fun t => ts.index.code? t d) ↔
      label ∈ ts.shown D d := fun label => by simp [shown, List.mem_eraseDups]
  have hlt : ∀ label ∈ (D.tiles.filterMap fun t => ts.index.code? t d),
      label < (Domain.empty ts.index.labels.length).width := by
    intro label hl
    rw [Domain.width_empty]
    exact lt_length_of_mem_shown ((hmem label).mp hl)
  refine ⟨_, Domain.foldlM_set? hlt, fun label => ?_⟩
  rw [Domain.mem_tiles, Domain.has_foldl_put_true hlt, hmem, Domain.has_empty]
  simp

/-- All flags that are read and written on the way exist, however wide the candidates are. -/
theorem supported?_eq (ts : TileSet) (D : Domain) (d : Direction) :
    ts.supported? D d = some (ts.supported D d) := by
  obtain ⟨S, hS, hmem⟩ := ts.shown?_eq D d
  have hwidth : ∀ E ∈ (S.tiles.filterMap fun label => (ts.index.carriers.get d.opposite)[label]?),
      E.width = ts.size := by
    intro E hE
    obtain ⟨label, hl, hE⟩ := List.mem_filterMap.mp hE
    rw [carriers_eq (lt_length_of_mem_shown ((hmem label).mp hl))] at hE
    obtain rfl := Option.some.inj hE
    simp [Domain.width, size]
  rw [supported?, hS]
  refine (Domain.foldlM_tiles (Domain.width_empty ts.size) hwidth).trans (congrArg some ?_)
  refine Domain.foldl_union_congr (Domain.width_empty ts.size) hwidth fun E => ?_
  simp only [List.mem_filterMap, hmem]

end TileSet

namespace Grid

/-- A restriction that looks up and clears the flags of tiles by index. -/
def restrict? (g : Grid) (p : Position) (allowed : Domain) :
    Option (Except GridError (Grid × Bool)) :=
  match g.locate p with
  | .error e => some (.error e)
  | .ok (i, c) =>
    if allowed.width ≠ g.tileCount then some (.error (.maskLength g.tileCount allowed.width))
    else if c.chosen.isSome then some (.ok (g, false))
    else do
      let dropped ← c.domain.dropped? allowed
      if dropped.isEmpty then return .ok (g, false)
      else if dropped.length = c.domain.size then return .error (.emptyDomain p)
      else
        let left ← dropped.foldlM (Domain.set? false) c.domain
        return .ok (g.replace i { c with domain := left }, true)

theorem restrict?_eq {g : Grid} (hv : g.Valid) (p : Position) (allowed : Domain) :
    g.restrict? p allowed = some (g.restrict p allowed) := by
  cases hl : g.locate p with
  | error e => simp [restrict?, restrict, hl]
  | ok found =>
    obtain ⟨i, c⟩ := found
    have hc := hv.cell (cell?_of_locate hl)
    by_cases hw : allowed.width = g.tileCount
    · have hdropped := Domain.dropped?_eq (Nat.le_of_eq (hc.width.trans hw.symm))
      have hclear : (c.domain.dropped allowed).foldlM (Domain.set? false) c.domain =
          some (c.domain.inter allowed) := by
        rw [Domain.foldlM_set?, Domain.foldl_put_dropped]
        exact fun t ht => Domain.lt_width_of_has (Domain.mem_dropped.mp ht).1
      simp only [restrict?, restrict, hl, hw, hdropped, hclear, ← Domain.dropped_eq_nil_iff,
        Domain.size_inter_eq_zero_iff, List.isEmpty_iff, ne_eq, not_true_eq_false, if_false,
        Option.bind_eq_bind, Option.bind_some]
      split_ifs <;> rfl
    · simp [restrict?, restrict, hl, hw]

end Grid

structure Worklist where
  grid : Grid
  queue : List Position
  seen : List Bool
  narrowed : List Position

inductive Halt
  /-- A flag was to be read or written that does not exist. -/
  | badIndex
  | failed (cause : PropagationError)

/-- A program that works on the list; what it has written outlasts a halt. -/
abbrev Work := EStateM Halt Worklist

namespace Work

def orBadIndex {α : Type} : Option α → Work α
  | some a => return a
  | none => throw .badIndex

def report (p : Position) : Work Unit := do
  let w ← get
  match w.grid.index? p with
  | none => return
  | some i =>
    if ← orBadIndex w.seen[i]? then return
    else set { w with seen := w.seen.set i true, narrowed := w.narrowed ++ [p] }

/-- Narrows a neighbour, unless it is decided, to what the candidates `source` support. If it lost
something it is reported and put into the queue. -/
def visit (ts : TileSet) (source : Domain) (near : Position × Direction) : Work Unit := do
  let w ← get
  if w.grid.isResolved near.1 then return
  else
    let allowed ← orBadIndex (ts.supported? source near.2)
    match ← orBadIndex (w.grid.restrict? near.1 allowed) with
    | .error e => throw (.failed (.ofGridError e))
    | .ok (g, shrank) =>
      if shrank then
        set { w with grid := g }
        report near.1
        modify fun w => { w with queue := w.queue ++ [near.1] }
      else return

def round (ts : TileSet) (p : Position) : Work Unit := do
  let g := (← get).grid
  match g.domain? p with
  | none => return
  | some source => (g.neighbors p).forM (visit ts source)

@[simp] theorem run_orBadIndex {α : Type} (a : α) (w : Worklist) :
    (orBadIndex (some a)).run w = .ok a w := rfl

@[simp] theorem run_throw {α : Type} (h : Halt) (w : Worklist) :
    (throw h : Work α).run w = .error h w := rfl

variable {ts : TileSet} {source : Domain} {q : Position} {d : Direction} {w : Worklist} {g : Grid}

theorem run_visit_resolved (h : w.grid.isResolved q = true) :
    (visit ts source (q, d)).run w = .ok () w := by
  simp [visit, h]

theorem run_visit_error {e : GridError} (hv : w.grid.Valid) (ho : w.grid.isResolved q = false)
    (hr : w.grid.restrict q (ts.supported source d) = .error e) :
    (visit ts source (q, d)).run w = .error (.failed (.ofGridError e)) w := by
  simp [visit, ho, TileSet.supported?_eq, Grid.restrict?_eq hv, hr]

theorem run_visit_same (hv : w.grid.Valid) (ho : w.grid.isResolved q = false)
    (hr : w.grid.restrict q (ts.supported source d) = .ok (g, false)) :
    (visit ts source (q, d)).run w = .ok () w := by
  simp [visit, ho, TileSet.supported?_eq, Grid.restrict?_eq hv, hr]

theorem run_visit_shrank {i : Nat} {b : Bool} (hv : w.grid.Valid)
    (ho : w.grid.isResolved q = false)
    (hr : w.grid.restrict q (ts.supported source d) = .ok (g, true))
    (hi : g.index? q = some i) (hb : w.seen[i]? = some b) :
    (visit ts source (q, d)).run w = .ok () ⟨g, w.queue ++ [q],
      if b then w.seen else w.seen.set i true, if b then w.narrowed else w.narrowed ++ [q]⟩ := by
  cases b <;>
    simp [visit, report, ho, TileSet.supported?_eq, Grid.restrict?_eq hv, hr, hi, hb]

end Work

namespace Worklist

def start (g : Grid) (seeds already : List Position) : Worklist :=
  ⟨g, seeds, List.replicate g.size false, already⟩

/-- The end of work that nothing but `failure` cut short. -/
def outcome (failure : Option PropagationError) (w : Worklist) :
    EStateM.Result Halt Worklist Unit :=
  match failure with
  | none => .ok () w
  | some e => .error (.failed e) w

/-- Work that starts from `w` takes the given cells from the queue, one after the other, until the
queue is dry or a round halts. -/
inductive Ends (ts : TileSet) : Worklist → List Position → EStateM.Result Halt Worklist Unit → Prop
  | dry {w : Worklist} : w.queue = [] → Ends ts w [] (.ok () w)
  | halt {w w' : Worklist} {p : Position} {rest : List Position} {h : Halt} :
    w.queue = p :: rest → (Work.round ts p).run { w with queue := rest } = .error h w' →
      Ends ts w [p] (.error h w')
  | next {w w' : Worklist} {p : Position} {rest taken : List Position}
      {result : EStateM.Result Halt Worklist Unit} :
    w.queue = p :: rest → (Work.round ts p).run { w with queue := rest } = .ok () w' →
      Ends ts w' taken result → Ends ts w (p :: taken) result

/-- The work from `w` on comes to an end, in one way only, and leaves the grid, the reported cells
and the failure of the pass. -/
def Performs (ts : TileSet) (w : Worklist) (pass : Pass) : Prop :=
  ∃ taken w', w'.grid = pass.grid ∧ w'.narrowed = pass.narrowed ∧
    ∀ taken' result, Ends ts w taken' result ↔
      taken' = taken ∧ result = outcome pass.failure w'

structure Sound (start : Grid) (w : Worklist) : Prop where
  valid : w.grid.Valid
  lessens : start.Lessens w.grid
  seen : ∀ p i, w.grid.index? p = some i →
    w.seen[i]? = some (decide (w.grid.domain? p ≠ start.domain? p))

structure Advances (start : Grid) (w : Worklist) (trail : List Narrowing) (w' : Worklist) :
    Prop where
  sound : w'.Sound start
  queue : w'.queue = w.queue ++ trail.map (·.target)
  narrowed : w'.narrowed = w.narrowed ++ start.firstChanges trail

variable {ts : TileSet} {begin g : Grid} {w w' w'' : Worklist} {p : Position} {source : Domain}
  {trail later : List Narrowing}

theorem sound_start (hv : g.Valid) (seeds already : List Position) :
    (start g seeds already).Sound g where
  valid := hv
  lessens := .refl g
  seen p i hi := by
    have hlt : i < g.size := by
      rw [Grid.size, hv.size]
      exact Grid.index?_lt hi
    simp [start, hlt]

theorem Sound.withQueue (h : w.Sound begin) (queue : List Position) :
    { w with queue := queue }.Sound begin :=
  ⟨h.valid, h.lessens, h.seen⟩

theorem Advances.refl (h : w.Sound begin) : Advances begin w [] w :=
  ⟨h, by simp, by simp⟩

theorem Advances.trans (h : Advances begin w trail w') (h' : Advances begin w' later w'') :
    Advances begin w (trail ++ later) w'' where
  sound := h'.sound
  queue := by simp [h'.queue, h.queue]
  narrowed := by simp [h'.narrowed, h.narrowed]

theorem getElem?_mark {seen : List Bool} {i : Nat} {b : Bool} (hb : seen[i]? = some b) (j : Nat) :
    (if b then seen else seen.set i true)[j]? = if j = i then some true else seen[j]? := by
  obtain ⟨hlt, -⟩ := List.getElem?_eq_some_iff.mp hb
  by_cases hj : j = i
  · subst hj
    cases b with
    | true => rw [if_pos rfl, if_pos rfl, hb]
    | false => simp [hlt]
  · cases b <;> simp [hj, Ne.symm hj]

/-- A neighbour that loses candidates. Its flag tells whether it does so for the first time. -/
theorem Sound.exists_visit {q : Position} {d : Direction} (h : w.Sound begin)
    (hq : (q, d) ∈ w.grid.neighbors p) (hs : w.grid.domain? p = some source)
    (ho : w.grid.isResolved q = false)
    (hr : w.grid.restrict q (ts.supported source d) = .ok (g, true)) :
    ∃ w', w'.grid = g ∧ (Work.visit ts source (q, d)).run w = .ok () w' ∧
      Advances begin w [⟨p, q, w.grid.domainSize q, g.domainSize q⟩] w' := by
  have hn : Grid.Traced ts ⟨p, q, w.grid.domainSize q, g.domainSize q⟩ w.grid g :=
    ⟨d, source, hq, hs, ho, hr, rfl, rfl⟩
  have hfirst : w.grid.domainSize q = begin.domainSize q ↔ w.grid.domain? q = begin.domain? q :=
    hn.before_eq_iff h.lessens
  have hindex := Grid.index?_of_shape (Grid.shape_restrict hr)
  obtain ⟨i, hi⟩ : ∃ i, w.grid.index? q = some i :=
    ⟨_, Grid.index?_eq_some.mpr ⟨Grid.inside_of_mem_neighbors hq, rfl⟩⟩
  have hb := h.seen q i hi
  refine ⟨_, rfl, Work.run_visit_shrank h.valid ho hr ((hindex q).trans hi) hb, ?_, rfl, ?_⟩
  · refine ⟨Grid.valid_restrict h.valid hr, hn.lessens h.lessens, fun r j hj => ?_⟩
    -- only the flag of `q` may differ, and `q` has changed by now if not before
    rw [getElem?_mark hb]
    rw [hindex] at hj
    by_cases hrq : r = q
    · subst hrq
      obtain rfl := Option.some.inj (hi.symm.trans hj)
      simpa using hn.target_changed h.lessens
    · have hji : j ≠ i := fun hji => hrq (Grid.eq_of_index? (hji ▸ hj) hi)
      rw [if_neg hji, h.seen r j hj, hn.domain?_of_ne hrq]
  · rw [Grid.firstChanges_cons]
    by_cases hsame : w.grid.domain? q = begin.domain? q
    · simp [hsame, hfirst.mpr hsame]
    · simp [hsame, mt hfirst.mp hsame]

theorem exists_forM (g : Grid) (near : List (Position × Direction))
    (hs : g.domain? p = some source) (hn : ∀ x ∈ near, x ∈ g.neighbors p) :
    ∀ w : Worklist, w.Sound begin → w.grid = g → ∃ w',
      w'.grid = (spreadTo ts p source g near).grid ∧
      (near.forM (Work.visit ts source)).run w =
        outcome (spreadTo ts p source g near).failure w' ∧
      Advances begin w (spreadTo ts p source g near).trail w' := by
  fun_induction spreadTo ts p source g near with
  | case1 g => exact fun w h hg => ⟨w, hg, rfl, .refl h⟩
  | case2 g q d rest hres ih =>
    rintro w h rfl
    obtain ⟨w', hw', hrun, hadv⟩ := ih hs (fun x hx => hn x (List.mem_cons_of_mem _ hx)) w h rfl
    refine ⟨w', hw', ?_, hadv⟩
    simpa [Work.run_visit_resolved hres] using hrun
  | case3 g q d rest ho e hr =>
    rintro w h rfl
    refine ⟨w, rfl, ?_, .refl h⟩
    simp [Work.run_visit_error h.valid (by simpa using ho) hr, outcome]
  | case4 g q d rest ho g' later hr ih =>
    rintro w h rfl
    -- the source is not `q`, so the rest of the round sees the same candidates of it
    obtain ⟨hs', hn'⟩ := round_of_restrict hr hs hn
    obtain ⟨mid, hmid, hvisit, hfirst⟩ :=
      h.exists_visit (hn _ List.mem_cons_self) hs (by simpa using ho) hr
    obtain ⟨w', hw', hrun, hadv⟩ := ih hs' hn' mid hfirst.sound hmid
    refine ⟨w', hw', ?_, hfirst.trans hadv⟩
    simpa [hvisit] using hrun
  | case5 g q d rest ho g' shrank hr later hf ih =>
    rintro w h rfl
    obtain rfl : shrank = false := by simpa using hf
    obtain rfl := Grid.eq_of_restrict_eq_ok_false hr
    obtain ⟨w', hw', hrun, hadv⟩ := ih hs (fun x hx => hn x (List.mem_cons_of_mem _ hx)) w h rfl
    refine ⟨w', hw', ?_, hadv⟩
    simpa [Work.run_visit_same h.valid (by simpa using ho) hr] using hrun

theorem Sound.exists_round (h : w.Sound begin) (ts : TileSet) (p : Position) :
    ∃ w', w'.grid = (spreadFrom ts w.grid p).grid ∧
      (Work.round ts p).run w = outcome (spreadFrom ts w.grid p).failure w' ∧
      Advances begin w (spreadFrom ts w.grid p).trail w' := by
  cases hs : w.grid.domain? p with
  | none => exact ⟨w, by simp [spreadFrom, hs], by simp [Work.round, spreadFrom, hs, outcome],
      by simpa [spreadFrom, hs] using Advances.refl h⟩
  | some source =>
    rw [spreadFrom_of_domain? hs]
    obtain ⟨w', hw', hrun, hadv⟩ :=
      exists_forM w.grid (w.grid.neighbors p) hs (fun _ hx => hx) w h rfl
    exact ⟨w', hw', by simpa [Work.round, hs] using hrun, hadv⟩

/-- The rounds of a pass up to its end. What was in the queue and what the narrowings put there is
taken from it in this order, up to what is left. -/
theorem exists_ends (ts : TileSet) (g : Grid) (queue : List Position) :
    ∀ w : Worklist, w.Sound begin → w.grid = g → w.queue = queue → ∃ taken w',
      w'.grid = (flood ts g queue).grid ∧
      w'.narrowed = w.narrowed ++ begin.firstChanges (flood ts g queue).trail ∧
      taken ++ w'.queue = queue ++ (flood ts g queue).trail.map (·.target) ∧
      Ends ts w taken (outcome (flood ts g queue).failure w') := by
  fun_induction flood ts g queue with
  | case1 g => exact fun w h hg hq => ⟨[], w, hg, by simp, by simp [hq], .dry hq⟩
  | case2 g p queue near hf =>
    rintro w h rfl hq
    obtain ⟨w', hw', hrun, hadv⟩ := (h.withQueue queue).exists_round ts p
    obtain ⟨e, he⟩ := Option.isSome_iff_exists.mp hf
    refine ⟨[p], w', hw', hadv.narrowed, congrArg (p :: ·) hadv.queue, ?_⟩
    rw [he]
    exact .halt hq (hrun.trans (congrArg (outcome · w') he))
  | case3 g p queue near hf later ih =>
    rintro w h rfl hq
    obtain ⟨mid, hmid, hrun, hround⟩ := (h.withQueue queue).exists_round ts p
    have hnone : near.failure = none := by simpa using hf
    obtain ⟨taken, w', hw', hnarrowed, htaken, hends⟩ := ih mid hround.sound hmid hround.queue
    refine ⟨p :: taken, w', hw', ?_, ?_,
      .next hq (hrun.trans (congrArg (outcome · mid) hnone)) hends⟩
    · rw [hnarrowed, hround.narrowed]
      simp [near, later]
    · simp [htaken, near, later]

theorem Ends.unique {taken taken' : List Position}
    {result result' : EStateM.Result Halt Worklist Unit} (h : Ends ts w taken result)
    (h' : Ends ts w taken' result') : taken = taken' ∧ result = result' := by
  induction h generalizing taken' result' with
  | dry hq => cases h' <;> simp_all
  | halt hq hr => cases h' <;> simp_all
  | next hq hr _ ih =>
    cases h' with
    | dry hq' => simp_all
    | halt hq' hr' => simp_all
    | next hq' hr' hrest =>
      obtain ⟨rfl, rfl⟩ := List.cons.inj (hq.symm.trans hq')
      obtain ⟨-, rfl⟩ := EStateM.Result.ok.inj (hr.symm.trans hr')
      obtain ⟨rfl, rfl⟩ := ih hrest
      exact ⟨rfl, rfl⟩

/-- On a valid grid, a pass is performed to its end whatever the tile set and the seeds. -/
theorem performs (hv : g.Valid) (ts : TileSet) (seeds already : List Position) :
    (start g seeds already).Performs ts (propagateInto ts g seeds already) := by
  obtain ⟨taken, w', hgrid, hnarrowed, -, hends⟩ :=
    exists_ends ts g seeds _ (sound_start hv seeds already) rfl rfl
  refine ⟨taken, w', hgrid, hnarrowed, fun taken' result => ⟨fun h => h.unique hends, ?_⟩⟩
  rintro ⟨rfl, rfl⟩
  exact hends

end Worklist

/-- Whether a pass goes through or fails, for whatever reason and over whatever tile set, what it adds
to a list are exactly the cells it changed. On a grid that came about by calls, a pass worked out in
place, with a flag for each cell reported, comes to its end and leaves this very list. -/
theorem narrowed_list_exact (ts : TileSet) (g : Grid) (seeds already : List Position) :
    (∃ cells, (propagateInto ts g seeds already).narrowed = already ++ cells ∧
      (propagateInto ts g seeds already).Records ts g cells) ∧
    ∀ width height n full ops, Grid.new width height n = .ok full → full.performAll ops = g →
      (Worklist.start g seeds already).Performs ts (propagateInto ts g seeds already) := by
  constructor
  · have h := records_propagate ts g seeds
    exact ⟨_, rfl, h.nodup, h.isOpen, h.mem_iff, h.traces, h.ordered⟩
  · rintro width height n full ops hfull rfl
    exact Worklist.performs (Grid.valid_performAll (Grid.valid_new hfull) ops) ts seeds already

/-- No three of the couple stand in a row. By the time this shows at the far end, the other two cells
have changed, and they are reported. -/
theorem narrowed_list_exact_couple : ∃ full, Grid.new 3 1 2 = .ok full ∧
    (propagateInto .couple full [⟨0, 0⟩] [⟨5, 5⟩]).failure = some (.contradiction ⟨2, 0⟩) ∧
    (propagateInto .couple full [⟨0, 0⟩] [⟨5, 5⟩]).narrowed = [⟨5, 5⟩, ⟨1, 0⟩, ⟨0, 0⟩] ∧
    (Worklist.start full [⟨0, 0⟩] [⟨5, 5⟩]).Performs .couple
      (propagateInto .couple full [⟨0, 0⟩] [⟨5, 5⟩]) := by
  obtain ⟨full, hfull, hfailure, hnarrowed⟩ : ∃ full, Grid.new 3 1 2 = .ok full ∧
      (propagateInto .couple full [⟨0, 0⟩] [⟨5, 5⟩]).failure = some (.contradiction ⟨2, 0⟩) ∧
      (propagateInto .couple full [⟨0, 0⟩] [⟨5, 5⟩]).narrowed = [⟨5, 5⟩, ⟨1, 0⟩, ⟨0, 0⟩] :=
    ⟨_, rfl, by decide +kernel, by decide +kernel⟩
  have hperforms := (narrowed_list_exact .couple full [⟨0, 0⟩] [⟨5, 5⟩]).2 3 1 2 full [] hfull rfl
  exact ⟨full, hfull, hfailure, hnarrowed, hperforms⟩

end EdgeTiling
