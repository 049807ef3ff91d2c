import EdgeTiling.Proofs.Confluence

/-! Decisions made again in another order. What a solve has come to depends on the decisions in its
history and not on their order: from the grid of the set-up, each in turn can be made and followed by
its pass, in every order, and the same grid comes out. The grid of the solve is the goal: as long as
a grid can still shrink to it, any of its decisions can be the next. -/

namespace EdgeTiling

def enact (ts : TileSet) (g : Grid) (c : Collapse) : Except PropagationError Grid :=
  match g.collapse c.position c.tile with
  | .error cause => .error (.grid cause)
  | .ok g' =>
    match (propagate ts g' [c.position]).result with
    | .error cause => .error cause
    | .ok _ => .ok (propagate ts g' [c.position]).grid

/-- Makes the listed decisions one after the other, up to the first that fails. -/
def replay (ts : TileSet) (g : Grid) (cs : List Collapse) : Except PropagationError Grid :=
  cs.foldlM (enact ts) g

structure Grid.Settled (ts : TileSet) (g : Grid) : Prop where
  valid : g.Valid
  tileCount : g.tileCount = ts.size
  agrees : ts.Agrees g
  arcs : ts.ArcConsistent g

theorem TileSet.ArcConsistent.closed {ts : TileSet} {g goal : Grid} (h : ts.ArcConsistent goal)
    (hshape : goal.shape = g.shape) : ts.Closed g goal.Admits := by
  intro p q d hp hq _
  rw [← Grid.inside_of_shape hshape] at hp
  rw [← Grid.neighbors_of_shape hshape] at hq
  exact h.supports hp hq

section Decisions

variable {ts : TileSet} {g g' goal : Grid} {c : Collapse} {cs order : List Collapse}

theorem enact_eq_ok : enact ts g c = .ok g' ↔ ∃ g₁, g.collapse c.position c.tile = .ok g₁ ∧
    (propagate ts g₁ [c.position]).failure = none ∧ (propagate ts g₁ [c.position]).grid = g' := by
  unfold enact
  cases hc : g.collapse c.position c.tile with
  | error cause => simp only [reduceCtorEq, false_and, exists_false]
  | ok g₁ =>
    simp only [Except.ok.injEq, exists_eq_left']
    cases hf : (propagate ts g₁ [c.position]).failure with
    | none => simp only [Pass.result_of_none hf, Except.ok.injEq, true_and]
    | some cause => simp only [Pass.result_of_some hf, reduceCtorEq, false_and]

theorem replay_cons_eq_ok : replay ts g (c :: cs) = .ok g' ↔
    ∃ g₁, enact ts g c = .ok g₁ ∧ replay ts g₁ cs = .ok g' := by
  rw [replay, List.foldlM_cons]
  cases enact ts g c with
  | error cause => simp only [bind, Except.bind, reduceCtorEq, false_and, exists_false]
  | ok g₁ => simp only [bind, Except.bind, Except.ok.injEq, exists_eq_left', replay]

theorem replay_concat (h : replay ts g cs = .ok g') (hc : enact ts g' c = .ok goal) :
    replay ts g (cs ++ [c]) = .ok goal :=
  calc replay ts g (cs ++ [c])
    _ = replay ts g cs >>= fun g₁ => replay ts g₁ [c] := List.foldlM_append
    _ = replay ts g' [c] := by rw [h]; rfl
    _ = .ok goal := replay_cons_eq_ok.mpr ⟨goal, hc, rfl⟩

theorem open_of_enact (h : enact ts g c = .ok g') : g.isResolved c.position = false := by
  obtain ⟨g₁, hc, -, -⟩ := enact_eq_ok.mp h
  exact (Grid.of_collapse hc).1

theorem shrinks_enact (h : enact ts g c = .ok g') : g.Shrinks g' := by
  obtain ⟨g₁, hc, -, rfl⟩ := enact_eq_ok.mp h
  exact (Grid.shrinks_collapse hc).trans (narrows_propagate ts g₁ _).shrinks

theorem chosen?_enact (h : enact ts g c = .ok g') (q : Position) :
    g'.chosen? q = if q = c.position then some c.tile else g.chosen? q := by
  obtain ⟨g₁, hc, -, rfl⟩ := enact_eq_ok.mp h
  rw [(narrows_propagate ts g₁ _).chosen?_eq, Grid.chosen?_collapse hc]

theorem Grid.Settled.enact (hg : g.Settled ts) (h : enact ts g c = .ok g') : g'.Settled ts := by
  obtain ⟨g₁, hc, hf, rfl⟩ := enact_eq_ok.mp h
  have hnar := narrows_propagate ts g₁ [c.position]
  have hagree := TileSet.agrees_collapse hg.valid hg.arcs hg.agrees hc
  have hv := Grid.valid_collapse hg.valid hc
  have hshape := hnar.shape_eq.trans (Grid.shape_collapse hc)
  exact ⟨hnar.valid hv, (congrArg (·.2.2) hshape).trans hg.tileCount,
    TileSet.agrees_of_narrows hnar hagree,
    arcConsistent_propagate hv hagree (TileSet.closedOff_collapse hg.arcs hc) hf⟩

/-- As long as a grid can still shrink to the goal, a decision of the goal can be made, and the goal
stays within reach. -/
theorem exists_enact (hg : g.Settled ts) (hgoal : goal.Settled ts) (hs : g.Shrinks goal)
    (ho : g.isResolved c.position = false) (hc : goal.chosen? c.position = some c.tile) :
    ∃ g', enact ts g c = .ok g' ∧ g'.Shrinks goal := by
  have honly := hgoal.valid.admits_iff_of_chosen? hc
  obtain ⟨g₁, hg₁⟩ := Grid.exists_collapse ho (hs.admits _ _ ((honly c.tile).mpr rfl))
  have hshape := Grid.shape_collapse hg₁
  have hs₁ : g₁.Shrinks goal := by
    refine ⟨hs.shape.trans hshape.symm, fun q t ht => ?_, fun q t ht => ?_⟩
    · by_cases hq : q = c.position
      · subst hq
        exact (Grid.admits_collapse_self hg₁).mpr ((honly t).mp ht)
      · exact (Grid.admits_collapse_of_ne hg₁ hq).mpr (hs.admits q t ht)
    · rw [Grid.chosen?_collapse hg₁] at ht
      split at ht
      · next hq => rw [hq, hc, ht]
      · exact hs.chosen q t ht
  have hn : g₁.tileCount = ts.size := (congrArg (·.2.2) hshape).trans hg.tileCount
  obtain ⟨hend, hf⟩ := shrinks_propagate (Grid.valid_collapse hg.valid hg₁) hn hgoal.valid hs₁
    (hgoal.arcs.closed hs₁.shape) [c.position]
  exact ⟨_, enact_eq_ok.mpr ⟨g₁, hg₁, hf, rfl⟩, hend⟩

theorem Grid.Settled.replay (hg : g.Settled ts) (h : replay ts g cs = .ok g') :
    g'.Settled ts := by
  induction cs generalizing g with
  | nil =>
    cases h
    exact hg
  | cons c rest ih =>
    obtain ⟨g₁, hc, hrest⟩ := replay_cons_eq_ok.mp h
    exact ih (hg.enact hc) hrest

theorem shrinks_replay (h : replay ts g cs = .ok g') : g.Shrinks g' := by
  induction cs generalizing g with
  | nil =>
    cases h
    exact .refl _
  | cons c rest ih =>
    obtain ⟨g₁, hc, hrest⟩ := replay_cons_eq_ok.mp h
    exact (shrinks_enact hc).trans (ih hrest)

theorem chosen?_replay (h : replay ts g cs = .ok g') (hc : c ∈ cs) :
    g'.chosen? c.position = some c.tile := by
  induction cs generalizing g with
  | nil => contradiction
  | cons c' rest ih =>
    obtain ⟨g₁, hc', hrest⟩ := replay_cons_eq_ok.mp h
    rcases List.mem_cons.mp hc with rfl | hmem
    · exact (shrinks_replay hrest).chosen _ _ (by simp [chosen?_enact hc'])
    · exact ih hrest hmem

theorem open_of_replay (h : replay ts g cs = .ok g') (hc : c ∈ cs) :
    g.isResolved c.position = false := by
  induction cs generalizing g with
  | nil => contradiction
  | cons c' rest ih =>
    obtain ⟨g₁, hc', hrest⟩ := replay_cons_eq_ok.mp h
    rcases List.mem_cons.mp hc with rfl | hmem
    · exact open_of_enact hc'
    · exact (shrinks_enact hc').isOpen (ih hrest hmem)

theorem nodup_of_replay (h : replay ts g cs = .ok g') : (cs.map (·.position)).Nodup := by
  induction cs generalizing g with
  | nil => exact List.nodup_nil
  | cons c rest ih =>
    obtain ⟨g₁, hc, hrest⟩ := replay_cons_eq_ok.mp h
    refine List.nodup_cons.mpr ⟨fun hmem => ?_, ih hrest⟩
    obtain ⟨c', hc', hpos⟩ := List.mem_map.mp hmem
    have ho := open_of_replay hrest hc'
    simp [Grid.isResolved, hpos, chosen?_enact hc] at ho

/-- Decisions of the goal at different open cells can be made in the order of their list. -/
theorem exists_replay (hg : g.Settled ts) (hgoal : goal.Settled ts) (hs : g.Shrinks goal)
    (ho : ∀ c ∈ cs, g.isResolved c.position = false) (hd : (cs.map (·.position)).Nodup)
    (hc : ∀ c ∈ cs, goal.chosen? c.position = some c.tile) :
    ∃ g', replay ts g cs = .ok g' ∧ g'.Shrinks goal := by
  induction cs generalizing g with
  | nil => exact ⟨g, rfl, hs⟩
  | cons c rest ih =>
    obtain ⟨hnew, hd⟩ := List.nodup_cons.mp hd
    obtain ⟨hoc, ho⟩ := List.forall_mem_cons.mp ho
    obtain ⟨hcc, hc⟩ := List.forall_mem_cons.mp hc
    obtain ⟨g₁, hg₁, hs₁⟩ := exists_enact hg hgoal hs hoc hcc
    have ho₁ : ∀ c' ∈ rest, g₁.isResolved c'.position = false := by
      intro c' hc'
      have hne : c'.position ≠ c.position := by
        intro heq
        exact hnew (List.mem_map.mpr ⟨c', hc', heq⟩)
      rw [Grid.isResolved, chosen?_enact hg₁, if_neg hne]
      exact ho c' hc'
    obtain ⟨g', hg', hs'⟩ := ih (hg.enact hg₁) hs₁ ho₁ hd hc
    exact ⟨g', replay_cons_eq_ok.mpr ⟨g₁, hg₁, hg'⟩, hs'⟩

theorem exists_replay_of_perm (hg : g.Settled ts) (h : replay ts g cs = .ok goal)
    (hp : order.Perm cs) : ∃ g', replay ts g order = .ok g' ∧ g'.Shrinks goal := by
  apply exists_replay hg (hg.replay h) (shrinks_replay h)
  · exact fun c hc => open_of_replay h (hp.mem_iff.mp hc)
  · exact (hp.map _).nodup_iff.mpr (nodup_of_replay h)
  · exact fun c hc => chosen?_replay h (hp.mem_iff.mp hc)

/-- Every order of the decisions leads to the same grid, since each of two orders goes no further
than the other. -/
theorem replay_of_perm (hg : g.Settled ts) (h : replay ts g cs = .ok goal) (hp : order.Perm cs) :
    replay ts g order = .ok goal := by
  obtain ⟨g', hg', hs⟩ := exists_replay_of_perm hg h hp
  obtain ⟨g'', hg'', hs'⟩ := exists_replay_of_perm hg hg' hp.symm
  obtain rfl : goal = g'' := Except.ok.inj (h.symm.trans hg'')
  rw [hg', hs.antisymm hs' (hg.replay hg').valid (hg.replay h).valid]

end Decisions

theorem Coherent.settled {σ : Type} {ts : TileSet} {s : Solve σ Unit} (h : Coherent ts s)
    (hno : ∀ p, s.status ≠ .contradiction p) : s.grid.Settled ts :=
  ⟨h.valid, h.tileCount, h.agrees, h.arcs hno⟩

namespace Engine

variable {σ : Type} {ts : TileSet} {scheduler : Scheduler σ} {agenda : σ} {width height : Nat}
  {given : List Given}

/-- The history can be replayed from the grid `g`, unless a contradiction has come up. -/
def Replays (ts : TileSet) (g : Grid) (s : Solve σ Unit) : Prop :=
  (∀ p, s.status ≠ .contradiction p) → replay ts g s.history = .ok s.grid

theorem replays_step {g : Grid} {s : Solve σ Unit} (hc : Coherent ts s) (h : Replays ts g s) :
    Replays ts g ((flooding ts scheduler agenda).step s).solve := by
  have hm := step_move (flooding ts scheduler agenda) s
  generalize ((flooding ts scheduler agenda).step s).result = r at hm
  generalize ((flooding ts scheduler agenda).step s).solve = s' at hm ⊢
  cases hm with
  | finished => exact h
  | exhausted hs => exact fun _ => h (by simp [hs])
  | undrawn => exact h
  | refused => exact h
  | blocked => exact fun hno => absurd rfl (hno _)
  | broken _ _ _ hplace hpass hf => exact absurd hf (failure_ne_grid hc hplace hpass)
  | advanced hs _ _ hplace hpass hf =>
    obtain rfl := pass_flooding hpass
    exact fun _ => replay_concat (h (by simp [hs])) (enact_eq_ok.mpr ⟨_, hplace, hf, rfl⟩)

/-- A solve replays its history, in the order in which it was made. -/
theorem replays_after {seed : UInt64} {s : Solve σ Unit}
    (h : ((flooding ts scheduler agenda).start width height seed given).result = .ok s)
    (calls : List Call) : Replays ts s.grid ((flooding ts scheduler agenda).after s calls) := by
  have hopen := opening_of_start h
  have hinv := after_invariant (e := flooding ts scheduler agenda)
    (P := fun now => Coherent ts now ∧ Replays ts s.grid now)
    (fun now ⟨hc, hr⟩ => ⟨coherent_step hc, replays_step hc hr⟩)
    ⟨coherent_of_opening hopen, fun _ => by rw [hopen.history_eq]; rfl⟩ calls
  exact hinv.2

/-- As long as no contradiction has come up, the decisions of a solve can be made again in every
order, each followed by a pass from its cell: all of them succeed, from the grid of the set-up, and
the grid of the solve comes out. -/
theorem history_replays_in_every_order {seed : UInt64} {s now : Solve σ Unit} {calls : List Call}
    (h : ((flooding ts scheduler agenda).start width height seed given).result = .ok s)
    (hnow : (flooding ts scheduler agenda).after s calls = now)
    (hno : ∀ p, now.status ≠ .contradiction p) {order : List Collapse}
    (hp : order.Perm now.history) : replay ts s.grid order = .ok now.grid := by
  have hreplay : Replays ts s.grid now := hnow ▸ replays_after h calls
  refine replay_of_perm ((coherent_of_opening (opening_of_start h)).settled ?_) (hreplay hno) hp
  -- a contradiction in the set-up would have stayed
  intro p hs
  have hstay : now.status = .contradiction p := by
    rw [← hnow]
    refine after_invariant (P := fun s => s.status = .contradiction p) ?_ hs calls
    intro s hs
    rw [step_of_isTerminal (by simp [hs]), hs]
  exact hno p hstay

/-- Four cells decided from the first to the last come out the same from the last to the first. -/
theorem history_replays_in_every_order_plains : ∃ s now,
    ((standard .plains .firstMinimum).start 2 2 5 []).result = .ok s ∧
      (standard .plains .firstMinimum).after s [.run] = now ∧
      (now.status, now.history) =
        (.resolved, [⟨⟨0, 0⟩, 0⟩, ⟨⟨1, 0⟩, 0⟩, ⟨⟨0, 1⟩, 0⟩, ⟨⟨1, 1⟩, 0⟩]) ∧
      replay .plains s.grid [⟨⟨1, 1⟩, 0⟩, ⟨⟨0, 1⟩, 0⟩, ⟨⟨1, 0⟩, 0⟩, ⟨⟨0, 0⟩, 0⟩] =
        .ok now.grid := by
  obtain ⟨s, h, hnow⟩ : ∃ s, ((standard .plains .firstMinimum).start 2 2 5 []).result = .ok s ∧
      (((standard .plains .firstMinimum).after s [.run]).status,
        ((standard .plains .firstMinimum).after s [.run]).history) =
        (.resolved, [⟨⟨0, 0⟩, 0⟩, ⟨⟨1, 0⟩, 0⟩, ⟨⟨0, 1⟩, 0⟩, ⟨⟨1, 1⟩, 0⟩]) :=
    exists_start (by decide +kernel)
  obtain ⟨hs, hhist⟩ := Prod.mk.inj hnow
  have hno : ∀ p, ((standard .plains .firstMinimum).after s [.run]).status ≠ .contradiction p := by
    simp [hs]
  refine ⟨s, _, h, rfl, hnow, history_replays_in_every_order h rfl hno ?_⟩
  change List.Perm _ ((standard .plains .firstMinimum).after s [.run]).history
  rw [hhist]
  decide

end Engine

end EdgeTiling
