import EdgeTiling.Proofs.Retrying
import EdgeTiling.Run
import EdgeTiling.Host

/-! Surveys and searches. A survey solves with every one of some consecutive seeds; a search solves
with the same seeds, watched step by step, until a solve succeeds. Both begin the same solve with
the same seed, since what surrounds them has no say in it, and a watched solve ends as a run does.
So the trials of a survey foretell where a search stops and with what. -/

namespace EdgeTiling

open MonadAttach (CanReturn)
open Retry (Attempt Exchange)

theorem canReturn_run {S α : Type} (x : StateM S α) (s : S) : CanReturn x (x.run s).1 :=
  ⟨s, (x.run s).2, rfl⟩

namespace Engine

variable {σ π : Type} {e : Engine σ π} {s : Solve σ π}

theorem seed_of_start {width height : Nat} {seed : UInt64} {given : List Given}
    (h : (e.start width height seed given).result = .ok s) : s.seed = seed := by
  unfold start at h
  split at h
  · contradiction
  · dsimp only at h
    split at h
    · contradiction
    · cases h
      rfl
    · split at h
      · cases h
        rfl
      · cases h
        rfl
      · contradiction

theorem seed_step (e : Engine σ π) (s : Solve σ π) : (e.step s).solve.seed = s.seed := by
  have hm := step_move e s
  generalize (e.step s).result = r at hm
  generalize (e.step s).solve = s' at hm ⊢
  cases hm <;> rfl

theorem seed_run (e : Engine σ π) (s : Solve σ π) : (e.run s).solve.seed = s.seed :=
  run_invariant (P := fun now => now.seed = s.seed) (fun now h => (seed_step e now).trans h) rfl

end Engine

namespace Survey

structure Begins (tiles : TileSet) (width height : Nat) (how : Selection) (seed : UInt64)
    (a : Attempt Unit Unit) : Prop where
  engine : a.engine = .standard tiles how
  start : (a.engine.start width height seed []).result = .ok a.begun

structure Describes (t : Trial) (a : Attempt Unit Unit) : Prop where
  result : a.run.result = .ok a.run.solve.status
  seed : t.seed = a.run.solve.seed
  resolved : t.resolved = (a.run.solve.status == .resolved)
  steps : t.steps = a.run.solve.steps
  resolvedCells : t.resolvedCells = a.run.solve.grid.resolvedCount
  contradictionAt : t.contradictionAt = cellText a.run.solve.status

def Lists (tiles : TileSet) (width height : Nat) (how : Selection) (base : UInt64)
    (runs : List Trial) : Prop :=
  ∀ (i : Nat) (t : Trial), runs[i]? = some t →
    ∃ a, Begins tiles width height how (base + UInt64.ofNat i) a ∧ Describes t a

section Trials

variable {tiles : TileSet} {width height : Nat} {how : Selection} {seed : UInt64} {t : Trial}
  {a b : Attempt Unit Unit}

theorem Begins.unique (ha : Begins tiles width height how seed a)
    (hb : Begins tiles width height how seed b) : a = b := by
  obtain ⟨e, s⟩ := a
  obtain ⟨e', s'⟩ := b
  obtain ⟨rfl, hs⟩ := ha
  obtain ⟨rfl, hs'⟩ := hb
  exact congrArg _ (Except.ok.inj (hs.symm.trans hs'))

theorem Begins.seed_eq (h : Begins tiles width height how seed a) : a.run.solve.seed = seed :=
  (Engine.seed_run _ _).trans (Engine.seed_of_start h.start)

theorem exists_of_trial (h : (trial tiles width height how seed).1 = .ok t) :
    ∃ a, Begins tiles width height how seed a ∧ Describes t a := by
  unfold trial at h
  dsimp only at h
  split at h
  · contradiction
  · next s hs =>
    split at h
    · contradiction
    · next status hrun =>
      cases h
      have hbegins : Begins tiles width height how seed ⟨.standard tiles how, s⟩ := ⟨rfl, hs⟩
      obtain rfl := (Engine.status_run hrun).1
      exact ⟨_, hbegins, hrun, hbegins.seed_eq.symm, rfl, rfl, rfl, rfl⟩

variable {m : Type → Type} [Monad m] [LawfulMonad m] [MonadAttach m] [LawfulMonadAttach m] [Host m]

theorem exists_of_timedTrial
    (h : CanReturn (timedTrial tiles width height how seed : m _) (.ok t)) :
    ∃ a, Begins tiles width height how seed a ∧ Describes t a := by
  unfold timedTrial at h
  rcases htrial : trial tiles width height how seed with ⟨result, notes⟩
  simp only [htrial] at h
  obtain ⟨before, -, h⟩ := LawfulMonadAttach.canReturn_bind_imp' h
  obtain ⟨-, -, h⟩ := LawfulMonadAttach.canReturn_bind_imp' h
  obtain ⟨after, -, h⟩ := LawfulMonadAttach.canReturn_bind_imp' h
  have hmap := LawfulMonadAttach.eq_of_canReturn_pure h
  cases result with
  | error cause => cases hmap
  | ok untimed =>
    cases hmap
    obtain ⟨a, ha, hd⟩ := exists_of_trial (congrArg Prod.fst htrial)
    exact ⟨a, ha, hd.result, hd.seed, hd.resolved, hd.steps, hd.resolvedCells, hd.contradictionAt⟩

theorem lists_of_trials {n : Nat} {runs : List Trial}
    (h : CanReturn (trials tiles width height how seed n : m _) (.ok runs)) :
    runs.length = n ∧ Lists tiles width height how seed runs := by
  induction n generalizing seed runs with
  | zero =>
    cases LawfulMonadAttach.eq_of_canReturn_pure h
    simp [Lists]
  | succ n ih =>
    obtain ⟨first, hfirst, h⟩ := LawfulMonadAttach.canReturn_bind_imp' h
    cases first with
    | error cause => cases LawfulMonadAttach.eq_of_canReturn_pure h
    | ok t₀ =>
      obtain ⟨others, hothers, h⟩ := LawfulMonadAttach.canReturn_bind_imp' h
      have hmap := LawfulMonadAttach.eq_of_canReturn_pure h
      cases others with
      | error cause => cases hmap
      | ok later =>
        cases hmap
        obtain ⟨hlen, hlater⟩ := ih hothers
        refine ⟨by simp [hlen], fun i t ht => ?_⟩
        cases i with
        | zero =>
          cases ht
          simpa using exists_of_timedTrial hfirst
        | succ i =>
          rw [Nat.add_comm, UInt64.ofNat_add, ← UInt64.add_assoc]
          exact hlater i t ht

theorem lists_of_run {base : UInt64} {n : Nat} {runs : List Trial}
    (h : CanReturn (run tiles width height how base n : m _) (.ok runs)) :
    runs.length = n ∧ Lists tiles width height how base runs := by
  obtain ⟨-, -, h⟩ := LawfulMonadAttach.canReturn_bind_imp' h
  exact lists_of_trials h

end Trials

section Lists

variable {tiles : TileSet} {width height : Nat} {how : Selection} {base : UInt64}
  {runs : List Trial} {a : Attempt Unit Unit} {i : Nat}

theorem Lists.exists_trial (h : Lists tiles width height how base runs) (hi : i < runs.length) :
    ∃ t a, runs[i]? = some t ∧ Begins tiles width height how (base + UInt64.ofNat i) a ∧
      Describes t a := by
  have ht := List.getElem?_eq_getElem hi
  obtain ⟨a, ha, hd⟩ := h i runs[i] ht
  exact ⟨runs[i], a, ht, ha, hd⟩

theorem Lists.resolved_eq_false (h : Lists tiles width height how base runs) {t : Trial}
    {p : Position} (ha : Begins tiles width height how (base + UInt64.ofNat i) a)
    (hrun : a.run.result = .ok (.contradiction p)) (ht : runs[i]? = some t) :
    t.resolved = false := by
  obtain ⟨b, hb, hd⟩ := h i t ht
  obtain rfl := hb.unique ha
  rw [hd.resolved, Retry.Attempt.status_eq hrun]
  rfl

theorem first_resolved {t : Trial} (ht : runs[i]? = some t)
    (hbefore : ∀ j < i, ∀ u, runs[j]? = some u → u.resolved = false)
    (hend : t.resolved = true ∨ i + 1 = runs.length) :
    (t.resolved = true ↔ ∃ u ∈ runs, u.resolved = true) ∧
      i + 1 = if runs.any (·.resolved) then runs.findIdx (·.resolved) + 1 else runs.length := by
  obtain ⟨hi, hget⟩ := List.getElem?_eq_some_iff.mp ht
  have hmem : t ∈ runs := List.mem_of_getElem? ht
  cases hres : t.resolved with
  | true =>
    have hfind : runs.findIdx (·.resolved) = i := by
      refine (List.findIdx_eq hi).mpr ⟨by rw [hget, hres], fun j hj => ?_⟩
      exact hbefore j hj _ (List.getElem?_eq_getElem (by omega))
    rw [if_pos (List.any_eq_true.mpr ⟨t, hmem, hres⟩), hfind]
    exact ⟨iff_of_true rfl ⟨t, hmem, hres⟩, rfl⟩
  | false =>
    have hlast : i + 1 = runs.length := hend.resolve_left (by simp [hres])
    have hnone : ¬ ∃ u ∈ runs, u.resolved = true := by
      rintro ⟨u, hu, hures⟩
      obtain ⟨j, hj⟩ := List.mem_iff_getElem?.mp hu
      have hlt : j < runs.length := (List.getElem?_eq_some_iff.mp hj).1
      rcases Nat.lt_or_eq_of_le (show j ≤ i by omega) with hji | rfl
      · simp [hbefore j hji u hj] at hures
      · cases ht.symm.trans hj
        simp [hres] at hures
    rw [if_neg (mt List.any_eq_true.mp hnone)]
    exact ⟨iff_of_false (by simp) hnone, hlast⟩

end Lists

end Survey

namespace Run

variable {m : Type → Type} [Monad m] [LawfulMonad m] [MonadAttach m] [LawfulMonadAttach m] [Host m]
  {s : Settings} {c : Catalog} {seed : UInt64}

open Survey (Begins)

theorem begins_of_make {e : Engine Unit Unit} {begun : Solve Unit Unit}
    (h : CanReturn ((watch s c : Retry.Watch (Watched m) _ _ _).make seed) (.ok (e, begun))) :
    Begins c.tiles s.width s.height s.selection seed ⟨e, begun⟩ := by
  obtain ⟨-, -, h⟩ := LawfulMonadAttach.canReturn_bind_imp' h
  split at h
  · next found hfound =>
    cases LawfulMonadAttach.eq_of_canReturn_pure h
    exact ⟨rfl, hfound⟩
  · cases LawfulMonadAttach.eq_of_canReturn_pure h

theorem not_error_of_make {a : Attempt Unit Unit} {err : Failure}
    (ha : Begins c.tiles s.width s.height s.selection seed a) :
    ¬ CanReturn ((watch s c : Retry.Watch (Watched m) _ _ _).make seed) (.error err) := by
  intro h
  obtain ⟨-, -, h⟩ := LawfulMonadAttach.canReturn_bind_imp' h
  split at h
  · cases LawfulMonadAttach.eq_of_canReturn_pure h
  · next cause hcause =>
    have hstart := ha.start
    rw [ha.engine, hcause] at hstart
    contradiction

theorem not_error_of_observe {solve : Solve Unit Unit} {event : Retry.Event} {err : Failure}
    (hmode : s.mode ≠ .animate) :
    ¬ CanReturn (observe s c solve event : Watched m _) (.error err) := by
  intro h
  cases event with
  | started attempt seed =>
    simp only [observe, if_neg hmode] at h
    obtain ⟨-, -, h⟩ := LawfulMonadAttach.canReturn_bind_imp' h
    cases LawfulMonadAttach.eq_of_canReturn_pure h
  | stepped report =>
    simp only [observe, if_neg hmode] at h
    obtain ⟨reporter, -, h⟩ := LawfulMonadAttach.canReturn_bind_imp' h
    cases reporter with
    | none => cases LawfulMonadAttach.eq_of_canReturn_pure h
    | some r =>
      obtain ⟨later, -, h⟩ := LawfulMonadAttach.canReturn_bind_imp' h
      obtain ⟨-, -, h⟩ := LawfulMonadAttach.canReturn_bind_imp' h
      cases LawfulMonadAttach.eq_of_canReturn_pure h

/-- What a search can return, it can return with the record of a retry loop. -/
theorem exists_account {base : UInt64} {result : Except Failure (Retry.Outcome Unit Unit)}
    (h : CanReturn (search s c base : m _) result) :
    ∃ log : List (Exchange Failure Unit Unit),
      (∀ x ∈ log, x.Possible (watch s c : Retry.Watch (Watched m) _ _ _)) ∧
      Retry.Account Failure.solver base 0 (max 1 s.attempts.toNat) result log := by
  -- the loop starts with a reporter or without one
  obtain ⟨reporter, hrun⟩ : ∃ reporter, CanReturn
      ((Retry.untilResolved (watch s c) s.attempts base).run reporter >>= fun x => pure x.1 : m _)
      result := by
    unfold search at h
    dsimp only at h
    split at h
    · obtain ⟨reporter, -, h⟩ := LawfulMonadAttach.canReturn_bind_imp' h
      exact ⟨reporter, h⟩
    · obtain ⟨now, -, h⟩ := LawfulMonadAttach.canReturn_bind_imp' h
      obtain ⟨reporter, -, h⟩ := LawfulMonadAttach.canReturn_bind_imp' h
      exact ⟨reporter, h⟩
  obtain ⟨⟨found, reporter'⟩, hloop, hret⟩ := LawfulMonadAttach.canReturn_bind_imp' hrun
  cases LawfulMonadAttach.eq_of_canReturn_pure hret
  exact (Retry.follows_untilResolved _ s.attempts base).exists_log ⟨reporter, reporter', hloop⟩

/-- The attempts on the record of a search are the standard solves with the consecutive seeds. -/
theorem begins_of_possible {base : UInt64} {done : List (Attempt Unit Unit)}
    (h : ∀ x ∈ (Retry.exchanges base 0 done : List (Exchange Failure Unit Unit)),
      x.Possible (watch s c : Retry.Watch (Watched m) _ _ _)) {i : Nat} {a : Attempt Unit Unit}
    (ha : done[i]? = some a) :
    Begins c.tiles s.width s.height s.selection (base + UInt64.ofNat i) a := by
  have hmade := h _ (Retry.made_mem_exchanges ha)
  rw [Nat.zero_add] at hmade
  exact begins_of_make hmade

section Searches

variable {base : UInt64} {runs : List Survey.Trial}
  (hlists : Survey.Lists c.tiles s.width s.height s.selection base runs)
  (hlen : runs.length = max 1 s.attempts.toNat)
include hlists hlen

/-- A search stops at the first trial that is resolved or at the last one, and ends like it. -/
theorem agrees_of_search {o : Retry.Outcome Unit Unit}
    (h : CanReturn (search s c base : m _) (.ok o)) :
    (o.resolved = true ↔ ∃ t ∈ runs, t.resolved = true) ∧
      o.attempts =
        (if runs.any (·.resolved) then runs.findIdx (·.resolved) + 1 else runs.length) ∧
      ∃ t a, runs[o.attempts - 1]? = some t ∧ o.solve = a.run.solve ∧ Survey.Describes t a := by
  obtain ⟨log, hposs, hacc⟩ := exists_account h
  cases hacc with
  | @concluded earlier last status hearlier hlast hlt hend =>
    have hbegins {i : Nat} {a : Attempt Unit Unit} := begins_of_possible (i := i) (a := a) hposs
    obtain ⟨t, a, ht, ha, hd⟩ := hlists.exists_trial (hlen ▸ hlt)
    obtain rfl : a = last := ha.unique (hbegins List.getElem?_concat_length)
    have hbefore : ∀ j < earlier.length, ∀ u, runs[j]? = some u → u.resolved = false := by
      intro j hj u hu
      obtain ⟨p, hp⟩ := hearlier earlier[j] (List.getElem_mem hj)
      refine hlists.resolved_eq_false (hbegins ?_) hp hu
      rw [List.getElem?_append_left hj, List.getElem?_eq_getElem hj]
    have hstops : t.resolved = true ∨ earlier.length + 1 = runs.length := by
      rw [hd.resolved, Retry.Attempt.status_eq hlast, hlen]
      rcases hend with rfl | ⟨hall, -⟩
      · exact .inl rfl
      · exact .inr hall
    obtain ⟨hiff, hplace⟩ := Survey.first_resolved ht hbefore hstops
    rw [hd.resolved] at hiff
    refine ⟨hiff, (Nat.zero_add _).trans hplace, t, a, ?_, rfl, hd⟩
    simpa using ht

theorem observer_of_search_error {err : Failure}
    (h : CanReturn (search s c base : m _) (.error err)) :
    ∃ solve event, CanReturn (observe s c solve event : Watched m _) (.error err) := by
  obtain ⟨log, hposs, hacc⟩ := exists_account h
  cases hacc with
  | broken done hdone hlt hbroken =>
    obtain ⟨t, a, -, ha, hd⟩ := hlists.exists_trial (hlen ▸ hlt)
    have hrest := (List.forall_mem_append.mp hposs).2
    rw [Nat.zero_add] at hbroken
    cases hbroken with
    | unmade => exact absurd (hrest _ List.mem_cons_self) (not_error_of_make ha)
    | @unannounced e begun =>
      have htold := hrest _ (List.mem_cons_of_mem _ List.mem_cons_self)
      exact ⟨begun, .started _ _, htold⟩
    | @unfinished b _ part hfinished =>
      obtain rfl := (begins_of_make (hrest _ List.mem_cons_self)).unique ha
      cases hfinished with
      | failed hfailed => cases hd.result.symm.trans hfailed
      | @stopped seen later report now =>
        have htold := hrest (.told now (.stepped report) (.error err)) (by simp)
        exact ⟨now, .stepped report, htold⟩

end Searches

end Run

/-- A plain tile that fits itself, and three tiles each of which has one that fits on either side.
From none of the three does the way to the right and down lead to the same tile as the way down and
to the right. -/
def skewTiles : List Tile :=
  [⟨"plain", .uniform "p", 1⟩, ⟨"a", ⟨"va", "va", "hb", "ha"⟩, 1⟩,
    ⟨"b", ⟨"vc", "vb", "ha", "hb"⟩, 1⟩, ⟨"c", ⟨"vb", "vc", "hc", "hc"⟩, 1⟩]

def TileSet.skew : TileSet where
  tiles := skewTiles.toArray
  index := .ofTiles skewTiles
  nonempty := by simp [skewTiles]
  faultless := by decide +kernel
  index_eq := rfl

namespace Run

def skewCatalog : Catalog := ⟨.skew, []⟩

/-- Three attempts at a square, which is filled if its first cell is decided to be plain. -/
def skewSettings : Settings :=
  { width := 2, height := 2, attempts := 3, selection := .firstMinimum }

end Run

end EdgeTiling
