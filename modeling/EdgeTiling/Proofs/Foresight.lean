import EdgeTiling.Proofs.Lines
import EdgeTiling.Proofs.Surveying

/-! Searches whose screen, if they need one, works. Nothing then stands in the way of a search, so
what it comes to can be foreseen by the same loop without any surroundings; and it leaves the files
as they are. -/

namespace EdgeTiling

section Settling

variable {S α β : Type} {I : S → Prop}

def Settles (I : S → Prop) (x : StateM S α) (P : α → Prop) : Prop :=
  ∀ s, I s → P (x.run s).1 ∧ I (x.run s).2

theorem Settles.pure {a : α} {P : α → Prop} (h : P a) : Settles I (pure a) P :=
  fun _ hs => ⟨h, hs⟩

theorem Settles.bind {x : StateM S α} {f : α → StateM S β} {P : α → Prop} {Q : β → Prop}
    (hx : Settles I x P) (hf : ∀ a, P a → Settles I (f a) Q) : Settles I (x >>= f) Q := by
  intro s hs
  obtain ⟨hP, hs'⟩ := hx s hs
  exact hf _ hP _ hs'

theorem Settles.exists_run {x : StateM S α} {P : α → Prop} {s : S} (h : Settles I x P) (hs : I s) :
    ∃ a s', x.run s = (a, s') ∧ P a ∧ I s' :=
  ⟨_, _, rfl, h s hs⟩

variable {ρ : Type}

theorem Settles.lift_bind {x : StateM S α} {f : α → StateT ρ (StateM S) β} {r : ρ} {P : α → Prop}
    {Q : β × ρ → Prop} (hx : Settles I x P) (hf : ∀ a, P a → Settles I ((f a).run r) Q) :
    Settles I ((StateT.lift x >>= f).run r) Q := by
  have hlift : Settles I ((StateT.lift x : StateT ρ (StateM S) α).run r)
      fun a => P a.1 ∧ a.2 = r := hx.bind fun a ha => .pure (a := (a, r)) ⟨ha, rfl⟩
  rw [StateT.run_bind]
  refine hlift.bind ?_
  rintro ⟨a, _⟩ ⟨ha, rfl⟩
  exact hf a ha

/-- From states with the invariant the program does as `y` does without any. -/
def Mimics (I : S → Prop) (x : StateT ρ (StateM S) α) (y : Id α) : Prop :=
  ∀ r, Settles I (x.run r) fun a => a.1 = y.run

theorem Mimics.pure (a : α) : Mimics (ρ := ρ) I (pure a) (pure a) :=
  fun _ => .pure rfl

theorem Mimics.bind {x : StateT ρ (StateM S) α} {y : Id α} {f : α → StateT ρ (StateM S) β}
    {g : α → Id β} (hx : Mimics I x y) (hf : Mimics I (f y.run) (g y.run)) :
    Mimics I (x >>= f) (y >>= g) := by
  intro r
  rw [StateT.run_bind]
  refine (hx r).bind ?_
  rintro ⟨a, r'⟩ rfl
  exact hf r'

theorem Mimics.after {x : StateT ρ (StateM S) α} {a : α} {f : α → StateT ρ (StateM S) β} {y : Id β}
    (hx : Mimics I x (Pure.pure a)) (hf : Mimics I (f a) y) : Mimics I (x >>= f) y :=
  hx.bind (g := fun _ => y) hf

theorem Mimics.lift {x : StateM S α} {a : α} (h : Settles I x (· = a)) :
    Mimics (ρ := ρ) I (StateT.lift x) a :=
  fun _ => h.bind fun _ hb => .pure hb

end Settling

namespace Retry

variable {S ρ ε σ π : Type}

structure Answers (I : S → Prop) (w : Watch (StateT ρ (StateM S)) ε σ π) (v : Watch Id ε σ π) :
    Prop where
  make : ∀ seed, Mimics I (w.make seed) (v.make seed)
  observe : ∀ s event, Mimics I (w.observe s event) (v.observe s event)
  note : ∀ r, Mimics I (w.note r) (v.note r)
  fault : w.fault = v.fault

variable {I : S → Prop} {w : Watch (StateT ρ (StateM S)) ε σ π} {v : Watch Id ε σ π}
  (h : Answers I w v)
include h

theorem Answers.notes (notes : List Note) :
    Mimics I (notes.forM fun n => w.note n.record) (notes.forM fun n => v.note n.record) := by
  induction notes with
  | nil => exact .pure ()
  | cons n notes ih => exact (h.note n.record).bind ih

theorem Answers.finish (e : Engine σ π) (s : Solve σ π) :
    Mimics I (Retry.finish w e s) (Retry.finish v e s) := by
  induction s using Engine.course.induct e with
  | case1 s hs =>
    rw [finish_of_isTerminal _ hs, finish_of_isTerminal _ hs]
    exact .pure _
  | case2 s hs now cause hres =>
    have hopen : s.status.isTerminal = false := by simpa using hs
    rw [finish_of_error _ hopen hres, finish_of_error _ hopen hres, h.fault]
    exact (h.notes now.notes).bind (.pure _)
  | case3 s hs now report hres ih =>
    rw [finish_of_ok _ hres, finish_of_ok _ hres]
    refine (h.notes now.notes).bind ((h.observe now.solve (.stepped report)).bind ?_)
    split
    · exact .pure _
    · exact ih

theorem Answers.attempt (number : Nat) (seed : UInt64) :
    Mimics I (Retry.attempt w number seed) (Retry.attempt v number seed) := by
  refine (h.make seed).bind ?_
  split
  · exact .pure _
  · next e s _ =>
    refine (h.observe s (.started number seed)).bind ?_
    split
    · exact .pure _
    · exact h.finish e s

theorem Answers.conclude (limit number : Nat) (seed : UInt64) (s : Solve σ π) :
    Mimics I (Retry.conclude w limit number seed s) (Retry.conclude v limit number seed s) := by
  unfold Retry.conclude
  split <;> exact (h.note _).bind (.pure _)

theorem Answers.attempts (limit : Nat) (base : UInt64) (tried left : Nat) :
    Mimics I (Retry.attempts w limit base tried left) (Retry.attempts v limit base tried left) := by
  induction left generalizing tried with
  | zero =>
    refine (h.attempt (tried + 1) (base + UInt64.ofNat tried)).bind ?_
    split
    · exact .pure _
    · exact h.conclude limit (tried + 1) _ _
  | succ left ih =>
    refine (h.attempt (tried + 1) (base + UInt64.ofNat tried)).bind ?_
    split
    · exact .pure _
    · split
      · exact (h.note _).bind (ih (tried + 1))
      · exact h.conclude limit (tried + 1) _ _

theorem Answers.untilResolved (limit : UInt32) (base : UInt64) :
    Mimics I (Retry.untilResolved w limit base) (Retry.untilResolved v limit base) :=
  h.attempts _ base 0 _

end Retry

namespace Run

/-- The files are these, and the screen takes what is written if anything is shown there. -/
def Works (files : Files) (mode : Mode) (host : Session) : Prop :=
  host.files = files ∧ (mode ≠ .none → host.screen = .ready)

section Hosts

variable {files : Files} {mode : Mode}

theorem settles_note (r : Record) : Settles (Works files mode) (Host.note r) (· = ()) :=
  fun _ h => ⟨rfl, h⟩

theorem settles_now : Settles (Works files mode) Host.now fun _ => True :=
  fun _ h => ⟨trivial, h⟩

theorem settles_pause (d : Duration) : Settles (Works files mode) (Host.pause d) (· = ()) :=
  fun _ h => ⟨rfl, h⟩

theorem settles_colours : Settles (Works files mode) Host.colours fun _ => True :=
  fun _ h => ⟨trivial, h⟩

theorem settles_write (hmode : mode ≠ .none) (text : String) :
    Settles (Works files mode) (Host.write text) (· = .ok ()) := by
  intro host h
  change (host.write text).1 = .ok () ∧ Works files mode (host.write text).2
  rw [Session.write, h.2 hmode]
  exact ⟨rfl, h.1, fun _ => rfl⟩

theorem settles_flush (hmode : mode ≠ .none) :
    Settles (Works files mode) Host.flush (· = .ok ()) := by
  intro host h
  change host.flush = .ok () ∧ Works files mode host
  rw [Session.flush, h.2 hmode]
  exact ⟨rfl, h⟩

theorem settles_showGrid (hmode : mode ≠ .none) (d : Display) (g : Grid) (status : Status) :
    Settles (Works files mode) (showGrid d g status) (· = .ok ()) := by
  have hdraw : Settles (Works files mode) (d.draw g status) (· = .ok ()) := by
    refine settles_colours.bind fun colours _ => (settles_write hmode _).bind ?_
    rintro _ rfl
    refine (settles_flush hmode).bind ?_
    rintro _ rfl
    exact .pure rfl
  refine hdraw.bind ?_
  rintro _ rfl
  exact .pure rfl

theorem settles_reportStep (progress : Progress) (status : Status) (r : Reporter) :
    Settles (Works files mode) (reportStep progress status r) fun _ => True := by
  have hend : ∀ r : Reporter, Settles (Works files mode) (do
      if status.isTerminal then do
        let now ← Host.now
        Host.note (r.finish now progress status).1
        return (r.finish now progress status).2
      else return r) fun _ => True := by
    intro r
    split
    · exact settles_now.bind fun _ _ => (settles_note _).bind fun _ _ => .pure trivial
    · exact .pure trivial
  refine settles_now.bind fun now _ => ?_
  dsimp only
  split
  · exact (settles_note _).bind fun _ _ => hend _
  · exact hend _

end Hosts

def foreseen (s : Settings) (c : Catalog) : Retry.Watch Id Failure Unit Unit where
  make seed :=
    let e := Engine.standard c.tiles s.selection
    match (e.start s.width s.height seed []).result with
    | .ok solve => .ok (e, solve)
    | .error cause => .error (.solver cause)
  observe _ _ := .ok ()
  note _ := ()
  fault := .solver

theorem answers_watch (files : Files) (s : Settings) (c : Catalog) :
    Retry.Answers (Works files s.mode) (watch s c : Retry.Watch (Watched (StateM Session)) _ _ _)
      (foreseen s c) where
  make seed := by
    have hnotes : ∀ notes : List Note, Mimics (ρ := Option Reporter) (Works files s.mode)
        (notes.forM fun n => StateT.lift (Host.note n.record)) (pure ()) := by
      intro notes
      induction notes with
      | nil => exact .pure ()
      | cons n notes ih => exact .after (.lift (settles_note n.record)) ih
    refine .after (hnotes _) ?_
    cases hmade : ((Engine.standard c.tiles s.selection).start s.width s.height seed []).result with
    | ok solve =>
      simp only [foreseen, hmade]
      exact .pure _
    | error cause =>
      simp only [foreseen, hmade]
      exact .pure _
  observe solve event := by
    cases event with
    | started attempt seed =>
      refine .after (.lift (settles_note _)) ?_
      split
      · next hmode => exact .lift (settles_showGrid (by simp [hmode]) _ _ _)
      · exact .pure _
    | stepped report =>
      intro r
      dsimp only [watch, observe]
      rw [StateT.run_bind, StateT.run_get, pure_bind]
      rcases r with _ | r
      on_goal 2 => refine (settles_reportStep _ _ r).lift_bind fun r' _ => ?_
      -- the screen is the same whether there is a reporter or not
      all_goals
        change Settles (Works files s.mode) (StateT.run (ite _ _ _) _) _
        split
        · next hmode =>
          refine Mimics.after (.lift (settles_showGrid (by simp [hmode]) _ _ _)) ?_ _
          exact .after (.lift (settles_pause _)) (.pure _)
        · exact Mimics.pure _ _
  note r := .lift (settles_note r)
  fault := rfl

/-- A search on a screen that works, if it needs one, returns what is foreseen and leaves the files
alone. -/
theorem settles_search (files : Files) (s : Settings) (c : Catalog) (seed : UInt64) :
    Settles (Works files s.mode) (search s c seed)
      (· = (Retry.untilResolved (foreseen s c) s.attempts seed).run) := by
  have hloop := (answers_watch files s c).untilResolved s.attempts seed
  unfold search
  dsimp only
  split
  · exact (hloop none).bind fun _ h => .pure h
  · exact settles_now.bind fun _ _ => (hloop _).bind fun _ h => .pure h

section Outcomes

open Retry (Attempt)
open Survey (Begins)

variable {s : Settings} {c : Catalog} {seed : UInt64}

structure Concludes (s : Settings) (c : Catalog) (seed : UInt64) (earlier : List (Attempt Unit Unit))
    (last : Attempt Unit Unit) (status : Status) : Prop where
  begins : ∀ i a, (earlier ++ [last])[i]? = some a →
    Begins c.tiles s.width s.height s.selection (seed + UInt64.ofNat i) a
  contradicted : ∀ a ∈ earlier, ∃ p, a.run.result = .ok (.contradiction p)
  ended : last.run.result = .ok status
  allowed : earlier.length < max 1 s.attempts.toNat
  stopped : status = .resolved ∨
    (earlier.length + 1 = max 1 s.attempts.toNat ∧ ∃ p, status = .contradiction p)

theorem begins_of_foreseen {e : Engine Unit Unit} {begun : Solve Unit Unit}
    (h : ((foreseen s c).make seed).run = .ok (e, begun)) :
    Begins c.tiles s.width s.height s.selection seed ⟨e, begun⟩ := by
  simp only [foreseen] at h
  split at h
  · next hstart =>
    cases h
    exact ⟨rfl, hstart⟩
  · cases h

theorem start_error_of_foreseen {err : Failure}
    (h : ((foreseen s c).make seed).run = .error err) :
    ∃ cause, ((Engine.standard c.tiles s.selection).start s.width s.height seed []).result =
      .error cause ∧ err = .solver cause := by
  simp only [foreseen] at h
  split at h
  · cases h
  · next cause hstart =>
    cases h
    exact ⟨cause, hstart, rfl⟩

theorem infiniteTotal_of_run {a : Attempt Unit Unit} {cause : SolverError}
    (ha : Begins c.tiles s.width s.height s.selection seed a)
    (h : (a.engine.run a.begun).result = .error cause) : cause = .weights .infiniteTotal := by
  obtain ⟨e, begun⟩ := a
  obtain ⟨rfl, hstart⟩ := ha
  rcases Engine.run_ends (Scheduler.faithful_fewest s.selection) (Engine.reaches_of_start hstart) with
    ⟨status, hok, -⟩ | hinf
  · cases hok.symm.trans h
  · cases hinf.symm.trans h
    rfl

theorem start_error_of_start_error {seed' : UInt64} {ts : TileSet} {how : Selection}
    {width height : Nat} {cause : SolverError}
    (h : ((Engine.standard ts how).start width height seed []).result = .error cause) :
    ((Engine.standard ts how).start width height seed' []).result = .error cause := by
  cases hfull : Grid.new width height ts.size with
  | error e =>
    simp only [Engine.start, Engine.standard, hfull] at h ⊢
    exact h
  | ok full => cases (Engine.start_error_iff hfull seed).mp h

/-- What a foreseen search comes to: a failed set-up, a last attempt, or a draw without a total. -/
theorem foreseen_outcome (s : Settings) (c : Catalog) (seed : UInt64) :
    (∃ cause, ((Engine.standard c.tiles s.selection).start s.width s.height seed []).result =
        .error cause ∧
      (Retry.untilResolved (foreseen s c) s.attempts seed).run = .error (.solver cause)) ∨
    (∃ earlier last status, Concludes s c seed earlier last status ∧
      (Retry.untilResolved (foreseen s c) s.attempts seed).run =
        .ok ⟨last.run.solve, earlier.length + 1⟩) ∨
    (Retry.untilResolved (foreseen s c) s.attempts seed).run =
      .error (.solver (.weights .infiniteTotal)) := by
  obtain ⟨log, hposs, hacc⟩ :=
    (Retry.follows_untilResolved (foreseen s c) s.attempts seed).exists_log (a := _) rfl
  generalize (Retry.untilResolved (foreseen s c) s.attempts seed).run = result at hacc ⊢
  cases hacc with
  | @concluded earlier last status hearlier hlast hlt hend =>
    refine .inr (.inl ⟨earlier, last, status, ⟨?_, hearlier, hlast, hlt, hend⟩, by simp⟩)
    intro i a ha
    have hmade := hposs _ (Retry.made_mem_exchanges ha)
    rw [Nat.zero_add] at hmade
    exact begins_of_foreseen hmade
  | @broken done err rest hdone hlt hbroken =>
    have hrest := (List.forall_mem_append.mp hposs).2
    cases hbroken with
    | unmade =>
      obtain ⟨cause, hstart, rfl⟩ := start_error_of_foreseen (hrest _ List.mem_cons_self)
      exact .inl ⟨cause, start_error_of_start_error hstart, rfl⟩
    | unannounced => cases hrest _ (List.mem_cons_of_mem _ List.mem_cons_self)
    | @unfinished a _ part hfinished =>
      cases hfinished with
      | failed hfailed =>
        have hbegins := begins_of_foreseen (hrest _ List.mem_cons_self)
        exact .inr (.inr (by rw [infiniteTotal_of_run hbegins hfailed]; rfl))
      | @stopped seen later report now =>
        cases hrest (.told now (.stepped report) (.error err)) (by simp)

end Outcomes

end Run

end EdgeTiling
