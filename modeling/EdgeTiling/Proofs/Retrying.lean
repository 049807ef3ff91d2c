import EdgeTiling.Proofs.History
import EdgeTiling.Proofs.Recording

/-! The retry loop. What it does with its surroundings is said by its record: complete attempts with
consecutive seeds, each of them the course of a run told step by step, and at the end the attempt
that the loop stops with, or one that breaks off. Each part of the loop has its own account, and that
of the whole is put together from them along the recursions of the loop. -/

namespace EdgeTiling

theorem Status.of_isTerminal {status : Status} (h : status.isTerminal = true) :
    status = .resolved ∨ ∃ p, status = .contradiction p := by
  cases status with
  | inProgress => contradiction
  | resolved => exact .inl rfl
  | contradiction p => exact .inr ⟨p, rfl⟩

namespace Engine

variable {σ π : Type}

/-- The steps of a run that do not fail: what each reports, and the solve after it. -/
def course (e : Engine σ π) (s : Solve σ π) : List (Report × Solve σ π) :=
  if s.status.isTerminal then []
  else
    let now := e.step s
    match _h : now.result with
    | .error _ => []
    | .ok report => (report, now.solve) :: e.course now.solve
termination_by s.stepsLeft
decreasing_by exact stepsLeft_step _h

variable {e : Engine σ π} {s : Solve σ π} {report : Report} {status : Status}

theorem isTerminal_of_step_ok (h : (e.step s).result = .ok report) :
    s.status.isTerminal = false := by
  cases hs : s.status.isTerminal with
  | false => rfl
  | true => simp [step, hs] at h

theorem course_of_isTerminal (h : s.status.isTerminal = true) : e.course s = [] := by
  rw [course, if_pos h]

theorem run_of_step_error {cause : SolverError} (hs : s.status.isTerminal = false)
    (h : (e.step s).result = .error cause) : (e.run s).result = .error cause := by
  rw [run, if_neg (by simp [hs])]
  dsimp only
  split <;> simp_all

theorem course_of_step_error {cause : SolverError} (h : (e.step s).result = .error cause) :
    e.course s = [] := by
  rw [course]
  dsimp only
  split
  · rfl
  · split <;> simp_all

theorem run_of_step_ok (h : (e.step s).result = .ok report) :
    (e.run s).result = (e.run (e.step s).solve).result ∧
      (e.run s).solve = (e.run (e.step s).solve).solve := by
  rw [run, if_neg (by simp [isTerminal_of_step_ok h])]
  dsimp only
  split
  · simp_all
  · exact ⟨rfl, rfl⟩

theorem course_of_step_ok (h : (e.step s).result = .ok report) :
    e.course s = (report, (e.step s).solve) :: e.course (e.step s).solve := by
  rw [course, if_neg (by simp [isTerminal_of_step_ok h])]
  dsimp only
  split <;> simp_all

theorem history_step (h : (e.step s).result = .ok report) :
    (e.step s).solve.history = s.history ++ report.collapsed.toList := by
  have hm := step_move e s
  rw [h] at hm
  generalize (e.step s).solve = s' at hm ⊢
  cases hm <;> simp [decided]

theorem status_run (h : (e.run s).result = .ok status) :
    (e.run s).solve.status = status ∧ status.isTerminal = true := by
  fun_induction Engine.run e s with
  | case1 s hs =>
    cases h
    exact ⟨rfl, hs⟩
  | case2 => contradiction
  | case3 s _ now report _ later ih => exact ih h

theorem history_run (h : (e.run s).result = .ok status) :
    (e.run s).solve.history = s.history ++ (e.course s).filterMap (·.1.collapsed) := by
  fun_induction Engine.run e s with
  | case1 s hs => simp [course_of_isTerminal hs]
  | case2 => contradiction
  | case3 s _ now report hres later ih =>
    rw [ih h, course_of_step_ok hres, history_step hres, List.append_assoc]
    cases hc : report.collapsed <;> simp [hc, now]

end Engine

namespace Retry

structure Attempt (σ π : Type) where
  engine : Engine σ π
  begun : Solve σ π

section Accounts

variable {ε σ π : Type}

def Attempt.run (a : Attempt σ π) : Engine.Run σ π := a.engine.run a.begun

theorem Attempt.status_eq {a : Attempt σ π} {status : Status} (h : a.run.result = .ok status) :
    a.run.solve.status = status :=
  (Engine.status_run h).1

def stepTold (x : Report × Solve σ π) : Exchange ε σ π := .told x.2 (.stepped x.1) (.ok ())

def Attempt.announced (a : Attempt σ π) (number : Nat) (seed : UInt64) : List (Exchange ε σ π) :=
  [.made seed (.ok (a.engine, a.begun)), .told a.begun (.started number seed) (.ok ())]

def Attempt.exchanges (a : Attempt σ π) (number : Nat) (seed : UInt64) : List (Exchange ε σ π) :=
  a.announced number seed ++ (a.engine.course a.begun).map stepTold

/-- The exchanges of attempts with consecutive seeds, after `tried` others. -/
def exchanges (base : UInt64) (tried : Nat) (done : List (Attempt σ π)) : List (Exchange ε σ π) :=
  (done.zipIdx tried).flatMap fun (a, i) => a.exchanges (i + 1) (base + UInt64.ofNat i)

inductive Finished (fault : SolverError → ε) (e : Engine σ π) (s : Solve σ π) :
    Except ε (Solve σ π) → List (Exchange ε σ π) → Prop
  | ended {status : Status} :
    (e.run s).result = .ok status →
      Finished fault e s (.ok (e.run s).solve) ((e.course s).map stepTold)
  /-- A step fails. -/
  | failed {cause : SolverError} :
    (e.run s).result = .error cause →
      Finished fault e s (.error (fault cause)) ((e.course s).map stepTold)
  /-- The observer fails at a step. -/
  | stopped (seen later : List (Report × Solve σ π)) {report : Report} {now : Solve σ π} {err : ε} :
    e.course s = seen ++ (report, now) :: later →
      Finished fault e s (.error err)
        (seen.map stepTold ++ [.told now (.stepped report) (.error err)])

inductive Broken (fault : SolverError → ε) (number : Nat) (seed : UInt64) :
    ε → List (Exchange ε σ π) → Prop
  | unmade {err : ε} : Broken fault number seed err [.made seed (.error err)]
  /-- The observer fails at the announcement. -/
  | unannounced {e : Engine σ π} {s : Solve σ π} {err : ε} :
    Broken fault number seed err
      [.made seed (.ok (e, s)), .told s (.started number seed) (.error err)]
  | unfinished {a : Attempt σ π} {err : ε} {part : List (Exchange ε σ π)} :
    Finished fault a.engine a.begun (.error err) part →
      Broken fault number seed err (a.announced number seed ++ part)

inductive Tried (fault : SolverError → ε) (number : Nat) (seed : UInt64) :
    Except ε (Solve σ π) → List (Exchange ε σ π) → Prop
  | ended {a : Attempt σ π} {status : Status} :
    a.run.result = .ok status →
      Tried fault number seed (.ok a.run.solve) (a.exchanges number seed)
  | broken {err : ε} {part : List (Exchange ε σ π)} :
    Broken fault number seed err part → Tried fault number seed (.error err) part

/-- The ways in which a loop can end that has tried some seeds and is allowed some more. -/
inductive Account (fault : SolverError → ε) (base : UInt64) (tried allowed : Nat) :
    Except ε (Outcome σ π) → List (Exchange ε σ π) → Prop
  | concluded (earlier : List (Attempt σ π)) {last : Attempt σ π} {status : Status} :
    (∀ a ∈ earlier, ∃ p, a.run.result = .ok (.contradiction p)) → last.run.result = .ok status →
      earlier.length < allowed →
      (status = .resolved ∨ (earlier.length + 1 = allowed ∧ ∃ p, status = .contradiction p)) →
      Account fault base tried allowed (.ok ⟨last.run.solve, tried + (earlier.length + 1)⟩)
        (exchanges base tried (earlier ++ [last]))
  | broken (done : List (Attempt σ π)) {err : ε} {rest : List (Exchange ε σ π)} :
    (∀ a ∈ done, ∃ p, a.run.result = .ok (.contradiction p)) → done.length < allowed →
      Broken fault (tried + done.length + 1) (base + UInt64.ofNat (tried + done.length)) err rest →
      Account fault base tried allowed (.error err) (exchanges base tried done ++ rest)

variable {fault : SolverError → ε} {number tried allowed : Nat} {seed base : UInt64}

@[simp] theorem exchanges_nil : (exchanges base tried [] : List (Exchange ε σ π)) = [] := rfl

@[simp] theorem exchanges_cons (a : Attempt σ π) (done : List (Attempt σ π)) :
    (exchanges base tried (a :: done) : List (Exchange ε σ π)) =
      a.exchanges (tried + 1) (base + UInt64.ofNat tried) ++ exchanges base (tried + 1) done := rfl

theorem made_mem_exchanges {done : List (Attempt σ π)} {i : Nat} {a : Attempt σ π}
    (h : done[i]? = some a) :
    (.made (base + UInt64.ofNat (tried + i)) (.ok (a.engine, a.begun)) : Exchange ε σ π) ∈
      exchanges base tried done := by
  rw [exchanges, List.mem_flatMap]
  exact ⟨(a, tried + i), List.mk_add_mem_zipIdx_iff_getElem?.mpr h, List.mem_cons_self⟩

theorem Finished.cons {e : Engine σ π} {s : Solve σ π} {report : Report}
    {result : Except ε (Solve σ π)} {part : List (Exchange ε σ π)}
    (hstep : (e.step s).result = .ok report) (h : Finished fault e (e.step s).solve result part) :
    Finished fault e s result (stepTold (report, (e.step s).solve) :: part) := by
  obtain ⟨hresult, hsolve⟩ := Engine.run_of_step_ok hstep
  have hcourse := Engine.course_of_step_ok hstep
  cases h with
  | ended hrun =>
    rw [← hsolve, ← List.map_cons, ← hcourse]
    exact .ended (hresult.trans hrun)
  | failed hrun =>
    rw [← List.map_cons, ← hcourse]
    exact .failed (hresult.trans hrun)
  | stopped seen later hseen =>
    rw [← List.cons_append, ← List.map_cons]
    exact .stopped _ later (by rw [hcourse, hseen, List.cons_append])

theorem Account.single {a : Attempt σ π} {status : Status} (ha : a.run.result = .ok status)
    (hend : status = .resolved ∨ (allowed = 0 ∧ ∃ p, status = .contradiction p)) :
    Account fault base tried (allowed + 1) (.ok ⟨a.run.solve, tried + 1⟩)
      (a.exchanges (tried + 1) (base + UInt64.ofNat tried) : List (Exchange ε σ π)) := by
  rw [← List.append_nil (a.exchanges _ _), ← exchanges_nil, ← exchanges_cons]
  exact .concluded [] (by simp) ha (by simp) (hend.imp_right fun h => ⟨by simp [h.1], h.2⟩)

theorem Account.of_broken {err : ε} {part : List (Exchange ε σ π)}
    (h : Broken fault (tried + 1) (base + UInt64.ofNat tried) err part) :
    Account fault base tried (allowed + 1) (.error err) part :=
  .broken [] (by simp) (by simp) h

theorem Account.cons {a : Attempt σ π} {p : Position} {result : Except ε (Outcome σ π)}
    {part : List (Exchange ε σ π)} (ha : a.run.result = .ok (.contradiction p))
    (h : Account fault base (tried + 1) allowed result part) :
    Account fault base tried (allowed + 1) result
      (a.exchanges (tried + 1) (base + UInt64.ofNat tried) ++ part) := by
  cases h with
  | concluded earlier hearlier hlast hlt hend =>
    rw [← exchanges_cons, Nat.add_right_comm tried 1, Nat.add_assoc tried, ← List.cons_append]
    exact .concluded _ (List.forall_mem_cons.mpr ⟨⟨p, ha⟩, hearlier⟩) hlast (by simpa using hlt)
      (by simpa using hend)
  | broken done hdone hlt hbroken =>
    rw [← List.append_assoc, ← exchanges_cons]
    refine .broken _ (List.forall_mem_cons.mpr ⟨⟨p, ha⟩, hdone⟩) (by simpa using hlt) ?_
    simpa only [List.length_cons, Nat.add_right_comm tried 1, Nat.add_assoc tried] using hbroken

end Accounts

section Finish

variable {m : Type → Type} [Monad m] {ε σ π : Type} (w : Watch m ε σ π) {e : Engine σ π}
  {s : Solve σ π}

theorem finish_of_isTerminal (h : s.status.isTerminal = true) : finish w e s = pure (.ok s) := by
  rw [finish, if_pos h]

theorem finish_of_error {cause : SolverError} (hs : s.status.isTerminal = false)
    (h : (e.step s).result = .error cause) :
    finish w e s = (do
      (e.step s).notes.forM fun n => w.note n.record
      pure (.error (w.fault cause))) := by
  rw [finish, if_neg (by simp [hs])]
  dsimp only
  congr 1
  funext _
  split <;> simp_all

theorem finish_of_ok {report : Report} (h : (e.step s).result = .ok report) :
    finish w e s = (do
      (e.step s).notes.forM fun n => w.note n.record
      match ← w.observe (e.step s).solve (.stepped report) with
      | .error err => pure (.error err)
      | .ok _ => finish w e (e.step s).solve) := by
  rw [finish, if_neg (by simp [Engine.isTerminal_of_step_ok h])]
  dsimp only
  congr 1
  funext _
  split
  · simp_all
  · next found hfound =>
    cases h.symm.trans hfound
    rfl

end Finish

section Loops

variable {m : Type → Type} [Monad m] [LawfulMonad m] [MonadAttach m] [LawfulMonadAttach m]
  {ε σ π : Type} (w : Watch m ε σ π)

/-- The induction is along the course of the run, which is that of the watched steps. -/
theorem follows_finish (e : Engine σ π) (s : Solve σ π) :
    Follows w (finish w.recording e s) (finish w e s) (Finished w.fault e s) := by
  induction s using Engine.course.induct e with
  | case1 s hs =>
    rw [finish_of_isTerminal _ hs, finish_of_isTerminal _ hs]
    have hrun := Engine.run_of_isTerminal (e := e) hs
    have hended : Finished w.fault e s (.ok (e.run s).solve) ((e.course s).map stepTold) :=
      .ended (congrArg Engine.Run.result hrun)
    rw [hrun, Engine.course_of_isTerminal hs] at hended
    exact .pure hended
  | case2 s hs now cause hres =>
    have hopen : s.status.isTerminal = false := by simpa using hs
    rw [finish_of_error _ hopen hres, finish_of_error _ hopen hres]
    refine (follows_notes w now.notes).bind ?_
    rintro ⟨⟩ part rfl
    have hfailed : Finished w.fault e s (.error (w.fault cause)) ((e.course s).map stepTold) :=
      .failed (Engine.run_of_step_error hopen hres)
    rw [Engine.course_of_step_error hres] at hfailed
    exact .pure hfailed
  | case3 s hs now report hres ih =>
    rw [finish_of_ok _ hres, finish_of_ok _ hres]
    refine (follows_notes w now.notes).bind ?_
    rintro ⟨⟩ part rfl
    refine (follows_observe w now.solve (.stepped report)).bind ?_
    rintro (err | ⟨⟩) part rfl
    · exact .pure (.stopped [] _ (Engine.course_of_step_ok hres))
    · exact ih.mono fun _ _ h => h.cons hres

theorem follows_attempt (number : Nat) (seed : UInt64) :
    Follows w (attempt w.recording number seed) (attempt w number seed)
      (Tried w.fault number seed) := by
  refine (follows_make w seed).bind ?_
  rintro (err | ⟨e, s⟩) part rfl
  · exact .pure (.broken .unmade)
  · refine (follows_observe w s (.started number seed)).bind ?_
    rintro (err | ⟨⟩) part rfl
    · exact .pure (.broken .unannounced)
    · refine (follows_finish w e s).mono fun result part h => ?_
      cases h with
      | ended hrun => exact .ended (a := ⟨e, s⟩) hrun
      | failed hrun => exact .broken (.unfinished (a := ⟨e, s⟩) (.failed hrun))
      | stopped seen later hseen =>
        exact .broken (.unfinished (a := ⟨e, s⟩) (.stopped seen later hseen))

theorem follows_conclude (limit : Nat) {base : UInt64} {tried allowed : Nat} {a : Attempt σ π}
    {status : Status} (ha : a.run.result = .ok status)
    (hend : status = .resolved ∨ (allowed = 0 ∧ ∃ p, status = .contradiction p)) :
    let seed := base + UInt64.ofNat tried
    Follows w (conclude w.recording limit (tried + 1) seed a.run.solve)
      (conclude w limit (tried + 1) seed a.run.solve) fun result rest =>
        Account w.fault base tried (allowed + 1) result (a.exchanges (tried + 1) seed ++ rest) := by
  intro seed
  unfold conclude
  split
  all_goals
    refine (follows_note w _).bind ?_
    rintro ⟨⟩ part rfl
    apply Follows.pure
    rw [List.append_nil, List.append_nil]
    exact .single ha hend

theorem follows_attempts (limit : Nat) (base : UInt64) (tried left : Nat) :
    Follows w (attempts w.recording limit base tried left) (attempts w limit base tried left)
      (Account w.fault base tried (left + 1)) := by
  induction left generalizing tried with
  | zero =>
    refine (follows_attempt w (tried + 1) (base + UInt64.ofNat tried)).bind ?_
    rintro result part (⟨hrun⟩ | hbroken)
    · have hend := Status.of_isTerminal (Engine.status_run hrun).2
      exact follows_conclude w limit hrun (hend.imp_right fun h => ⟨rfl, h⟩)
    · exact .pure (by simpa using Account.of_broken hbroken)
  | succ left ih =>
    refine (follows_attempt w (tried + 1) (base + UInt64.ofNat tried)).bind ?_
    rintro result part (@⟨a, status, hrun⟩ | hbroken)
    · have hterm := (Engine.status_run hrun).2
      simp only [Attempt.status_eq hrun]
      cases status with
      | inProgress => contradiction
      | resolved => exact follows_conclude w limit hrun (.inl rfl)
      | contradiction p =>
        -- what is left of the loop begins one seed later, and its account is continued to the front
        refine (follows_note w _).bind ?_
        rintro ⟨⟩ part rfl
        exact (ih (tried + 1)).mono fun result part h => h.cons hrun
    · exact .pure (by simpa using Account.of_broken hbroken)

theorem follows_untilResolved (limit : UInt32) (base : UInt64) :
    Follows w (untilResolved w.recording limit base) (untilResolved w limit base)
      (Account w.fault base 0 (max 1 limit.toNat)) := by
  have h := follows_attempts w (max 1 limit.toNat) base 0 (max 1 limit.toNat - 1)
  rwa [Nat.sub_add_cancel (Nat.le_max_left 1 _)] at h

end Loops

def Exchange.collapse? {ε σ π : Type} : Exchange ε σ π → Option Collapse
  | .told _ (.stepped report) _ => report.collapsed
  | _ => none

def decisions {ε σ π : Type} (log : List (Exchange ε σ π)) : List Collapse :=
  log.filterMap Exchange.collapse?

section Main

variable {S ε σ π : Type}

theorem decisions_exchanges (a : Attempt σ π) (number : Nat) (seed : UInt64) :
    decisions (a.exchanges number seed : List (Exchange ε σ π)) =
      (a.engine.course a.begun).filterMap (·.1.collapsed) := by
  simp only [decisions, Attempt.exchanges, Attempt.announced, List.filterMap_append,
    List.filterMap_map]
  rfl

end Main

/-- Solves of a row of two cells, each with a step made before it is handed out. -/
def Watch.stepsAhead : Watch (StateM Unit) SolverError Unit Unit where
  make seed :=
    let e := Engine.standard .plains .firstMinimum
    return (e.start 2 1 seed []).result.map fun s => (e, (e.step s).solve)
  observe _ _ := return .ok ()
  note _ := return ()
  fault := id

end Retry

end EdgeTiling
