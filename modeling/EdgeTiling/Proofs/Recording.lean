import EdgeTiling.Retry

/-! Records of a retry loop. All that a loop has to do with its surroundings, notes apart, is to
ask for solves and to tell an observer what happens. Surroundings that record each of these
exchanges let the loop run as before, so whatever can be read off the record is true of the loop
itself. -/

namespace EdgeTiling

open MonadAttach (CanReturn)

/-- A program need only go on alike after what its first part can return. -/
theorem bind_congr_of_canReturn {m : Type → Type} [Monad m] [LawfulMonad m] [MonadAttach m]
    [LawfulMonadAttach m] {α β : Type} {x : m α} {f g : α → m β}
    (h : ∀ a, CanReturn x a → f a = g a) : x >>= f = x >>= g := by
  rw [← WeaklyLawfulMonadAttach.map_attach (x := x), bind_map_left, bind_map_left]
  exact bind_congr fun a => h a.1 a.2

namespace Retry

inductive Exchange (ε σ π : Type)
  | made (seed : UInt64) (answer : Except ε (Engine σ π × Solve σ π))
  | told (solve : Solve σ π) (event : Event) (answer : Except ε Unit)

variable {m : Type → Type} [Monad m] {ε σ π : Type}

/-- The same surroundings, with a record of what they are asked and answer. -/
def Watch.recording (w : Watch m ε σ π) : Watch (StateT (List (Exchange ε σ π)) m) ε σ π where
  make seed := do
    let answer ← StateT.lift (w.make seed)
    modify (· ++ [.made seed answer])
    return answer
  observe s event := do
    let answer ← StateT.lift (w.observe s event)
    modify (· ++ [.told s event answer])
    return answer
  note r := StateT.lift (w.note r)
  fault := w.fault

theorem Watch.run_make_recording [LawfulMonad m] (w : Watch m ε σ π) (seed : UInt64)
    (log : List (Exchange ε σ π)) :
    (w.recording.make seed).run log =
      (fun answer => (answer, log ++ [.made seed answer])) <$> w.make seed := by
  simp [recording]

theorem Watch.run_observe_recording [LawfulMonad m] (w : Watch m ε σ π) (s : Solve σ π)
    (event : Event) (log : List (Exchange ε σ π)) :
    (w.recording.observe s event).run log =
      (fun answer => (answer, log ++ [.told s event answer])) <$> w.observe s event := by
  simp [recording]

theorem Watch.run_note_recording [LawfulMonad m] (w : Watch m ε σ π) (r : Record)
    (log : List (Exchange ε σ π)) :
    (w.recording.note r).run log = (fun _ => ((), log)) <$> w.note r := by
  simp [recording]

section Follows

variable [MonadAttach m]

def Exchange.Possible (w : Watch m ε σ π) : Exchange ε σ π → Prop
  | .made seed answer => CanReturn (w.make seed) answer
  | .told s event answer => CanReturn (w.observe s event) answer

/-- The program `x` does as `y` does, adds to the record what the surroundings can answer, and `P`
holds of what it returns and adds. -/
structure Follows {α : Type} (w : Watch m ε σ π) (x : StateT (List (Exchange ε σ π)) m α) (y : m α)
    (P : α → List (Exchange ε σ π) → Prop) : Prop where
  same : ∀ log, Prod.fst <$> x.run log = y
  adds : ∀ log a log', CanReturn (x.run log) (a, log') →
    ∃ part, log' = log ++ part ∧ (∀ c ∈ part, c.Possible w) ∧ P a part

variable {α β : Type} {w : Watch m ε σ π} {x : StateT (List (Exchange ε σ π)) m α} {y : m α}
  {P : α → List (Exchange ε σ π) → Prop}

theorem Follows.mono {Q : α → List (Exchange ε σ π) → Prop} (h : Follows w x y P)
    (hPQ : ∀ a part, P a part → Q a part) : Follows w x y Q := by
  refine ⟨h.same, fun log a log' hr => ?_⟩
  obtain ⟨part, hlog, hposs, hP⟩ := h.adds log a log' hr
  exact ⟨part, hlog, hposs, hPQ a part hP⟩

variable [LawfulMonad m] [LawfulMonadAttach m]

theorem Follows.pure {a : α} (h : P a []) : Follows w (pure a) (pure a) P := by
  refine ⟨fun log => by simp, fun log b log' hr => ?_⟩
  rw [StateT.run_pure] at hr
  cases LawfulMonadAttach.eq_of_canReturn_pure hr
  exact ⟨[], by simp, by simp, h⟩

theorem Follows.bind {f : α → StateT (List (Exchange ε σ π)) m β} {g : α → m β}
    {R : β → List (Exchange ε σ π) → Prop} (hx : Follows w x y P)
    (hf : ∀ a part, P a part → Follows w (f a) (g a) fun b rest => R b (part ++ rest)) :
    Follows w (x >>= f) (y >>= g) R := by
  constructor
  · intro log
    rw [StateT.run_bind, map_bind, ← hx.same log, bind_map_left]
    refine bind_congr_of_canReturn fun ⟨a, log'⟩ hr => ?_
    obtain ⟨part, -, -, hP⟩ := hx.adds log a log' hr
    exact (hf a part hP).same log'
  · intro log b log'' hr
    rw [StateT.run_bind] at hr
    obtain ⟨⟨a, log'⟩, hra, hrb⟩ := LawfulMonadAttach.canReturn_bind_imp' hr
    obtain ⟨part, rfl, hposs, hP⟩ := hx.adds log a log' hra
    obtain ⟨rest, rfl, hposs', hR⟩ := (hf a part hP).adds _ b log'' hrb
    refine ⟨part ++ rest, List.append_assoc _ _ _, ?_, hR⟩
    exact List.forall_mem_append.mpr ⟨hposs, hposs'⟩

/-- A program that runs `y` and adds what comes of it to the record. -/
theorem follows_of_run_eq {add : α → List (Exchange ε σ π)}
    (h : ∀ log, x.run log = (fun a => (a, log ++ add a)) <$> y)
    (hposs : ∀ a, CanReturn y a → ∀ c ∈ add a, c.Possible w) :
    Follows w x y fun a part => part = add a := by
  refine ⟨fun log => by simp [h], fun log a log' hr => ?_⟩
  rw [h] at hr
  obtain ⟨b, hb, heq⟩ := LawfulMonadAttach.canReturn_map_imp' hr
  obtain ⟨rfl, rfl⟩ := Prod.mk.inj heq
  exact ⟨add b, rfl, hposs b hb, rfl⟩

theorem Follows.exists_log (h : Follows w x y P) {a : α} (hr : CanReturn y a) :
    ∃ log, (∀ c ∈ log, c.Possible w) ∧ P a log := by
  rw [← h.same []] at hr
  obtain ⟨⟨b, log⟩, hx, rfl⟩ := LawfulMonadAttach.canReturn_map_imp' hr
  obtain ⟨part, rfl, hposs, hP⟩ := h.adds [] b log hx
  exact ⟨_, hposs, hP⟩

theorem follows_make (w : Watch m ε σ π) (seed : UInt64) :
    Follows w (w.recording.make seed) (w.make seed) fun a part => part = [.made seed a] :=
  follows_of_run_eq (w.run_make_recording seed) fun a ha => by simpa [Exchange.Possible] using ha

theorem follows_observe (w : Watch m ε σ π) (s : Solve σ π) (event : Event) :
    Follows w (w.recording.observe s event) (w.observe s event)
      fun a part => part = [.told s event a] :=
  follows_of_run_eq (w.run_observe_recording s event) fun a ha => by
    simpa [Exchange.Possible] using ha

theorem follows_note (w : Watch m ε σ π) (r : Record) :
    Follows w (w.recording.note r) (w.note r) fun _ part => part = [] :=
  follows_of_run_eq (fun log => by simp [w.run_note_recording]) (by simp)

theorem follows_notes (w : Watch m ε σ π) (notes : List Note) :
    Follows w (notes.forM fun n => w.recording.note n.record) (notes.forM fun n => w.note n.record)
      fun _ part => part = [] := by
  induction notes with
  | nil => exact .pure rfl
  | cons n notes ih =>
    refine (follows_note w n.record).bind ?_
    rintro ⟨⟩ part rfl
    exact ih

end Follows

/-- In surroundings with a state, the two programs return the same from every state and leave the
same. -/
theorem Follows.exists_run {S α : Type} {w : Watch (StateM S) ε σ π}
    {x : StateT (List (Exchange ε σ π)) (StateM S) α} {y : StateM S α}
    {P : α → List (Exchange ε σ π) → Prop} (h : Follows w x y P) (start : S) :
    ∃ a log finish, y.run start = (a, finish) ∧ (x.run []).run start = ((a, log), finish) ∧
      P a log := by
  rcases hx : (x.run []).run start with ⟨⟨a, log⟩, finish⟩
  refine ⟨a, log, finish, ?_, rfl, ?_⟩
  · rw [← h.same [], StateT.run_map, hx]
    rfl
  · obtain ⟨part, rfl, -, hP⟩ := h.adds [] a log ⟨start, finish, hx⟩
    exact hP

end Retry

end EdgeTiling
