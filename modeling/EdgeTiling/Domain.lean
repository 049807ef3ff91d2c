/-! Candidate sets: one flag for each tile of a tile set. -/

namespace EdgeTiling

/-- A tile is known by its place in its tile set. -/
abbrev TileId := Nat

def TileId.text (t : TileId) : String := "#" ++ toString t

@[ext] structure Domain where
  flags : List Bool
  deriving DecidableEq, Repr

namespace Domain

def width (d : Domain) : Nat := d.flags.length

/-- Membership; a tile beyond the flags is no member. -/
def has (d : Domain) (t : TileId) : Bool := d.flags.getD t false

def size (d : Domain) : Nat := d.flags.count true

def tiles (d : Domain) : List TileId := (List.range d.width).filter d.has

def full (n : Nat) : Domain := ⟨List.replicate n true⟩

def empty (n : Nat) : Domain := ⟨List.replicate n false⟩

def ofPred (n : Nat) (p : TileId → Bool) : Domain := ⟨(List.range n).map p⟩

def only (n : Nat) (t : TileId) : Domain := ofPred n (· == t)

/-- The flags of `a` that `b` confirms; where `b` has ended, none is. -/
def confirm : List Bool → List Bool → List Bool
  | [], _ => []
  | _ :: a, [] => false :: confirm a []
  | x :: a, y :: b => (x && y) :: confirm a b

def inter (a b : Domain) : Domain := ⟨confirm a.flags b.flags⟩

/-- The members of `a` or of `b`, for sets that range over the same tiles. -/
def union (a b : Domain) : Domain := ⟨List.zipWith (· || ·) a.flags b.flags⟩

@[simp] theorem width_full (n : Nat) : (full n).width = n := by simp [full, width]

@[simp] theorem width_empty (n : Nat) : (empty n).width = n := by simp [empty, width]

@[simp] theorem width_ofPred (n : Nat) (p : TileId → Bool) : (ofPred n p).width = n := by
  simp [ofPred, width]

@[simp] theorem width_only (n : Nat) (t : TileId) : (only n t).width = n := by simp [only]

theorem length_confirm : ∀ a b : List Bool, (confirm a b).length = a.length
  | [], _ => rfl
  | _ :: a, [] => by simp [confirm, length_confirm a []]
  | _ :: a, _ :: b => by simp [confirm, length_confirm a b]

theorem getD_confirm : ∀ (a b : List Bool) (t : Nat),
    (confirm a b).getD t false = (a.getD t false && b.getD t false)
  | [], _, _ => by simp [confirm]
  | _ :: _, [], 0 => by simp [confirm]
  | _ :: a, [], t + 1 => by simpa [confirm] using getD_confirm a [] t
  | _ :: _, _ :: _, 0 => by simp [confirm]
  | _ :: a, _ :: b, t + 1 => by simpa [confirm] using getD_confirm a b t

theorem count_confirm_le : ∀ a b : List Bool, (confirm a b).count true ≤ a.count true
  | [], _ => by simp [confirm]
  | x :: a, [] => by
    have ih := count_confirm_le a []
    cases x <;> simp [confirm] <;> omega
  | x :: a, y :: b => by
    have ih := count_confirm_le a b
    cases x <;> cases y <;> simp [confirm] <;> omega

theorem confirm_eq_of_count : ∀ a b : List Bool,
    (confirm a b).count true = a.count true → confirm a b = a
  | [], _, _ => rfl
  | false :: a, [], h => by simpa [confirm] using confirm_eq_of_count a [] (by simpa [confirm] using h)
  | true :: a, [], h => by
    have hle := count_confirm_le a []
    simp only [confirm, List.count_cons] at h
    simp at h
    omega
  | false :: a, _ :: b, h => by simpa [confirm] using confirm_eq_of_count a b (by simpa [confirm] using h)
  | true :: a, true :: b, h => by simpa [confirm] using confirm_eq_of_count a b (by simpa [confirm] using h)
  | true :: a, false :: b, h => by
    have hle := count_confirm_le a b
    simp only [confirm, List.count_cons] at h
    simp at h
    omega

@[simp] theorem width_inter (a b : Domain) : (a.inter b).width = a.width :=
  length_confirm a.flags b.flags

@[simp] theorem has_inter (a b : Domain) (t : TileId) :
    (a.inter b).has t = (a.has t && b.has t) :=
  getD_confirm a.flags b.flags t

theorem size_inter_le (a b : Domain) : (a.inter b).size ≤ a.size :=
  count_confirm_le a.flags b.flags

/-- An intersection that drops a member has fewer members. -/
theorem size_inter_lt {a b : Domain} (h : a.inter b ≠ a) : (a.inter b).size < a.size := by
  refine Nat.lt_of_le_of_ne (size_inter_le a b) fun hc => h ?_
  exact Domain.ext (confirm_eq_of_count a.flags b.flags hc)

end Domain

end EdgeTiling
