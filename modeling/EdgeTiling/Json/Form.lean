import EdgeTiling.Json.Reader
import EdgeTiling.Json.Tree

/-! Forms: how values of a type are written as JSON and read again. -/

namespace EdgeTiling.Json

structure Form (α : Type) where
  tree : α → Tree
  scan : Scan α

namespace Form

variable {α β γ : Type}

def encode (f : Form α) (a : α) : String := String.ofList (f.tree a).compact

def decode (f : Form α) (text : String) : Except Fault α := (document f.scan).run text

def natural : Form Nat := ⟨.number, Json.natural⟩

def optional (f : Form α) : Form (Option α) :=
  ⟨fun a => (a.map f.tree).getD .null, Json.optional f.scan⟩

def list (f : Form α) : Form (List α) := ⟨fun l => .list (l.map f.tree), Json.list f.scan⟩

def map (f : Form α) (into : α → β) (back : β → α) : Form β :=
  ⟨fun b => f.tree (back b), into <$> f.scan⟩

/-- A value with two named parts. Members with other names are passed over. -/
def two (j k : String) (f : Form α) (g : Form β) : Form (α × β) where
  tree v := .object [(j, f.tree v.1), (k, g.tree v.2)]
  scan := record (none, none)
    (fun (a, b) name => do
      if name = j then return (← once a f.scan, b)
      else if name = k then return (a, ← once b g.scan)
      else do
        ignored
        return (a, b))
    (fun (a, b) => do return (← a, ← b))
    (do
      let a ← item true f.scan
      let b ← item false g.scan
      return (a, b))

def three (j k l : String) (f : Form α) (g : Form β) (h : Form γ) : Form (α × β × γ) where
  tree v := .object [(j, f.tree v.1), (k, g.tree v.2.1), (l, h.tree v.2.2)]
  scan := record (none, none, none)
    (fun (a, b, c) name => do
      if name = j then return (← once a f.scan, b, c)
      else if name = k then return (a, ← once b g.scan, c)
      else if name = l then return (a, b, ← once c h.scan)
      else do
        ignored
        return (a, b, c))
    (fun (a, b, c) => do return (← a, ← b, ← c))
    (do
      let a ← item true f.scan
      let b ← item false g.scan
      let c ← item false h.scan
      return (a, b, c))

def one (j : String) (f : Form α) : Form α where
  tree v := .object [(j, f.tree v)]
  scan := record none
    (fun a name => do
      if name = j then once a f.scan
      else do
        ignored
        return a)
    id
    (item true f.scan)

def named (all : List α) (name : α → String) : Form α where
  tree a := .text (name a)
  scan := choice fun s => (all.find? fun a => name a == s).map .nothing

end Form

end EdgeTiling.Json
