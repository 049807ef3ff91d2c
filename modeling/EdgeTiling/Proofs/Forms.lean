import EdgeTiling.Proofs.Reading
import EdgeTiling.Serial

/-! Serialised values come back. Each form reads the compact text of a value as that value, as long as
the numbers in it have 64 bits, and so no two values share a text. -/

namespace EdgeTiling

namespace Json.Form

variable {α β γ : Type} {f : Form α} {g : Form β} {h : Form γ}

def Recovers (f : Form α) (a : α) : Prop := Reads f.scan (f.tree a).compact a

structure Faithful (f : Form α) (fits : α → Prop) : Prop where
  decode_encode : ∀ a, fits a → f.decode (f.encode a) = .ok a
  encode_injective : ∀ a b, fits a → fits b → f.encode a = f.encode b → a = b

theorem faithful_of_recovers {fits : α → Prop} (hf : ∀ a, fits a → f.Recovers a) :
    f.Faithful fits := by
  have hdecode : ∀ a, fits a → f.decode (f.encode a) = .ok a :=
    fun a ha => (hf a ha).run_document
  refine ⟨hdecode, fun a b ha hb hab => ?_⟩
  have hread := hdecode a ha
  rw [hab, hdecode b hb] at hread
  exact (Except.ok.inj hread).symm

theorem recovers_natural {n : Nat} (hn : n < wordLimit) : natural.Recovers n := reads_natural hn

theorem recovers_optional {o : Option α} (ho : ∀ a ∈ o, f.Recovers a)
    (hnull : ∀ a, f.tree a ≠ .null) : f.optional.Recovers o := by
  cases o with
  | none => exact reads_null
  | some a => exact Reads.optional (ho a rfl) (hnull a)

theorem recovers_list {l : List α} (hl : ∀ a ∈ l, f.Recovers a) : f.list.Recovers l :=
  reads_list hl

theorem recovers_map {into : α → β} {back : β → α} {b : β} (hf : f.Recovers (back b))
    (hb : into (back b) = b) : (f.map into back).Recovers b := by
  have hmap := Reads.map hf into
  rw [hb] at hmap
  exact hmap

theorem recovers_one {j : String} {a : α} (hj : isName j = true) (ha : f.Recovers a) :
    (one j f).Recovers a := by
  refine Collects.reads_record (.cons (some a) hj ?_ (.nil _)) (by rfl) _
  simp only [if_true]
  exact Reads.once ha

theorem recovers_two {j k : String} {v : α × β} (hnames : ∀ name ∈ [j, k], isName name = true)
    (hdistinct : [k, j].Nodup) (hf : f.Recovers v.1) (hg : g.Recovers v.2) :
    (two j k f g).Recovers v := by
  have hj := hnames j (by simp)
  have hk := hnames k (by simp)
  have hjk : k ≠ j := by simpa using hdistinct
  refine Collects.reads_record (.cons (some v.1, none) hj ?_ (.cons (some v.1, some v.2) hk ?_
    (.nil _))) (by rfl) _
  · simp only [if_true]
    exact (Reads.once hf).bind_pure fun a => (a, none)
  · simp only [hjk, if_false, if_true]
    exact (Reads.once hg).bind_pure fun b => (some v.1, b)

theorem recovers_three {j k l : String} {v : α × β × γ}
    (hnames : ∀ name ∈ [j, k, l], isName name = true) (hdistinct : [l, k, j].Nodup)
    (hf : f.Recovers v.1) (hg : g.Recovers v.2.1) (hh : h.Recovers v.2.2) :
    (three j k l f g h).Recovers v := by
  have hj := hnames j (by simp)
  have hk := hnames k (by simp)
  have hl := hnames l (by simp)
  obtain ⟨⟨hkl, hjl⟩, hjk⟩ : (l ≠ k ∧ l ≠ j) ∧ k ≠ j := by simpa using hdistinct
  refine Collects.reads_record (.cons (some v.1, none, none) hj ?_ (.cons
    (some v.1, some v.2.1, none) hk ?_ (.cons (some v.1, some v.2.1, some v.2.2) hl ?_
      (.nil _)))) (by rfl) _
  · simp only [if_true]
    exact (Reads.once hf).bind_pure fun a => (a, none, none)
  · simp only [hjk, if_false, if_true]
    exact (Reads.once hg).bind_pure fun b => (some v.1, b, none)
  · simp only [hjl, hkl, if_false, if_true]
    exact (Reads.once hh).bind_pure fun c => (some v.1, some v.2.1, c)

theorem recovers_named {all : List α} {name : α → String} {a : α} (ha : a ∈ all)
    (hname : isName (name a) = true) (hone : ∀ b ∈ all, name b = name a → b = a) :
    (named all name).Recovers a := by
  refine reads_choice_text hname ?_
  cases hfind : all.find? fun b => name b == name a with
  | none =>
    have hmiss := List.find?_eq_none.mp hfind a ha
    simp at hmiss
  | some b =>
    have hb : name b = name a := by simpa using List.find?_some hfind
    rw [hone b (List.mem_of_find?_eq_some hfind) hb]
    rfl

end Json.Form

open Json

-- A value fits if its numbers have 64 bits.

def Position.Fits (p : Position) : Prop := p.x < wordLimit ∧ p.y < wordLimit

def Collapse.Fits (c : Collapse) : Prop := c.position.Fits ∧ c.tile < wordLimit

def Status.Fits (s : Status) : Prop := ∀ p, s = .contradiction p → p.Fits

def Snapshot.Fits (s : Snapshot) : Prop :=
  s.width < wordLimit ∧ s.height < wordLimit ∧ ∀ t, some t ∈ s.cells → t < wordLimit

def Progress.Fits (p : Progress) : Prop :=
  p.resolvedCells < wordLimit ∧ p.totalCells < wordLimit ∧ p.steps < wordLimit

theorem Position.recovers_form {p : Position} (hp : p.Fits) : Position.form.Recovers p := by
  have hx := Form.recovers_natural hp.1
  have hy := Form.recovers_natural hp.2
  exact Form.recovers_map (Form.recovers_two (by decide) (by decide) hx hy) rfl

theorem Direction.recovers_form (d : Direction) : Direction.form.Recovers d :=
  Form.recovers_named (Direction.mem_all d) (by cases d <;> decide) (by cases d <;> decide)

theorem Selection.recovers_form (s : Selection) : Selection.form.Recovers s :=
  Form.recovers_named (by cases s <;> decide) (by cases s <;> decide) (by cases s <;> decide)

theorem Collapse.recovers_form {c : Collapse} (hc : c.Fits) : Collapse.form.Recovers c := by
  have hposition := Position.recovers_form hc.1
  have htile := Form.recovers_natural hc.2
  exact Form.recovers_map (Form.recovers_two (by decide) (by decide) hposition htile) rfl

theorem Status.recovers_form {s : Status} (hs : s.Fits) : Status.form.Recovers s := by
  cases s with
  | inProgress => exact reads_choice_text (by decide) rfl
  | resolved => exact reads_choice_text (by decide) rfl
  | contradiction p =>
    have hcell := Form.recovers_one (j := "at") (by decide) (Position.recovers_form (hs p rfl))
    exact reads_choice_object (by decide) rfl (Reads.map hcell Status.contradiction)

theorem Snapshot.recovers_form {s : Snapshot} (hs : s.Fits) : Snapshot.form.Recovers s := by
  obtain ⟨hwidth, hheight, hcells⟩ := hs
  have htiles : ∀ o ∈ s.cells, (Form.optional TileId.form).Recovers o := by
    intro o ho
    refine Form.recovers_optional ?_ fun t => by simp [TileId.form, Form.natural]
    rintro t rfl
    exact Form.recovers_natural (hcells t ho)
  exact Form.recovers_map (Form.recovers_three (by decide) (by decide)
    (Form.recovers_natural hwidth) (Form.recovers_natural hheight) (Form.recovers_list htiles)) rfl

theorem Progress.recovers_form {p : Progress} (hp : p.Fits) : Progress.form.Recovers p := by
  obtain ⟨hresolved, htotal, hsteps⟩ := hp
  exact Form.recovers_map (Form.recovers_three (by decide) (by decide)
    (Form.recovers_natural hresolved) (Form.recovers_natural htotal)
    (Form.recovers_natural hsteps)) rfl

/-- Every serialised value is read again from its text, and only from its own. -/
theorem forms_faithful :
    Position.form.Faithful Position.Fits ∧
    TileId.form.Faithful (· < wordLimit) ∧
    Direction.form.Faithful (fun _ => True) ∧
    Collapse.form.Faithful Collapse.Fits ∧
    Status.form.Faithful Status.Fits ∧
    Snapshot.form.Faithful Snapshot.Fits ∧
    Selection.form.Faithful (fun _ => True) ∧
    Progress.form.Faithful Progress.Fits :=
  ⟨Form.faithful_of_recovers fun _ => Position.recovers_form,
    Form.faithful_of_recovers fun _ => Form.recovers_natural,
    Form.faithful_of_recovers fun d _ => Direction.recovers_form d,
    Form.faithful_of_recovers fun _ => Collapse.recovers_form,
    Form.faithful_of_recovers fun _ => Status.recovers_form,
    Form.faithful_of_recovers fun _ => Snapshot.recovers_form,
    Form.faithful_of_recovers fun s _ => Selection.recovers_form s,
    Form.faithful_of_recovers fun _ => Progress.recovers_form⟩

/-- The text of a table of one row, with the greatest id and the least next to an open cell. -/
theorem forms_faithful_row :
    Snapshot.form.encode ⟨3, 1, [none, some (wordLimit - 1), some 0]⟩ =
      "\x7b\"width\":3,\"height\":1,\"cells\":[null,18446744073709551615,0]\x7d" ∧
    Snapshot.form.decode
        "\x7b\"width\":3,\"height\":1,\"cells\":[null,18446744073709551615,0]\x7d" =
      .ok ⟨3, 1, [none, some (wordLimit - 1), some 0]⟩ := by
  have htext : Snapshot.form.encode ⟨3, 1, [none, some (wordLimit - 1), some 0]⟩ =
      "\x7b\"width\":3,\"height\":1,\"cells\":[null,18446744073709551615,0]\x7d" := by
    decide +kernel
  have hfits : Snapshot.Fits ⟨3, 1, [none, some (wordLimit - 1), some 0]⟩ := by
    refine ⟨by decide, by decide, fun t ht => ?_⟩
    simp only [List.mem_cons, reduceCtorEq, Option.some.injEq, List.not_mem_nil, or_false,
      false_or] at ht
    rcases ht with rfl | rfl <;> decide
  have hread := forms_faithful.2.2.2.2.2.1.decode_encode _ hfits
  rw [htext] at hread
  exact ⟨htext, hread⟩

end EdgeTiling
