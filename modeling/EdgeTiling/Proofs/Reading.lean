import Mathlib.Data.List.Basic
import EdgeTiling.Json.Form

/-! Reading what was written. A scan reads a text as a value if it takes exactly this text off the
front, whatever comes after it that can come after a value. The compact texts of numbers, names,
lists and objects are read as what they were written from, if the texts of their parts are. -/

namespace EdgeTiling

namespace Reader

variable {ε α β : Type} {cs later : List Char}

theorem bind_of_ok {m : Reader ε α} {a : α} (h : m cs = .ok (a, later)) (k : α → Reader ε β) :
    (m >>= k) cs = k a later := by
  simp only [bind, StateT.bind, h]
  rfl

theorem iterate_of_inl {stuck : ε} {step : α → Reader ε (α ⊕ β)} {a a' : α}
    (h : step a cs = .ok (.inl a', later)) (hlt : later.length < cs.length) :
    iterate stuck step a cs = iterate stuck step a' later := by
  rw [iterate, h]
  simp [hlt]

theorem iterate_of_inr {stuck : ε} {step : α → Reader ε (α ⊕ β)} {a : α} {b : β}
    (h : step a cs = .ok (.inr b, later)) : iterate stuck step a cs = .ok (b, later) := by
  rw [iterate, h]

end Reader

namespace Json

open Reader

variable {α β κ : Type} {c : Char} {cs rest text : List Char} {a : α}

/-- What can come after a value: nothing, a comma or a closing bracket. -/
def Stops (rest : List Char) : Prop := ∀ c, rest.head? = some c → c = ',' ∨ c = ']' ∨ c = '}'

/-- The scan takes the text off the front as `a`, whatever comes after it. -/
def Reads (scan : Scan α) (text : List Char) (a : α) : Prop :=
  ∀ rest, Stops rest → scan (text ++ rest) = .ok (a, rest)

def isOpening (c : Char) : Bool := c == 'n' || c == '"' || c == '[' || c == '{' || c.isDigit

def isName (s : String) : Bool := s.toList.all isPlain

theorem stops_cons (hc : c = ',' ∨ c = ']' ∨ c = '}') (cs : List Char) : Stops (c :: cs) := by
  intro d hd
  obtain rfl := Option.some.inj hd
  exact hc

theorem Reads.bind_pure {scan : Scan α} (h : Reads scan text a) (f : α → β) :
    Reads (scan >>= fun a => pure (f a)) text (f a) := by
  intro rest hrest
  rw [bind_of_ok (h rest hrest)]
  rfl

theorem Reads.map {scan : Scan α} (h : Reads scan text a) (f : α → β) :
    Reads (f <$> scan) text (f a) := by
  rw [map_eq_pure_bind]
  exact h.bind_pure f

section Characters

theorem isSpace_of_isOpening (h : isOpening c = true) : isSpace c = false := by
  cases hs : isSpace c with
  | false => rfl
  | true =>
    simp only [isSpace, Bool.or_eq_true, beq_iff_eq] at hs
    rcases hs with ((rfl | rfl) | rfl) | rfl <;> simp [isOpening] at h

theorem peek_cons (c : Char) (cs : List Char) :
    (peek : Scan (Option Char)) (c :: cs) = .ok (some c, c :: cs) := rfl

theorem skip_cons (c : Char) (cs : List Char) : (skip 1 : Scan Unit) (c :: cs) = .ok ((), cs) := rfl

theorem next_cons (hc : isSpace c = false) (cs : List Char) :
    next (c :: cs) = .ok (some c, c :: cs) := by
  have hskip : (skipWhile isSpace : Scan Unit) (c :: cs) = .ok ((), c :: cs) := by
    simp [skipWhile, hc]
  rw [next, bind_of_ok hskip]
  rfl

theorem punctuation_cons (hc : isSpace c = false) (cs : List Char) :
    punctuation c (c :: cs) = .ok ((), cs) := by
  rw [punctuation, bind_of_ok (next_cons hc cs)]
  simp [skip]

theorem expect_append (word cs : List Char) : expect word (word ++ cs) = .ok ((), cs) := by
  induction word with
  | nil => rfl
  | cons c more ih =>
    rw [expect, List.cons_append, bind_of_ok (peek_cons c _)]
    simp only [if_true]
    rw [bind_of_ok (skip_cons c _)]
    exact ih

theorem takeWhile_append {p : Char → Bool} (htext : ∀ c ∈ text, p c = true) (rest : List Char)
    (hrest : ∀ c, rest.head? = some c → p c = false) :
    (takeWhile p : Scan (List Char)) (text ++ rest) = .ok (text, rest) := by
  rw [takeWhile, List.takeWhile_append_of_pos htext, List.dropWhile_append_of_pos htext]
  cases rest with
  | nil => simp
  | cons c cs => simp [hrest c rfl]

end Characters

section Numbers

theorem digitValue?_digitChar {d : Nat} (hd : d < 10) :
    Text.digitValue? 10 d.digitChar = some d := by
  have hall : ∀ d < 10, Text.digitValue? 10 d.digitChar = some d := by decide
  exact hall d hd

theorem significand_toDigits {n : Nat} (hn : n < wordLimit) :
    significand (Nat.toDigits 10 n) = (n, 0) := by
  induction n using Nat.strongRecOn with
  | ind n ih =>
    rw [Nat.toDigits_eq_if (by omega)]
    have hmod : n % 10 < 10 := Nat.mod_lt n (by omega)
    split
    · next h => simp [significand, takeDigit, digitValue?_digitChar h, hn]
    · have hdiv := ih (n / 10) (by omega) (by omega)
      rw [significand] at hdiv ⊢
      rw [List.foldl_append, hdiv]
      have hsplit : n / 10 * 10 + n % 10 = n := by omega
      simp [takeDigit, digitValue?_digitChar hmod, hsplit, hn]

theorem head?_toDigits {n : Nat} (hn : 0 < n) : (Nat.toDigits 10 n).head? ≠ some '0' := by
  induction n using Nat.strongRecOn with
  | ind n ih =>
    rw [Nat.toDigits_eq_if (by omega)]
    split
    · next h =>
      have hall : ∀ d < 10, 0 < d → d.digitChar ≠ '0' := by decide
      simpa using hall n h hn
    · have hpos : Nat.toDigits 10 (n / 10) ≠ [] := List.ne_nil_of_length_pos Nat.length_toDigits_pos
      rw [List.head?_append_of_ne_nil _ hpos]
      exact ih (n / 10) (by omega) (by omega)

theorem numberTail_of_stops (hrest : Stops rest) (n : Nat) :
    numberTail false n 0 rest = .ok (.whole n, rest) := by
  cases rest with
  | nil => rfl
  | cons c cs => rcases hrest c rfl with rfl | rfl | rfl <;> rfl

theorem unsignedNumber_toDigits {n : Nat} (hn : n < wordLimit) (hrest : Stops rest) :
    unsignedNumber false (Nat.toDigits 10 n ++ rest) = .ok (.whole n, rest) := by
  have hdigits : ∀ c ∈ Nat.toDigits 10 n, c.isDigit = true :=
    fun c hc => Nat.isDigit_of_mem_toDigits (by omega) (by omega) hc
  have htake := takeWhile_append hdigits rest fun c hc => by
    rcases hrest c hc with rfl | rfl | rfl <;> rfl
  rw [unsignedNumber, bind_of_ok htake]
  have hvalue := significand_toDigits hn
  -- the only number with a leading zero has no other digit
  rcases Nat.eq_zero_or_pos n with rfl | hpos
  · exact numberTail_of_stops hrest 0
  · have hhead := head?_toDigits hpos
    cases hds : Nat.toDigits 10 n with
    | nil => simp at hds
    | cons d ds =>
      rw [hds] at hhead hvalue
      have hd : d ≠ '0' := by simpa using hhead
      simp only [List.cons.injEq, hd, false_and, imp_self, implies_true, hvalue]
      exact numberTail_of_stops hrest n

theorem exists_toDigits (n : Nat) : ∃ d ds, Nat.toDigits 10 n = d :: ds ∧ d.isDigit = true := by
  obtain ⟨d, ds, hds⟩ := List.exists_cons_of_length_pos (Nat.length_toDigits_pos (b := 10) (n := n))
  have hd : d ∈ Nat.toDigits 10 n := by simp [hds]
  exact ⟨d, ds, hds, Nat.isDigit_of_mem_toDigits (by omega) (by omega) hd⟩

theorem isOpening_of_isDigit (h : c.isDigit = true) : isOpening c = true := by
  simp [isOpening, h]

theorem number_toDigits {n : Nat} (hn : n < wordLimit) (hrest : Stops rest) :
    number (Nat.toDigits 10 n ++ rest) = .ok (.whole n, rest) := by
  have hunsigned := unsignedNumber_toDigits hn hrest
  obtain ⟨d, ds, hds, hd⟩ := exists_toDigits n
  rw [hds, List.cons_append] at hunsigned ⊢
  have hsign : d ≠ '-' := by
    rintro rfl
    contradiction
  rw [number, bind_of_ok (peek_cons d _)]
  simpa [hsign] using hunsigned

theorem reads_natural {n : Nat} (hn : n < wordLimit) : Reads natural (Nat.toDigits 10 n) n := by
  intro rest hrest
  have hnumber := number_toDigits hn hrest
  obtain ⟨d, ds, hds, hd⟩ := exists_toDigits n
  rw [hds, List.cons_append] at hnumber ⊢
  rw [natural, bind_of_ok (next_cons (isSpace_of_isOpening (isOpening_of_isDigit hd)) _)]
  simp only [hd, or_true, if_true]
  rw [bind_of_ok hnumber]
  rfl

end Numbers

section Names

variable {s : String}

theorem escape_of_isPlain (hc : isPlain c = true) : escape c = [c] := by
  have hbound : ¬ c.toNat < 0x20 := by
    simp only [isPlain, Bool.and_eq_true, decide_eq_true_eq] at hc
    omega
  unfold escape
  split
  case h_8 => exact if_neg hbound
  -- the characters that have an escape of their own are not plain
  all_goals contradiction

theorem quoted_append (hs : isName s = true) (cs : List Char) :
    quoted s ++ cs = '"' :: (s.toList ++ '"' :: cs) := by
  have hplain : ∀ c ∈ s.toList, escape c = [c] :=
    fun c hc => escape_of_isPlain (List.all_eq_true.mp hs c hc)
  rw [quoted, List.flatMap_congr hplain]
  simp

theorem stringBody_of_isName (hs : isName s = true) (cs : List Char) :
    stringBody true (s.toList ++ '"' :: cs) = .ok (s, cs) := by
  have htake := takeWhile_append (List.all_eq_true.mp hs) ('"' :: cs) fun c hc => by
    obtain rfl := Option.some.inj hc
    rfl
  apply iterate_of_inr
  rw [bind_of_ok htake, bind_of_ok (peek_cons '"' cs)]
  simp only [List.append_nil, List.reverse_reverse, String.ofList_toList]
  exact bind_of_ok (skip_cons '"' cs) _

theorem string_of_isName (hs : isName s = true) (cs : List Char) :
    string (quoted s ++ cs) = .ok (s, cs) := by
  rw [quoted_append hs, string, bind_of_ok (next_cons rfl _)]
  exact (bind_of_ok (skip_cons '"' _) _).trans (stringBody_of_isName hs cs)

end Names

section Separated

/-- Texts with a comma before each: what follows the first item or member. -/
def further (texts : List (List Char)) : List Char := texts.flatMap (',' :: ·)

theorem further_cons (t : List Char) (texts : List (List Char)) (cs : List Char) :
    further (t :: texts) ++ cs = ',' :: (t ++ (further texts ++ cs)) := by
  simp [further]

theorem stops_further (hc : c = ']' ∨ c = '}') (texts : List (List Char)) (cs : List Char) :
    Stops (further texts ++ c :: cs) := by
  cases texts with
  | nil => exact stops_cons (.inr hc) cs
  | cons t texts =>
    rw [further_cons]
    exact stops_cons (.inl rfl) _

/-- The text of a value starts in a way that no other part of a text does. -/
theorem exists_compact (t : Tree) :
    ∃ c cs, t.compact = c :: cs ∧ isOpening c = true ∧ (c = 'n' → t = .null) := by
  cases t with
  | null => exact ⟨'n', _, rfl, rfl, fun _ => rfl⟩
  | number n =>
    obtain ⟨d, ds, hds, hd⟩ := exists_toDigits n
    refine ⟨d, ds, hds, isOpening_of_isDigit hd, ?_⟩
    rintro rfl
    contradiction
  | text s => exact ⟨'"', _, rfl, rfl, fun h => by contradiction⟩
  | list items => exact ⟨'[', _, rfl, rfl, fun h => by contradiction⟩
  | object members => exact ⟨'{', _, rfl, rfl, fun h => by contradiction⟩

theorem length_compact_pos (t : Tree) : 0 < t.compact.length := by
  obtain ⟨c, cs, ht, -⟩ := exists_compact t
  simp [ht]

end Separated

section Lists

variable {item : Scan α} {t : Tree}

theorem reads_null : Reads (optional item) Tree.null.compact none := by
  intro rest _
  rw [optional, Tree.compact, List.cons_append, bind_of_ok (next_cons rfl _)]
  exact bind_of_ok (expect_append ['n', 'u', 'l', 'l'] rest) _

theorem Reads.optional (h : Reads item t.compact a) (ht : t ≠ .null) :
    Reads (optional item) t.compact (some a) := by
  intro rest hrest
  have hitem := h rest hrest
  obtain ⟨c, cs, hcs, hc, hnull⟩ := exists_compact t
  rw [hcs, List.cons_append] at hitem ⊢
  have hn : c ≠ 'n' := fun hn => ht (hnull hn)
  rw [Json.optional, bind_of_ok (next_cons (isSpace_of_isOpening hc) _)]
  simp only [Option.some.injEq, hn, imp_self]
  exact bind_of_ok hitem _

theorem hasItem_close (first : Bool) (rest : List Char) :
    hasItem first (']' :: rest) = .ok (false, ']' :: rest) := by
  rw [hasItem, bind_of_ok (next_cons rfl rest)]
  rfl

theorem ne_of_isOpening (hc : isOpening c = true) : c ≠ ']' ∧ c ≠ ',' := by
  constructor <;> rintro rfl <;> contradiction

theorem hasItem_first (t : Tree) (rest : List Char) :
    hasItem true (t.compact ++ rest) = .ok (true, t.compact ++ rest) := by
  obtain ⟨c, cs, ht, hc, -⟩ := exists_compact t
  obtain ⟨hclose, hcomma⟩ := ne_of_isOpening hc
  rw [ht, List.cons_append, hasItem, bind_of_ok (next_cons (isSpace_of_isOpening hc) _)]
  -- neither the closing bracket nor a comma
  simp only [if_true]
  rfl

theorem hasItem_further (t : Tree) (rest : List Char) :
    hasItem false (',' :: (t.compact ++ rest)) = .ok (true, t.compact ++ rest) := by
  obtain ⟨c, cs, ht, hc, -⟩ := exists_compact t
  have hclose := (ne_of_isOpening hc).1
  have hnext := next_cons (isSpace_of_isOpening hc) (cs ++ rest)
  rw [hasItem, bind_of_ok (next_cons rfl _)]
  simp only [Bool.false_eq_true, if_false]
  rw [bind_of_ok (skip_cons ',' _), ht, List.cons_append, bind_of_ok hnext]
  simp only
  rfl

theorem nextItem_of_hasItem (out : List α)
    (hmore : hasItem out.isEmpty cs = .ok (true, text ++ rest)) (h : Reads item text a)
    (hrest : Stops rest) :
    nextItem item out cs = .ok (.inl (a :: out), rest) := by
  rw [nextItem, bind_of_ok hmore]
  exact bind_of_ok (h rest hrest) _

theorem nextItem_close (out : List α) (rest : List Char) :
    nextItem item out (']' :: rest) = .ok (.inr out.reverse, rest) := by
  rw [nextItem, bind_of_ok (hasItem_close _ rest)]
  exact bind_of_ok (skip_cons ']' rest) _

theorem compactItems_cons (t : Tree) (ts : List Tree) :
    Tree.compactItems (t :: ts) = t.compact ++ further (ts.map Tree.compact) := by
  induction ts generalizing t with
  | nil => simp [Tree.compactItems, further]
  | cons u us ih => simp [Tree.compactItems, ih, further]

theorem iterate_nextItem {tree : α → Tree} {l : List α}
    (hl : ∀ a ∈ l, Reads item (tree a).compact a) (b : α) (out : List α) (rest : List Char) :
    iterate .malformed (nextItem item) (b :: out)
        (further ((l.map tree).map Tree.compact) ++ ']' :: rest) =
      .ok ((b :: out).reverse ++ l, rest) := by
  induction l generalizing b out with
  | nil =>
    rw [List.append_nil]
    exact iterate_of_inr (nextItem_close _ rest)
  | cons a l ih =>
    rw [List.map_cons, List.map_cons, further_cons]
    have hstep := nextItem_of_hasItem (b :: out) (hasItem_further (tree a) _)
      (hl a (by simp)) (stops_further (.inl rfl) ((l.map tree).map Tree.compact) rest)
    rw [iterate_of_inl hstep (by simp only [List.length_cons, List.length_append]; omega),
      ih fun a ha => hl a (by simp [ha])]
    simp

theorem reads_list {tree : α → Tree} {l : List α} (hl : ∀ a ∈ l, Reads item (tree a).compact a) :
    Reads (list item) (Tree.list (l.map tree)).compact l := by
  intro rest _
  rw [Tree.compact, list, List.cons_append, List.cons_append, bind_of_ok (next_cons rfl _)]
  refine (bind_of_ok (skip_cons '[' _) _).trans ?_
  rw [List.append_assoc, List.singleton_append]
  cases l with
  | nil => exact iterate_of_inr (nextItem_close [] rest)
  | cons a l =>
    rw [List.map_cons, compactItems_cons, List.append_assoc]
    have hstep := nextItem_of_hasItem [] (hasItem_first (tree a) _) (hl a (by simp))
      (stops_further (.inl rfl) ((l.map tree).map Tree.compact) rest)
    have hpos := length_compact_pos (tree a)
    rw [iterate_of_inl hstep (by simp only [List.length_append]; omega)]
    exact iterate_nextItem (fun a ha => hl a (by simp [ha])) a [] rest

end Lists

section Records

variable {member : κ → String → Scan κ} {k k' : κ} {name : String} {ms : List (String × Tree)}

def memberText (m : String × Tree) : List Char := quoted m.1 ++ ':' :: m.2.compact

inductive Collects (member : κ → String → Scan κ) : κ → List (String × Tree) → κ → Prop
  | nil (k : κ) : Collects member k [] k
  | cons (mid : κ) {k k' : κ} {name : String} {t : Tree} {ms : List (String × Tree)}
      (hname : isName name = true) (hread : Reads (member k name) (':' :: t.compact) mid)
      (hmore : Collects member mid ms k') : Collects member k ((name, t) :: ms) k'

theorem compactMembers_cons (m : String × Tree) (ms : List (String × Tree)) :
    Tree.compactMembers (m :: ms) = memberText m ++ further (ms.map memberText) := by
  induction ms generalizing m with
  | nil => simp [Tree.compactMembers, further, memberText]
  | cons u us ih => simp [Tree.compactMembers, ih, further, memberText]

theorem key_close (first : Bool) (rest : List Char) :
    key first ('}' :: rest) = .ok (none, '}' :: rest) := by
  rw [key, bind_of_ok (next_cons rfl rest)]
  rfl

theorem key_first (hname : isName name = true) (rest : List Char) :
    key true (quoted name ++ rest) = .ok (some name, rest) := by
  rw [quoted_append hname, key, bind_of_ok (next_cons rfl _)]
  simp only [if_true]
  rw [bind_of_ok (skip_cons '"' _)]
  exact bind_of_ok (stringBody_of_isName hname rest) _

theorem key_further (hname : isName name = true) (rest : List Char) :
    key false (',' :: (quoted name ++ rest)) = .ok (some name, rest) := by
  rw [quoted_append hname, key, bind_of_ok (next_cons rfl _)]
  simp only [Bool.false_eq_true, if_false]
  rw [bind_of_ok (skip_cons ',' _), bind_of_ok (next_cons rfl _)]
  simp only
  rw [bind_of_ok (skip_cons '"' _)]
  exact bind_of_ok (stringBody_of_isName hname rest) _

theorem nextMember_of_key {first : Bool} (hkey : key first cs = .ok (some name, text ++ rest))
    (h : Reads (member k name) text k') (hrest : Stops rest) :
    nextMember member (first, k) cs = .ok (.inl (false, k'), rest) := by
  rw [nextMember, bind_of_ok hkey]
  exact bind_of_ok (h rest hrest) _

theorem nextMember_close (first : Bool) (k : κ) (rest : List Char) :
    nextMember member (first, k) ('}' :: rest) = .ok (.inr k, rest) := by
  rw [nextMember, bind_of_ok (key_close first rest)]
  exact bind_of_ok (skip_cons '}' rest) _

theorem Collects.iterate_nextMember (h : Collects member k ms k') (rest : List Char) :
    iterate .malformed (nextMember member) (false, k)
      (further (ms.map memberText) ++ '}' :: rest) = .ok (k', rest) := by
  induction h with
  | nil k => exact iterate_of_inr (nextMember_close false k rest)
  | @cons mid k k' name t ms hname hread _ ih =>
    rw [List.map_cons, further_cons, memberText, List.append_assoc]
    have hstep := nextMember_of_key (key_further hname _) hread
      (stops_further (.inr rfl) (ms.map memberText) rest)
    rw [iterate_of_inl hstep (by simp only [List.length_cons, List.length_append]; omega)]
    exact ih

theorem Collects.members_compact (h : Collects member k ms k') (rest : List Char) :
    members k member (Tree.compactMembers ms ++ '}' :: rest) = .ok (k', rest) := by
  cases h with
  | nil => exact iterate_of_inr (nextMember_close true k rest)
  | @cons mid _ _ name t ms hname hread hmore =>
    rw [compactMembers_cons, memberText, List.append_assoc, List.append_assoc]
    have hstep := nextMember_of_key (key_first hname _) hread
      (stops_further (.inr rfl) (ms.map memberText) rest)
    rw [members, iterate_of_inl hstep
      (by simp only [List.length_cons, List.length_append]; omega)]
    exact hmore.iterate_nextMember rest

theorem Collects.reads_record (h : Collects member k ms k') {finish : κ → Option α}
    (hfinish : finish k' = some a) (parts : Scan α) :
    Reads (record k member finish parts) (Tree.object ms).compact a := by
  intro rest _
  rw [Tree.compact, record, List.cons_append, List.cons_append, bind_of_ok (next_cons rfl _)]
  simp only
  rw [bind_of_ok (skip_cons _ _), List.append_assoc, List.singleton_append,
    bind_of_ok (h.members_compact rest), hfinish]
  rfl

theorem Reads.once {value : Scan α} (h : Reads value text a) :
    Reads (once none value) (':' :: text) (some a) := by
  intro rest hrest
  rw [Json.once, List.cons_append]
  simp only [Option.isSome_none, Bool.false_eq_true, if_false]
  rw [bind_of_ok (punctuation_cons rfl _)]
  exact bind_of_ok (h rest hrest) _

end Records

section Choices

variable {find : String → Option (Content α)} {name : String}

theorem reads_choice_text (hname : isName name = true) (hfind : find name = some (.nothing a)) :
    Reads (choice find) (Tree.text name).compact a := by
  intro rest _
  rw [Tree.compact, quoted_append hname, choice, bind_of_ok (next_cons rfl _)]
  simp only
  rw [bind_of_ok (skip_cons '"' _), bind_of_ok (stringBody_of_isName hname rest), hfind]
  rfl

theorem reads_choice_object {value : Scan α} {t : Tree} (hname : isName name = true)
    (hfind : find name = some (.holding value)) (h : Reads value t.compact a) :
    Reads (choice find) (Tree.object [(name, t)]).compact a := by
  intro rest _
  have hvalue := h ('}' :: rest) (stops_cons (.inr (.inr rfl)) rest)
  rw [Tree.compact, Tree.compactMembers, choice, List.cons_append, List.cons_append,
    bind_of_ok (next_cons rfl _)]
  simp only [List.append_assoc, List.cons_append, List.nil_append]
  rw [bind_of_ok (skip_cons _ _), bind_of_ok (string_of_isName hname _), hfind]
  simp only
  rw [bind_of_ok (punctuation_cons rfl _), bind_of_ok hvalue, bind_of_ok (punctuation_cons rfl _)]
  rfl

end Choices

theorem Reads.run_document {value : Scan α} (h : Reads value text a) :
    (document value).run (String.ofList text) = .ok a := by
  have hvalue := h [] fun c hc => by contradiction
  rw [List.append_nil] at hvalue
  rw [Reader.run, String.toList_ofList, document, bind_of_ok hvalue]
  rfl

end Json

end EdgeTiling
