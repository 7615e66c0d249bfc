import StateCoverage.Lowering.Expression
import StateCoverage.Proofs.Expr.Literal

/-!
What an object literal can hold while the program runs. Its members are applied in source order and
the last write of a property counts; what a spread, a method or a computed key writes is left open.
Names are compared as they are written, and `__proto__` is a property like any other.
-/
namespace StateCoverage
open Bindings

/-- What a binding holds while the program runs. -/
inductive Held where
  | string (s : Text)
  | object (properties : List (Text × Held))
  /-- Anything else, such as a number or a function. -/
  | other

/-- What is held under a chain of properties. -/
def Held.get? : List Text → Held → Option Held
  | [], v => some v
  | k :: rest, .object properties => (valueOf? k properties).bind (get? rest)
  | _ :: _, _ => none

theorem Held.get?_other_ne (path : List Text) (s : Text) :
    Held.other.get? path ≠ some (.string s) := by
  cases path <;> simp [get?]

/-- The property that a member binds by a literal key. -/
def Entry.key? (source : Source) : Entry → Option Text
  | .pair key _ => (source.keyOf key).literalKey?
  | .shorthand name => some (source.textOf name)

/-- Names of numbers: they start with a digit, but for the one that is too great. -/
def isNumeral (k : Text) : Prop :=
  k = text "Infinity" ∨ ∃ d ∈ text "0123456789", k.head? = some d

namespace Source
variable (source : Source)

/-- May a key stand for the property `k`? A number may be any number, and a computed key
anything. -/
def mayName (key : Syntax) (k : Text) : Prop :=
  match (source.keyOf key).literalKey? with
  | some name => k = name
  | none => key.kind = "number" → isNumeral k

/-- May a member of an object literal write the property `k`? A spread may write any. -/
def mayWrite (c : Syntax) (k : Text) : Prop :=
  match c.binds with
  | some (.pair key _) => source.mayName key k
  | some (.shorthand name) => k = source.textOf name
  | none =>
    c.kind = "method_definition" → ∀ name, c.field? "name" = some name → source.mayName name k

end Source

mutual

/-- In some run the literal evaluates to this. -/
inductive Evaluates (source : Source) : Syntax → Held → Prop
  | string {t : Syntax} (h : t.kind = "string") : Evaluates source t (.string (source.stringOf t))
  | object {t : Syntax} {writes : List (Text × Held)} (h : t.kind = "object")
      (hwrites : WritesAll source t.content writes) :
      Evaluates source t (.object (ofPairs writes))

/-- In some run a member of an object literal writes these properties. -/
inductive Writes (source : Source) : Syntax → List (Text × Held) → Prop
  | pair {c key value : Syntax} {k : Text} {v : Held} (h : c.binds = some (.pair key value))
      (hk : source.mayName key k) (hv : Evaluates source value v) : Writes source c [(k, v)]
  | shorthand {c name : Syntax} (v : Held) (h : c.binds = some (.shorthand name)) :
      Writes source c [(source.textOf name, v)]
  | method {c : Syntax} {k : Text} (v : Held) (h : c.binds = none)
      (hkind : c.kind = "method_definition") (hk : source.mayWrite c k) : Writes source c [(k, v)]
  /-- Spreads write whatever they hold. -/
  | any {c : Syntax} (writes : List (Text × Held)) (h : c.binds = none)
      (hkind : c.kind ≠ "method_definition") : Writes source c writes

/-- In some run the members of an object literal write these properties, one after the other. -/
inductive WritesAll (source : Source) : List Syntax → List (Text × Held) → Prop
  | nil : WritesAll source [] []
  | cons {c : Syntax} {rest : List Syntax} {first more : List (Text × Held)}
      (h : Writes source c first) (hrest : WritesAll source rest more) :
      WritesAll source (c :: rest) (first ++ more)

end

/-- String literals, and object literals whose pairs hold such literals again. -/
inductive Syntax.IsLiteral : Syntax → Prop
  | string {t : Syntax} (h : t.kind = "string") : IsLiteral t
  | object {t : Syntax} (h : t.kind = "object")
      (hvalues : ∀ c ∈ t.content, ∀ key value, c.binds = some (.pair key value) → IsLiteral value) :
      IsLiteral t

section Writes
variable {source : Source} {c t : Syntax} {cs ds : List Syntax} {k : Text} {v : Held}
  {writes : List (Text × Held)}

theorem Writes.mayWrite (h : Writes source c writes) (hk : (k, v) ∈ writes) :
    source.mayWrite c k := by
  cases h with
  | pair h hname hv =>
    obtain ⟨rfl, -⟩ := Prod.mk.inj (List.mem_singleton.mp hk)
    simpa only [Source.mayWrite, h] using hname
  | shorthand v h =>
    obtain ⟨rfl, -⟩ := Prod.mk.inj (List.mem_singleton.mp hk)
    simp only [Source.mayWrite, h]
  | method v h hkind hwrite =>
    obtain ⟨rfl, -⟩ := Prod.mk.inj (List.mem_singleton.mp hk)
    exact hwrite
  | any writes h hkind =>
    simp only [Source.mayWrite, h]
    intro hmethod
    exact absurd hmethod hkind

/-- What is no pair may write anything where it may write at all. -/
theorem writes_of_not_pair (hpair : ∀ key value, c.binds ≠ some (.pair key value))
    (hk : source.mayWrite c k) (v : Held) : Writes source c [(k, v)] := by
  cases hbinds : c.binds with
  | none =>
    by_cases hkind : c.kind = "method_definition"
    · exact .method v hbinds hkind hk
    · exact .any _ hbinds hkind
  | some e =>
    cases e with
    | pair key value => exact absurd hbinds (hpair key value)
    | shorthand name =>
      simp only [Source.mayWrite, hbinds] at hk
      exact hk ▸ .shorthand v hbinds

theorem writesAll_append :
    WritesAll source (cs ++ ds) writes ↔
      ∃ first more, writes = first ++ more ∧ WritesAll source cs first ∧
        WritesAll source ds more := by
  constructor
  · intro h
    induction cs generalizing writes with
    | nil => exact ⟨[], writes, rfl, .nil, h⟩
    | cons c rest ih =>
      cases h with
      | @cons _ _ one others h hrest =>
        obtain ⟨first, more, rfl, hfirst, hmore⟩ := ih hrest
        exact ⟨one ++ first, more, (List.append_assoc ..).symm, .cons h hfirst, hmore⟩
  · rintro ⟨first, more, rfl, hfirst, hmore⟩
    induction cs generalizing first with
    | nil =>
      cases hfirst
      exact hmore
    | cons c rest ih =>
      cases hfirst with
      | @cons _ _ one others h hrest => exact (List.append_assoc ..) ▸ .cons h (ih _ hrest)

theorem WritesAll.exists_member (h : WritesAll source cs writes) (hk : (k, v) ∈ writes) :
    ∃ c ∈ cs, ∃ own, Writes source c own ∧ (k, v) ∈ own := by
  induction cs generalizing writes with
  | nil =>
    cases h
    cases hk
  | cons c rest ih =>
    cases h with
    | cons h hrest =>
      obtain hk | hk := List.mem_append.mp hk
      · exact ⟨c, List.mem_cons_self, _, h, hk⟩
      · obtain ⟨d, hd, hown⟩ := ih hrest hk
        exact ⟨d, List.mem_cons_of_mem _ hd, hown⟩

/-- What holds of one choice for every member holds of a choice for all. -/
theorem exists_writesAll {p : Text × Held → Prop}
    (h : ∀ c ∈ cs, ∃ own, Writes source c own ∧ ∀ w ∈ own, p w) :
    ∃ writes, WritesAll source cs writes ∧ ∀ w ∈ writes, p w := by
  induction cs with
  | nil => exact ⟨[], .nil, fun w hw => absurd hw List.not_mem_nil⟩
  | cons c rest ih =>
    obtain ⟨own, hown, hp⟩ := h c List.mem_cons_self
    obtain ⟨more, hmore, hq⟩ := ih fun d hd => h d (List.mem_cons_of_mem _ hd)
    refine ⟨own ++ more, .cons hown hmore, fun w hw => ?_⟩
    exact (List.mem_append.mp hw).elim (hp w) (hq w)

end Writes

section Literal
variable {source : Source} {c t : Syntax}

/-- A key that is not literal may stand for more than one property. -/
theorem exists_mayName_ne {key : Syntax} (h : (source.keyOf key).literalKey? = none) (k : Text) :
    ∃ k', k' ≠ k ∧ source.mayName key k' := by
  simp only [Source.mayName, h]
  by_cases hk : k = text "Infinity"
  · subst hk
    exact ⟨text "0", by decide, fun _ => .inr ⟨.scalar '0', by decide, rfl⟩⟩
  · exact ⟨text "Infinity", Ne.symm hk, fun _ => .inl rfl⟩

theorem exists_mayName (source : Source) (key : Syntax) : ∃ k, source.mayName key k := by
  cases h : (source.keyOf key).literalKey? with
  | none =>
    obtain ⟨k, -, hk⟩ := exists_mayName_ne h []
    exact ⟨k, hk⟩
  | some name => exact ⟨name, by simp only [Source.mayName, h]⟩

theorem exists_mayWrite (source : Source) (c : Syntax) : ∃ k, source.mayWrite c k := by
  unfold Source.mayWrite
  cases c.binds with
  | none =>
    cases hname : c.field? "name" with
    | none => exact ⟨[], fun _ name h => nomatch h⟩
    | some name =>
      obtain ⟨k, hk⟩ := exists_mayName source name
      exact ⟨k, fun _ name' h => Option.some.inj h ▸ hk⟩
  | some e =>
    cases e with
    | pair key value => exact exists_mayName source key
    | shorthand name => exact ⟨_, rfl⟩

/-- A member writes each property that it may write, if its value evaluates at all. -/
theorem exists_writes_of_mayWrite
    (hvalues : ∀ key value, c.binds = some (.pair key value) → ∃ v, Evaluates source value v)
    {k : Text} (hk : source.mayWrite c k) : ∃ v, Writes source c [(k, v)] := by
  by_cases hpair : ∃ key value, c.binds = some (.pair key value)
  · obtain ⟨key, value, hbinds⟩ := hpair
    obtain ⟨v, hv⟩ := hvalues key value hbinds
    simp only [Source.mayWrite, hbinds] at hk
    exact ⟨v, .pair hbinds hk hv⟩
  · exact ⟨.other, writes_of_not_pair (fun key value h => hpair ⟨key, value, h⟩) hk .other⟩

/-- Every literal evaluates to something. -/
theorem Syntax.IsLiteral.exists_evaluates (h : t.IsLiteral) (source : Source) :
    ∃ v, Evaluates source t v := by
  induction h with
  | string h => exact ⟨_, .string h⟩
  | @object t h hvalues ih =>
    have hmember : ∀ c ∈ t.content, ∃ own, Writes source c own ∧ ∀ w ∈ own, True := by
      intro c hc
      obtain ⟨k, hk⟩ := exists_mayWrite source c
      obtain ⟨v, hwrites⟩ := exists_writes_of_mayWrite (ih c hc) hk
      exact ⟨_, hwrites, fun _ _ => trivial⟩
    obtain ⟨writes, hwrites, -⟩ := exists_writesAll hmember
    exact ⟨_, .object h hwrites⟩

end Literal

section LastEntry
variable (source : Source) (k : Text)

/-- The last member that binds `k` by a literal key, with the members behind it. -/
def Source.lastKeyed? : List Syntax → Option (Entry × List Syntax)
  | [] => none
  | c :: rest =>
    (lastKeyed? rest).or ((c.binds.filter fun e => e.key? source = some k).map (·, rest))

/-- Does the member bind `k` by a literal key? -/
def Source.BindsKey (c : Syntax) : Prop := ∃ e, c.binds = some e ∧ e.key? source = some k

variable {source k}

theorem lastKeyed?_cons_of_bindsKey {c : Syntax} {rest : List Syntax} {e : Entry}
    (hrest : source.lastKeyed? k rest = none) (he : c.binds = some e)
    (hkey : e.key? source = some k) : source.lastKeyed? k (c :: rest) = some (e, rest) := by
  simp [Source.lastKeyed?, hrest, he, Option.filter, hkey]

theorem lastKeyed?_cons_of_not_bindsKey {c : Syntax} (h : ¬ source.BindsKey k c)
    (rest : List Syntax) : source.lastKeyed? k (c :: rest) = source.lastKeyed? k rest := by
  have hnone : (c.binds.filter fun e => e.key? source = some k) = none := by
    rw [Option.filter_eq_none_iff]
    intro e he hkey
    exact h ⟨e, he, of_decide_eq_true hkey⟩
  simp [Source.lastKeyed?, hnone]

theorem lastKeyed?_eq_none {cs : List Syntax} (h : ∀ c ∈ cs, ¬ source.BindsKey k c) :
    source.lastKeyed? k cs = none := by
  induction cs with
  | nil => rfl
  | cons c rest ih =>
    rw [lastKeyed?_cons_of_not_bindsKey (h c List.mem_cons_self)]
    exact ih fun d hd => h d (List.mem_cons_of_mem _ hd)

theorem lastKeyed?_append {before after : List Syntax} {c : Syntax} {e : Entry}
    (he : c.binds = some e) (hkey : e.key? source = some k)
    (h : ∀ d ∈ after, ¬ source.BindsKey k d) :
    source.lastKeyed? k (before ++ c :: after) = some (e, after) := by
  induction before with
  | nil => exact lastKeyed?_cons_of_bindsKey (lastKeyed?_eq_none h) he hkey
  | cons d rest ih => rw [List.cons_append, Source.lastKeyed?, ih, Option.some_or]

theorem lastKeyed?_eq_some {cs after : List Syntax} {e : Entry}
    (h : source.lastKeyed? k cs = some (e, after)) :
    ∃ before c, cs = before ++ c :: after ∧ c.binds = some e ∧ e.key? source = some k := by
  induction cs with
  | nil => cases h
  | cons c rest ih =>
    rw [Source.lastKeyed?, Option.or_eq_some_iff] at h
    obtain h | ⟨-, h⟩ := h
    · obtain ⟨before, d, rfl, hd⟩ := ih h
      exact ⟨c :: before, d, rfl, hd⟩
    · obtain ⟨e', he', heq⟩ := Option.map_eq_some_iff.mp h
      obtain ⟨rfl, rfl⟩ := Prod.mk.inj heq
      obtain ⟨hbinds, hkey⟩ := Option.filter_eq_some_iff.mp he'
      exact ⟨[], c, rfl, hbinds, of_decide_eq_true hkey⟩

end LastEntry

/-- The string `s` stands under the chain whatever the run. On the way the last member that binds a
property by a literal key is a pair, and behind it whatever may write the property as well is a
pair with the same string. -/
def Settles (source : Source) : List Text → Syntax → Text → Prop
  | [], t, s => t.kind = "string" ∧ source.stringOf t = s
  | k :: rest, t, s =>
    t.kind = "object" ∧ ∃ key value after,
      source.lastKeyed? k t.content = some (.pair key value, after) ∧ Settles source rest value s ∧
      ∀ d ∈ after, source.mayWrite d k →
        ∃ key' value', d.binds = some (.pair key' value') ∧ Settles source rest value' s

section Settles
variable {source : Source} {c t : Syntax} {k s : Text} {path : List Text} {v : Held}
  {writes : List (Text × Held)}

/-- The last write of a property is among the last writes. -/
theorem exists_valueOf?_ofPairs {more : List (Text × Held)} (h : k ∈ more.map Prod.fst)
    (first : List (Text × Held)) :
    ∃ v, (k, v) ∈ more ∧ valueOf? k (ofPairs (first ++ more)) = some v := by
  obtain ⟨before, ⟨k', v⟩, after, rfl, rfl, hafter⟩ := exists_last_write h
  refine ⟨v, by simp, ?_⟩
  rw [← List.append_assoc]
  exact @valueOf?_putAll_last _ _ Prod.fst (fun _ p => p.2) (first ++ before) after (k', v)
    hafter []

theorem Writes.evaluates (h : Writes source c writes) {key value : Syntax}
    (hbinds : c.binds = some (.pair key value)) (hv : (k, v) ∈ writes) :
    Evaluates source value v := by
  cases h with
  | pair h hk hvalue =>
    obtain ⟨-, rfl⟩ := Entry.pair.inj (Option.some.inj (h.symm.trans hbinds))
    obtain ⟨-, rfl⟩ := Prod.mk.inj (List.mem_singleton.mp hv)
    exact hvalue
  | shorthand v h => exact nomatch h.symm.trans hbinds
  | method v h => exact nomatch h.symm.trans hbinds
  | any writes h => exact nomatch h.symm.trans hbinds

/-- A member with a literal key does write it. -/
theorem Writes.mem_of_key? (h : Writes source c writes) {e : Entry} (he : c.binds = some e)
    (hkey : e.key? source = some k) : k ∈ writes.map Prod.fst := by
  cases h with
  | pair h hk hvalue =>
    obtain rfl := Option.some.inj (h.symm.trans he)
    rw [Entry.key?] at hkey
    simp only [Source.mayName, hkey] at hk
    exact List.mem_singleton.mpr hk.symm
  | shorthand v h =>
    obtain rfl := Option.some.inj (h.symm.trans he)
    exact List.mem_singleton.mpr (Option.some.inj hkey).symm
  | method v h => exact nomatch h.symm.trans he
  | any writes h => exact nomatch h.symm.trans he

theorem Settles.get?_of_evaluates (h : Settles source path t s) (hv : Evaluates source t v) :
    v.get? path = some (.string s) := by
  induction path generalizing t v with
  | nil =>
    obtain ⟨hkind, rfl⟩ := h
    cases hv with
    | string => rfl
    | object hobject => exact absurd (hkind.symm.trans hobject) (by decide)
  | cons k rest ih =>
    obtain ⟨hkind, key, value, after, hlast, hvalue, hafter⟩ := h
    cases hv with
    | string hstring => exact absurd (hkind.symm.trans hstring) (by decide)
    | object _ hwrites =>
      obtain ⟨before, c, hcontent, hbinds, hkey⟩ := lastKeyed?_eq_some hlast
      rw [hcontent, writesAll_append] at hwrites
      obtain ⟨first, more, rfl, -, hmore⟩ := hwrites
      cases hmore with
      | @cons _ _ own others hown hothers =>
        have hmem : k ∈ (own ++ others).map Prod.fst := by
          rw [List.map_append]
          exact List.mem_append_left _ (hown.mem_of_key? hbinds hkey)
        obtain ⟨v, hv, hlookup⟩ := exists_valueOf?_ofPairs hmem first
        rw [Held.get?, hlookup, Option.bind_some]
        obtain hv | hv := List.mem_append.mp hv
        · exact ih hvalue (hown.evaluates hbinds hv)
        · obtain ⟨d, hd, own', hown', hv⟩ := hothers.exists_member hv
          obtain ⟨key', value', hbinds', hvalue'⟩ := hafter d hd (hown'.mayWrite hv)
          exact ih hvalue' (hown'.evaluates hbinds' hv)

/-- In some run the member does not write `k`. -/
def Skips (source : Source) (k : Text) (c : Syntax) : Prop :=
  ∃ own, Writes source c own ∧ ∀ w ∈ own, w.1 ≠ k

theorem Skips.not_bindsKey (h : Skips source k c) : ¬ source.BindsKey k c := by
  rintro ⟨e, he, hkey⟩
  obtain ⟨own, hown, hskip⟩ := h
  obtain ⟨w, hw, hk⟩ := List.mem_map.mp (hown.mem_of_key? he hkey)
  exact hskip w hw hk

/-- A member that writes `k` in every run binds it by a literal key, or binds nothing. -/
theorem mayWrite_of_not_skips
    (hvalues : ∀ key value, c.binds = some (.pair key value) → ∃ v, Evaluates source value v)
    (h : ¬ Skips source k c) :
    source.mayWrite c k ∧ ∀ e, c.binds = some e → e.key? source = some k := by
  have honly : ∀ k', source.mayWrite c k' → k' = k := by
    intro k' hk'
    by_contra hne
    obtain ⟨v, hv⟩ := exists_writes_of_mayWrite hvalues hk'
    exact h ⟨_, hv, fun w hw => List.mem_singleton.mp hw ▸ hne⟩
  obtain ⟨k', hk'⟩ := exists_mayWrite source c
  refine ⟨honly k' hk' ▸ hk', fun e he => ?_⟩
  cases e with
  | pair key value =>
    cases hliteral : (source.keyOf key).literalKey? with
    | none =>
      obtain ⟨other, hne, hother⟩ := exists_mayName_ne hliteral k
      exact absurd (honly other (by simpa only [Source.mayWrite, he] using hother)) hne
    | some name =>
      obtain rfl : name = k := honly name
          (by simp only [Source.mayWrite, he, Source.mayName, hliteral])
      exact hliteral
  | shorthand name =>
    obtain rfl : source.textOf name = k := honly _ (by simp only [Source.mayWrite, he])
    rfl

/-- If the members behind one skip a property, what this one writes is held. -/
theorem exists_evaluates_of_writes {before after : List Syntax}
    (ht : t.kind = "object") (hcontent : t.content = before ++ c :: after)
    (hvalues : ∀ d ∈ t.content, ∀ key value, d.binds = some (.pair key value) →
      ∃ v, Evaluates source value v)
    (hskip : ∀ d ∈ after, Skips source k d) (hwrites : Writes source c [(k, v)]) :
    ∃ properties, Evaluates source t (.object properties) ∧ valueOf? k properties = some v := by
  have hbefore : ∀ d ∈ before, ∃ own, Writes source d own ∧ ∀ w ∈ own, True := by
    intro d hd
    obtain ⟨k', hk'⟩ := exists_mayWrite source d
    obtain ⟨v', hv'⟩ := exists_writes_of_mayWrite (hvalues d (by simp [hcontent, hd])) hk'
    exact ⟨_, hv', fun _ _ => trivial⟩
  obtain ⟨first, hfirst, -⟩ := exists_writesAll hbefore
  obtain ⟨more, hmore, hnone⟩ := exists_writesAll hskip
  have hall : WritesAll source t.content (first ++ (k, v) :: more) :=
    hcontent ▸ writesAll_append.mpr ⟨_, _, rfl, hfirst, .cons hwrites hmore⟩
  refine ⟨_, .object ht hall, ?_⟩
  have hlast : k ∉ more.map Prod.fst := by
    intro hmem
    obtain ⟨w, hw, hk⟩ := List.mem_map.mp hmem
    exact hnone w hw hk
  exact @valueOf?_putAll_last _ _ Prod.fst (fun _ p => p.2) first more (k, v) hlast []

section Held
variable (h : ∀ v, Evaluates source t v → v.get? (k :: path) = some (.string s))
  (ht : t.kind = "object")

include h ht

/-- What is written last is what the chain goes on from. -/
theorem get?_of_writes_last {before after : List Syntax}
    (hcontent : t.content = before ++ c :: after)
    (hvalues : ∀ d ∈ t.content, ∀ key value, d.binds = some (.pair key value) →
      ∃ v, Evaluates source value v)
    (hskip : ∀ d ∈ after, Skips source k d) (hwrites : Writes source c [(k, v)]) :
    v.get? path = some (.string s) := by
  obtain ⟨properties, hv, hlookup⟩ := exists_evaluates_of_writes ht hcontent hvalues hskip hwrites
  have hget := h _ hv
  rwa [Held.get?, hlookup, Option.bind_some] at hget

/-- A property that is held in every run is not skipped by all members. -/
theorem exists_not_skips : ∃ c ∈ t.content, ¬ Skips source k c := by
  by_contra hall
  push Not at hall
  obtain ⟨writes, hwrites, hnone⟩ := exists_writesAll hall
  have hlookup : valueOf? k (ofPairs writes) = none := by
    refine (valueOf?_putAll_of_not_mem (fun hmem => ?_) []).trans rfl
    obtain ⟨w, hw, hk⟩ := List.mem_map.mp hmem
    exact hnone w hw hk
  have hget := h _ (.object ht hwrites)
  rw [Held.get?, hlookup] at hget
  cases hget

end Held

theorem settles_of_forall_evaluates (ht : t.IsLiteral)
    (h : ∀ v, Evaluates source t v → v.get? path = some (.string s)) : Settles source path t s := by
  induction path generalizing t with
  | nil =>
    obtain ⟨v, hv⟩ := ht.exists_evaluates source
    obtain rfl : v = .string s := Option.some.inj (h v hv)
    cases hv with
    | string hkind => exact ⟨hkind, rfl⟩
  | cons k rest ih =>
    cases ht with
    | string hkind => exact nomatch h _ (.string hkind)
    | object hkind hliteral =>
      have hvalues : ∀ d ∈ t.content, ∀ key value, d.binds = some (.pair key value) →
          ∃ v, Evaluates source value v :=
        fun d hd key value hbinds => (hliteral d hd key value hbinds).exists_evaluates source
      -- What a member may write last is held in some run, so it is a pair and settles the rest.
      have hpair : ∀ before c after, t.content = before ++ c :: after →
          (∀ d ∈ after, Skips source k d) → source.mayWrite c k →
          ∃ key value, c.binds = some (.pair key value) ∧ Settles source rest value s := by
        intro before c after hcontent hskip hk
        have hheld : ∀ v, Writes source c [(k, v)] → v.get? rest = some (.string s) :=
          fun v => get?_of_writes_last h hkind hcontent hvalues hskip
        by_cases hbinds : ∃ key value, c.binds = some (.pair key value)
        · obtain ⟨key, value, hbinds⟩ := hbinds
          refine ⟨key, value, hbinds, ih (hliteral c (by simp [hcontent]) key value hbinds) ?_⟩
          intro v hv
          simp only [Source.mayWrite, hbinds] at hk
          exact hheld v (.pair hbinds hk hv)
        · have hother := writes_of_not_pair (fun key value he => hbinds ⟨key, value, he⟩) hk .other
          exact absurd (hheld .other hother) (Held.get?_other_ne rest s)
      obtain ⟨before, c, after, hcontent, hc, hafter⟩ :=
        exists_last_of_mem (exists_not_skips h hkind)
      have hskip : ∀ d ∈ after, Skips source k d := fun d hd => not_not.mp (hafter d hd)
      obtain ⟨hk, hkey⟩ := mayWrite_of_not_skips (hvalues c (by simp [hcontent])) hc
      obtain ⟨key, value, hbinds, hsettles⟩ := hpair before c after hcontent hskip hk
      refine ⟨hkind, key, value, after, ?_, hsettles, fun d hd hmay => ?_⟩
      · rw [hcontent]
        exact lastKeyed?_append hbinds (hkey _ hbinds) fun d hd => (hskip d hd).not_bindsKey
      · obtain ⟨between, behind, rfl⟩ := List.append_of_mem hd
        refine hpair (before ++ c :: between) d behind (by simp [hcontent]) (fun e he => ?_) hmay
        exact hskip e (by simp [he])

end Settles

end StateCoverage
