import StateCoverage.Proofs.Import.Contents
import StateCoverage.Proofs.Literal.Evaluation
import StateCoverage.Proofs.Lowering.Expression

/-!
What the table claims of an object literal, against what the literal can hold. Members that bind no
literal key leave no trace in the table, so a property counts as known although such a member behind
it may overwrite it.
-/
namespace StateCoverage
open Bindings

section Lower
variable {source : Source} {t : Syntax} {table : Table}

theorem extract_lower_of_string (h : t.kind = "string") :
    Expr.extract table (t.lower source) = .string (source.stringOf t) := by
  rw [lower_of_string h, Expr.extract]

theorem Entry.literalKey?_lower (e : Entry) :
    (e.lower source).1.literalKey? = e.key? source := by
  cases e <;> rfl

/-- A property of an extracted object is what the last member with its key is worth. -/
theorem valueOf?_extractOnto (k : Text) (cs : List Syntax) (before : Bindings Value) :
    valueOf? k (Expr.extractOnto table before
        ((cs.filterMap Syntax.binds).map (Entry.lower source))) =
      ((source.lastKeyed? k cs).map fun p => Expr.extract table (p.1.lower source).2).or
        (valueOf? k before) := by
  induction cs generalizing before with
  | nil => rfl
  | cons c rest ih =>
    cases hbinds : c.binds with
    | none =>
      rw [List.filterMap_cons_none hbinds, Source.lastKeyed?, hbinds]
      simpa using ih before
    | some e =>
      rw [List.filterMap_cons_some hbinds, List.map_cons, Expr.extractOnto_cons,
        e.literalKey?_lower,
        Source.lastKeyed?, hbinds]
      cases hkey : e.key? source with
      | none => simpa [Option.filter, hkey] using ih before
      | some x =>
        dsimp only
        rw [ih]
        cases source.lastKeyed? k rest with
        | some found => simp
        | none =>
          by_cases hx : x = k
          · simp [Option.filter, hkey, hx, valueOf?_put_self]
          · simp [Option.filter, hkey, hx, valueOf?_put_of_ne (Ne.symm hx)]

/-- What is known of a literal under a chain, one property at a time. -/
theorem get?_extract_lower (h : t.kind = "object") (k : Text) (rest : List Text) :
    (Expr.extract table (t.lower source)).get? (k :: rest) =
      (source.lastKeyed? k t.content).bind fun p =>
        (Expr.extract table (p.1.lower source).2).get? rest := by
  rw [lower_of_object h, Expr.extract, Value.get?, valueOf?_extractOnto]
  cases source.lastKeyed? k t.content <;> rfl

end Lower

/-- On the chain from the literal down to the string `s`, whatever may write a property behind the
last member that binds it by a literal key is a pair that settles on `s` too. -/
def Undisturbed (source : Source) : List Text → Syntax → Text → Prop
  | [], _, _ => True
  | k :: rest, t, s =>
    ∀ key value after, source.lastKeyed? k t.content = some (.pair key value, after) →
      Undisturbed source rest value s ∧
      ∀ d ∈ after, source.mayWrite d k →
        ∃ key' value', d.binds = some (.pair key' value') ∧ Settles source rest value' s

/-- A literal settles on a string where that string is known and nothing disturbs it. -/
theorem settles_iff {source : Source} {t : Syntax} (ht : t.IsLiteral) (table : Table)
    (path : List Text) (s : Text) :
    Settles source path t s ↔
      (Expr.extract table (t.lower source)).get? path = some (.string s) ∧
        Undisturbed source path t s := by
  induction path generalizing t with
  | nil =>
    cases ht with
    | string h => simp [Settles, Undisturbed, Value.get?, extract_lower_of_string h, h]
    | object h => simp [Settles, Undisturbed, Value.get?, lower_of_object h, Expr.extract, h]
  | cons k rest ih =>
    cases ht with
    | string h => simp [Settles, Value.get?, extract_lower_of_string h, h]
    | object h hliteral =>
      rw [get?_extract_lower h, Settles, Undisturbed]
      cases hlast : source.lastKeyed? k t.content with
      | none => simp
      | some found =>
        obtain ⟨e, after⟩ := found
        cases e with
        | shorthand name =>
          simp [Entry.lower, Expr.extract, Value.get?_unresolved_ne]
        | pair key value =>
          obtain ⟨before, c, hcontent, hbinds, -⟩ := lastKeyed?_eq_some hlast
          have hvalue : value.IsLiteral := hliteral c (by simp [hcontent]) key value hbinds
          rw [Option.bind_some]
          constructor
          · rintro ⟨-, key, value, after, heq, hsettles, hafter⟩
            cases heq
            obtain ⟨hknown, hrest⟩ := (ih hvalue).mp hsettles
            refine ⟨hknown, fun key value after heq => ?_⟩
            cases heq
            exact ⟨hrest, hafter⟩
          · rintro ⟨hknown, hundisturbed⟩
            obtain ⟨hrest, hafter⟩ := hundisturbed key value after rfl
            exact ⟨h, key, value, after, rfl, (ih hvalue).mpr ⟨hknown, hrest⟩, hafter⟩

namespace Module
variable {m : Module} {source : Source} {t : Syntax} {x : Text} {before after : List (Text × Expr)}

/-- A chain of accesses to a declared literal is resolved completely to `s`, and nothing on its way
is disturbed, exactly if it holds the string `s` in every run. So no string that is certain is
missed; but one that a spread, a method, or a key that is not literal may overwrite counts as
certain too. -/
theorem literal_chain_known_iff_held (hx : m.definitions = before ++ (x, t.lower source) :: after)
    (hlast : x ∉ after.map Prod.fst) (himported : x ∉ m.pending.map Pending.binding)
    (ht : t.IsLiteral) (access : FileAccess) (options : ImportOptions) (importer : Option Text)
    (session : Session) (path : List Text) (s : Text) :
    ((Expr.accesses (.name x) path).resolve (m.tableWithImports access options importer session).1 =
      .known s ∧
        Undisturbed source path t s) ↔
      ∀ v, Evaluates source t v → v.get? path = some (.string s) := by
  have hbase : Expr.base? (m.tableWithImports access options importer session).1
      (Expr.accesses (.name x) path) =
        (Expr.extract (Table.define before []) (t.lower source)).get? path := by
    rw [Expr.base?_accesses, Expr.base?, tableWithImports_fst, valueOf?_putAll_of_not_mem himported,
      m.valueOf?_declared hx hlast, Option.bind_some]
  rw [Expr.resolve_accesses_eq_known_iff, hbase, ← settles_iff ht]
  exact ⟨fun h v hv => h.get?_of_evaluates hv, settles_of_forall_evaluates ht⟩

end Module

section Nested

def letterAt (start : Nat) (field : String) : Syntax :=
  .node "property_identifier" start (start + 1) (some field) true false []

def literalFile (source : Source) (t : Syntax) : Module :=
  ⟨[.declaration ⟨text "const", [⟨some (text "x"), some (t.lower source)⟩]⟩], text "/a.js", 0⟩

/-- `{ ...rest, a: { b: "p-1" }, c() {} }` -/
def nestedSource : Source :=
  .ofBytes (Utf8.encode "\x7b ...rest, a: \x7b b: \"p-1\" \x7d, c() \x7b\x7d \x7d".toList)

def innerLiteral : Syntax :=
  .node "object" 14 26 (some "value") true false
    [.node "pair" 16 24 none true false
      [letterAt 16 "key", .node "string" 19 24 (some "value") true false []]]

def methodMember : Syntax :=
  .node "method_definition" 28 34 none true false [letterAt 28 "name"]

def nestedLiteral : Syntax :=
  .node "object" 0 36 none true false
    [.node "spread_element" 2 9 none true false [],
      .node "pair" 11 26 none true false [letterAt 11 "key", innerLiteral],
      methodMember]

theorem isLiteral_nestedLiteral : nestedLiteral.IsLiteral := by
  refine .object rfl ?_
  change ∀ c ∈ [_, _, _], _
  simp only [List.forall_mem_cons]
  refine ⟨fun _ _ h => ?_, fun key value h => ?_, fun _ _ h => ?_, List.forall_mem_nil _⟩
  · cases h
  · cases h
    refine .object rfl ?_
    change ∀ c ∈ [_], _
    simp only [List.forall_mem_cons]
    refine ⟨fun key value h => ?_, List.forall_mem_nil _⟩
    cases h
    exact .string rfl
  · cases h

theorem undisturbed_nestedLiteral :
    Undisturbed nestedSource [text "a", text "b"] nestedLiteral (text "p-1") := by
  have hmethod : ¬ nestedSource.mayWrite methodMember (text "a") := by
    intro hmay
    have hname := hmay rfl _ rfl
    have hkey : (nestedSource.keyOf (letterAt 28 "name")).literalKey? = some (text "c") := by
      decide +kernel
    simp only [Source.mayName, hkey] at hname
    exact absurd hname (by decide)
  have houter : nestedSource.lastKeyed? (text "a") nestedLiteral.content =
      some (.pair (letterAt 11 "key") innerLiteral, [methodMember]) := by
    have hnone : ∀ d ∈ [methodMember], ¬ nestedSource.BindsKey (text "a") d := by
      rintro d hd ⟨e, he, -⟩
      obtain rfl := List.mem_singleton.mp hd
      cases he
    exact @lastKeyed?_append _ _ [_] _ _ _ rfl (by decide +kernel) hnone
  have hinner : nestedSource.lastKeyed? (text "b") innerLiteral.content =
      some (.pair (letterAt 16 "key") (.node "string" 19 24 (some "value") true false []), []) :=
    @lastKeyed?_append _ _ [] _ _ _ rfl (by decide +kernel)
      fun d hd => absurd hd List.not_mem_nil
  intro key value after hlast
  cases houter.symm.trans hlast
  refine ⟨fun key value after hlast => ?_, fun d hd hmay => ?_⟩
  · cases hinner.symm.trans hlast
    exact ⟨trivial, fun d hd => absurd hd List.not_mem_nil⟩
  · exact absurd (List.mem_singleton.mp hd ▸ hmay) hmethod

theorem nestedLiteral_chain :
    (Expr.accesses (.name (text "x")) [text "a", text "b"]).resolve
        (literalFile nestedSource nestedLiteral).table = .known (text "p-1") ∧
      ∀ v, Evaluates nestedSource nestedLiteral v →
        v.get? [text "a", text "b"] = some (.string (text "p-1")) := by
  have hresolved : (Expr.accesses (.name (text "x")) [text "a", text "b"]).resolve
      (literalFile nestedSource nestedLiteral).table = .known (text "p-1") := by decide +kernel
  have hdefined : (literalFile nestedSource nestedLiteral).definitions =
      [] ++ (text "x", nestedLiteral.lower nestedSource) :: [] := rfl
  have hiff := Module.literal_chain_known_iff_held hdefined List.not_mem_nil List.not_mem_nil
    isLiteral_nestedLiteral
    .empty {} none {} [text "a", text "b"] (text "p-1")
  exact ⟨hresolved, hiff.mp ⟨hresolved, undisturbed_nestedLiteral⟩⟩

/-- `{ a: "p-1", ...rest }` -/
def spreadSource : Source := .ofBytes (Utf8.encode "\x7b a: \"p-1\", ...rest \x7d".toList)

def spreadLiteral : Syntax :=
  .node "object" 0 21 none true false
    [.node "pair" 2 10 none true false
        [letterAt 2 "key", .node "string" 5 10 (some "value") true false []],
      .node "spread_element" 12 19 none true false []]

/-- The spread may write the property again, and it counts as known all the same. -/
theorem spread_overwrites_known :
    (literalFile spreadSource spreadLiteral).definitions =
        [(text "x", spreadLiteral.lower spreadSource)] ∧
      (literalFile spreadSource spreadLiteral).pending = [] ∧ spreadLiteral.IsLiteral ∧
      (Expr.accesses (.name (text "x")) [text "a"]).resolve
          (literalFile spreadSource spreadLiteral).table =
        .known (text "p-1") ∧
      ∃ v, Evaluates spreadSource spreadLiteral v ∧
        v.get? [text "a"] ≠ some (.string (text "p-1")) := by
  refine ⟨rfl, rfl, ?_, by decide +kernel, ?_⟩
  · refine .object rfl ?_
    change ∀ c ∈ [_, _], _
    simp only [List.forall_mem_cons]
    refine ⟨fun key value h => ?_, fun _ _ h => ?_, List.forall_mem_nil _⟩
    · cases h
      exact .string rfl
    · cases h
  · have hkey : (spreadSource.keyOf (letterAt 2 "key")).literalKey? = some (text "a") := by
      decide +kernel
    have hname : spreadSource.mayName (letterAt 2 "key") (text "a") := by
      simp only [Source.mayName, hkey]
    have hwrites : WritesAll spreadSource spreadLiteral.content
        ([(text "a", _)] ++ ([(text "a", .other)] ++ [])) :=
      .cons (.pair rfl hname (.string rfl)) (.cons (.any _ rfl (by decide)) .nil)
    refine ⟨_, .object rfl hwrites, ?_⟩
    simp [Held.get?, ofPairs, put, valueOf?]

end Nested

end StateCoverage
