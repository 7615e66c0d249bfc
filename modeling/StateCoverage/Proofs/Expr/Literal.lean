import StateCoverage.Proofs.Expr.Chain
import StateCoverage.Proofs.Expr.Parts

/-!
Chains of accesses into a declared object literal. They find what the literal says, where the last
property with a key counts, and nothing else.
-/
namespace StateCoverage.Expr
open Bindings Resolution

/-- The property that a key stands for, if it is a name or a string. -/
def literalKey? : Expr → Option Text
  | .name x => some x
  | .string x => some x
  | _ => none

/-- The properties of an object literal, under any number of type assertions. -/
def properties? : Expr → Option (List (Expr × Expr))
  | .object properties => some properties
  | .assertion operand => properties? operand
  | _ => none

def keyed (properties : List (Expr × Expr)) : List (Text × Expr) :=
  properties.filterMap fun p => p.1.literalKey?.map (·, p.2)

/-- `v` stands behind the last one of the properties that has this key. -/
def LastProperty (properties : List (Expr × Expr)) (k : Text) (v : Expr) : Prop :=
  ∃ before after, keyed properties = before ++ (k, v) :: after ∧ k ∉ after.map Prod.fst

/-- The chain of keys leads from the first expression to the second: through an object literal at
every key, to the last property with that key. -/
inductive Leads : Expr → List Text → Expr → Prop
  | here (e : Expr) : Leads e [] e
  | down {literal v e : Expr} {properties : List (Expr × Expr)} {k : Text} {rest : List Text} :
      literal.properties? = some properties → LastProperty properties k v → Leads v rest e →
      Leads literal (k :: rest) e

section Extract
variable {table : Table} {e : Expr} {properties : List (Expr × Expr)}

theorem extractOnto_cons (before : Bindings Value) (key value : Expr) (rest : List (Expr × Expr)) :
    extractOnto table before ((key, value) :: rest) =
      match key.literalKey? with
      | some x => extractOnto table (put x (value.extract table) before) rest
      | none => extractOnto table before rest := by
  cases key <;> rw [extractOnto] <;> simp [literalKey?]

/-- Only what a key is as a literal counts, and what its value extracts to. -/
theorem extractOnto_of_forall₂ {properties' : List (Expr × Expr)}
    (h : List.Forall₂ (fun p p' => p.1.literalKey? = p'.1.literalKey? ∧
      p.2.extract table = p'.2.extract table) properties properties')
    (before : Bindings Value) :
    extractOnto table before properties = extractOnto table before properties' := by
  induction h generalizing before with
  | nil => rfl
  | cons hp _ ih =>
    rw [extractOnto_cons, extractOnto_cons, hp.1, hp.2]
    split <;> exact ih _

theorem extractOnto_eq (table : Table) (before : Bindings Value)
    (properties : List (Expr × Expr)) :
    extractOnto table before properties =
      putAll Prod.fst (fun _ p => p.2.extract table) (keyed properties) before := by
  induction properties generalizing before with
  | nil => rfl
  | cons p rest ih =>
    obtain ⟨key, value⟩ := p
    rw [extractOnto_cons]
    cases hk : key.literalKey? with
    | none =>
      have hkeyed : keyed ((key, value) :: rest) = keyed rest := by simp [keyed, hk]
      rw [hkeyed]
      exact ih before
    | some x =>
      have hkeyed : keyed ((key, value) :: rest) = (x, value) :: keyed rest := by
        simp [keyed, hk]
      rw [hkeyed]
      exact ih (put x (value.extract table) before)

theorem extract_of_properties? (h : e.properties? = some properties) :
    e.extract table = .object (extractOnto table [] properties) := by
  induction e with
  | object => rw [extract, ← Option.some.inj h]
  | assertion operand ih =>
    rw [extract]
    exact ih h
  | _ => cases h

theorem exists_properties?_of_extract {values : Bindings Value}
    (h : e.extract table = .object values) : ∃ properties, e.properties? = some properties ∧
      values = extractOnto table [] properties := by
  induction e with
  | object properties =>
    rw [extract] at h
    exact ⟨properties, rfl, (Value.object.inj h).symm⟩
  | assertion operand ih =>
    rw [extract] at h
    exact ih h
  | template quasis substitutions =>
    rw [extract] at h
    split at h
    · cases h
    · cases h
  | _ => simp [extract] at h

/-- The last property with a key counts. -/
theorem valueOf?_extractOnto_nil {k : Text} {w : Value} :
    valueOf? k (extractOnto table [] properties) = some w ↔
      ∃ v, LastProperty properties k v ∧ v.extract table = w := by
  rw [extractOnto_eq]
  constructor
  · intro hw
    by_cases hk : k ∈ (keyed properties).map Prod.fst
    · obtain ⟨before, ⟨k, v⟩, after, heq, rfl, hlast⟩ := exists_last_write hk
      refine ⟨v, ⟨before, after, heq, hlast⟩, ?_⟩
      rw [heq, @valueOf?_putAll_last _ _ Prod.fst _ before after (k, v) hlast] at hw
      exact Option.some.inj hw
    · rw [valueOf?_putAll_of_not_mem hk] at hw
      cases hw
  · intro hex
    obtain ⟨v, ⟨before, after, heq, hlast⟩, rfl⟩ := hex
    rw [heq]
    exact @valueOf?_putAll_last _ _ Prod.fst _ before after (k, v) hlast []

/-- Keys stand in the order in which they first occur. -/
theorem names_extractOnto_nil (table : Table) (properties : List (Expr × Expr)) :
    names (extractOnto table [] properties) = ((keyed properties).map Prod.fst).eraseDups := by
  have hnil : names ([] : Bindings Value) = ([] : List Text).eraseDups := rfl
  rw [extractOnto_eq]
  exact names_putAll hnil

/-- What is known of a literal under a chain of keys is what is known of the expression that the
chain leads to. -/
theorem get?_extract {path : List Text} {w : Value} :
    (e.extract table).get? path = some w ↔ ∃ v, Leads e path v ∧ v.extract table = w := by
  induction path generalizing e with
  | nil =>
    constructor
    · intro h
      exact ⟨e, .here e, Option.some.inj h⟩
    · intro hex
      obtain ⟨v, ⟨⟩, rfl⟩ := hex
      rfl
  | cons k rest ih =>
    constructor
    · intro h
      cases he : e.extract table with
      | object values =>
        obtain ⟨properties, hp, rfl⟩ := exists_properties?_of_extract he
        rw [he, Value.get?] at h
        obtain ⟨value, hvalue, hrest⟩ := Option.bind_eq_some_iff.mp h
        obtain ⟨v, hlast, rfl⟩ := valueOf?_extractOnto_nil.mp hvalue
        obtain ⟨v', hleads, hv'⟩ := ih.mp hrest
        exact ⟨v', .down hp hlast hleads, hv'⟩
      | string s =>
        rw [he] at h
        cases h
      | unresolved =>
        rw [he] at h
        cases h
    · intro hex
      obtain ⟨v', hleads, hv'⟩ := hex
      cases hleads with
      | down hp hlast hrest =>
        have hvalue := (@valueOf?_extractOnto_nil table _ _ _).mpr ⟨_, hlast, rfl⟩
        rw [extract_of_properties? hp, Value.get?, hvalue, Option.bind_some]
        exact ih.mpr ⟨v', hrest, hv'⟩

/-- A binding never holds an object with a key twice. -/
theorem keyedOnce_extract (table : Table) (e : Expr) : (e.extract table).KeyedOnce := by
  induction e with
  | string value =>
    rw [extract]
    exact .string value
  | template quasis substitutions =>
    rw [extract]
    split
    · exact .string _
    · exact .unresolved
  | object properties ih =>
    rw [extract, extractOnto_eq]
    refine .object (nodup_names_putAll List.nodup_nil) (forall_putAll (by simp) ?_)
    intro p hp _
    obtain ⟨⟨key, value⟩, hmem, hkey⟩ := List.mem_filterMap.mp hp
    obtain ⟨x, -, rfl⟩ := Option.map_eq_some_iff.mp hkey
    exact (ih key value hmem).2
  | assertion operand ih =>
    rw [extract]
    exact ih
  | _ =>
    rw [extract]
    · exact .unresolved
    all_goals exact nofun

end Extract

/-- A chain of accesses to a name reads what the name was declared with. It resolves completely, to
`s`, exactly if its keys lead to an expression that is bound to the string `s`, at every key through
an object literal to the last property with that key. In every other case the text is empty, and the
chain as it is written is the only unresolved part. Each object of the declared value comes from a
literal, and has every key of it once, in the order in which the keys first occur. -/
theorem chain_reads_literal {declaredIn table : Table} {x : Text} {e : Expr}
    (hx : valueOf? x table = some (e.extract declaredIn)) (path : List Text) :
    (∀ s, (((accesses (.name x) path).resolve table).isComplete = true ∧
        ((accesses (.name x) path).resolve table).text = s) ↔
      ∃ v, Leads e path v ∧ v.extract declaredIn = .string s) ∧
    ((∀ v s, Leads e path v → v.extract declaredIn ≠ .string s) →
      ((accesses (.name x) path).resolve table).text = [] ∧
      ((accesses (.name x) path).resolve table).unresolved = [Text.join (text ".") (x :: path)]) ∧
    (∀ front values, (e.extract declaredIn).get? front = some (.object values) →
      (names values).Nodup ∧
      ∃ literal properties, Leads e front literal ∧ literal.properties? = some properties ∧
        names values = ((keyed properties).map Prod.fst).eraseDups) ∧
    ∀ front literal properties, Leads e front literal → literal.properties? = some properties →
      ∃ values, (e.extract declaredIn).get? front = some (.object values) := by
  have hresolve : (accesses (.name x) path).resolve table =
      .ofValue (Text.join (text ".") (x :: path)) ((e.extract declaredIn).get? path) := by
    rw [resolve_accesses_name, hx, Option.bind_some, render_accesses]
  refine ⟨fun s => ?_, fun hnone => ?_, fun front values hv => ?_, ?_⟩
  · rw [← eq_known_iff, hresolve, ofValue_eq_known_iff, get?_extract]
  · have hvalue : ∀ s, (e.extract declaredIn).get? path ≠ some (.string s) := by
      intro s hs
      obtain ⟨v, hleads, hv⟩ := get?_extract.mp hs
      exact hnone v s hleads hv
    rw [hresolve, ofValue_of_not_string hvalue]
    exact ⟨rfl, rfl⟩
  · obtain ⟨literal, hleads, hl⟩ := get?_extract.mp hv
    obtain ⟨properties, hp, rfl⟩ := exists_properties?_of_extract hl
    have honce := keyedOnce_extract declaredIn literal
    rw [hl, Value.keyedOnce_object_iff] at honce
    exact ⟨honce.1, literal, properties, hleads, hp, names_extractOnto_nil declaredIn properties⟩
  · intro front literal properties hleads hp
    exact ⟨_, get?_extract.mpr ⟨literal, hleads, extract_of_properties? hp⟩⟩

/-- `{ sm: "p-1", [k]: "p-9", lg: "p-3", "sm": { base: "m-1", base: `m-${unit}` as T } } as
const` -/
def layeredSizes : Expr :=
  .assertion (.object
    [(.name (text "sm"), .string (text "p-1")),
      (.other "computed_property_name" (text "[k]"), .string (text "p-9")),
      (.name (text "lg"), .string (text "p-3")),
      (.string (text "sm"), .object [(.name (text "base"), .string (text "m-1")),
        (.name (text "base"), .assertion (.template [text "m-", []] [.name (text "unit")]))])])

def unitTable : Table := [(text "unit", .string (text "2"))]

def layeredTable : Table := [(text "sizes", layeredSizes.extract unitTable)]

theorem layeredTable_reads :
    valueOf? (text "sizes") layeredTable = some (layeredSizes.extract unitTable) ∧
    Leads layeredSizes [text "sm", text "base"]
      (.assertion (.template [text "m-", []] [.name (text "unit")])) ∧
    ((accesses (.name (text "sizes")) [text "sm", text "base"]).resolve
      layeredTable).isComplete = true ∧
    ((accesses (.name (text "sizes")) [text "sm", text "base"]).resolve
      layeredTable).text = text "m-2" ∧
    -- The last `sm` is an object.
    ((accesses (.name (text "sizes")) [text "sm"]).resolve layeredTable).text = [] ∧
    ((accesses (.name (text "sizes")) [text "sm"]).resolve
      layeredTable).unresolved = [text "sizes.sm"] ∧
    ∃ values, (layeredSizes.extract unitTable).get? [] = some (.object values) ∧
      names values = [text "sm", text "lg"] := by
  have hx : valueOf? (text "sizes") layeredTable = some (layeredSizes.extract unitTable) := rfl
  have hleads : Leads layeredSizes [text "sm", text "base"]
      (.assertion (.template [text "m-", []] [.name (text "unit")])) := by
    refine .down rfl ⟨[(text "sm", _), (text "lg", _)], [], rfl, by simp⟩ ?_
    exact .down rfl ⟨[(text "base", _)], [], rfl, by simp⟩ (.here _)
  have hnone : ∀ v s, Leads layeredSizes [text "sm"] v → v.extract unitTable ≠ .string s := by
    intro v s hl hv
    cases (@get?_extract unitTable _ _ _).mpr ⟨v, hl, hv⟩
  obtain ⟨hread, -, -, hobject⟩ := chain_reads_literal hx [text "sm", text "base"]
  obtain ⟨-, hunread, hnames, -⟩ := chain_reads_literal hx [text "sm"]
  obtain ⟨hcomplete, htext⟩ := (hread (text "m-2")).mpr ⟨_, hleads, rfl⟩
  obtain ⟨values, hvalues⟩ := hobject [] layeredSizes _ (.here _) rfl
  obtain ⟨-, literal, properties, ⟨⟩, hp, hkeys⟩ := hnames [] values hvalues
  cases hp
  exact ⟨hx, hleads, hcomplete, htext, (hunread hnone).1, (hunread hnone).2, values, hvalues,
    hkeys.trans (by decide)⟩

end StateCoverage.Expr
