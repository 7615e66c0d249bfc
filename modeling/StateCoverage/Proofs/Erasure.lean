import StateCoverage.Proofs.Expr.Extraction
import StateCoverage.Proofs.Expr.Literal
import StateCoverage.Proofs.Import.Contents

/-!
Type assertions carry no information: without them a file has the same table, and an expression
resolves to the same text. An assertion that stands where a name is expected does count, for what it
wraps is no name there.
-/
namespace StateCoverage
open Bindings

namespace Expr
open Resolution

def isAssertion : Expr → Bool
  | assertion _ => true
  | _ => false

/-- What takes the place of `e` when its inside is `erased`: an assertion around it may stay. -/
def rewrap (stays : Bool) (e erased : Expr) : Expr :=
  if stays && e.isAssertion then .assertion erased else erased

section Erase
variable (keepNamed : Bool)

mutual

/-- The expression without its type assertions. One that is itself what is called stays, and with
`keepNamed` one that is itself the property behind a dot or the key of a property. -/
def erase : Expr → Expr
  | string value => string value
  | template quasis substitutions => template quasis (eraseAll substitutions)
  | name x => name x
  | member target property => member (erase target) (rewrap keepNamed property (erase property))
  | index target key => index (erase target) (erase key)
  | conditional test consequent alternate =>
    conditional (erase test) (erase consequent) (erase alternate)
  | call callee arguments => call (rewrap true callee (erase callee)) (eraseAll arguments)
  | object properties => object (eraseEntries properties)
  | assertion operand => erase operand
  | other kind source => other kind source

def eraseAll : List Expr → List Expr
  | [] => []
  | first :: rest => erase first :: eraseAll rest

def eraseEntries : List (Expr × Expr) → List (Expr × Expr)
  | [] => []
  | (key, value) :: rest =>
    (rewrap keepNamed key (erase key), erase value) :: eraseEntries rest

end

theorem eraseAll_eq_map (list : List Expr) :
    eraseAll keepNamed list = list.map (erase keepNamed) := by
  induction list with
  | nil => simp [eraseAll]
  | cons first rest ih => simp [eraseAll, ih]

theorem eraseEntries_eq_map (list : List (Expr × Expr)) :
    eraseEntries keepNamed list = list.map fun p =>
      (rewrap keepNamed p.1 (erase keepNamed p.1), erase keepNamed p.2) := by
  induction list with
  | nil => simp [eraseEntries]
  | cons first rest ih => simp [eraseEntries, ih]

end Erase

/-- Where assertions around names stay, a name is the same as before, and nothing else becomes
one. -/
theorem rewrap_eq_or (e : Expr) : rewrap true e (erase true e) = e ∨
    ((rewrap true e (erase true e)).isName = false ∧ e.isName = false) := by
  cases e with
  | name x => exact .inl rfl
  | _ => exact .inr ⟨rfl, rfl⟩

theorem literalKey?_rewrap (e : Expr) :
    (rewrap true e (erase true e)).literalKey? = e.literalKey? := by
  cases e <;> simp [rewrap, isAssertion, erase, literalKey?]

theorem receiver?_rewrap (callee : Expr) :
    (rewrap true callee (erase true callee)).receiver? = callee.receiver?.map (erase true) := by
  cases callee with
  | member target property =>
    cases property with
    | name method =>
      by_cases hm : method ∈ passthroughMethods
      · simp [rewrap, isAssertion, erase, receiver?, hm]
      · simp [rewrap, isAssertion, erase, receiver?, hm]
    | _ => simp [rewrap, isAssertion, erase, receiver?]
  | _ => simp [rewrap, isAssertion, erase, receiver?]

section Unchanged
variable (table : Table)

theorem base?_erase (e : Expr) : base? table (e.erase true) = base? table e := by
  induction e with
  | assertion operand ih =>
    rw [erase, base?]
    exact ih
  | member target property ih =>
    rw [erase]
    obtain hp | ⟨hp, hp'⟩ := rewrap_eq_or property
    · rw [hp]
      cases property with
      | name x => rw [base?, base?, ih]
      | _ => rfl
    · rw [base?_member_of_not_name hp, base?_member_of_not_name hp']
  | _ => simp [erase, base?]

theorem sameObject_erase (e : Expr) :
    Value.SameObject (base? table (e.erase true)) (base? table e) := by
  intro properties
  rw [base?_erase]

/-- The text stays, and so does the number of parts that are not known. -/
theorem resolve_erase (e : Expr) : Alike ((e.erase true).resolve table) (e.resolve table) := by
  induction e with
  | template quasis substitutions ih =>
    rw [erase, eraseAll_eq_map]
    exact resolve_template_alike quasis ih
  | member target property =>
    rw [erase]
    exact resolve_member_alike (sameObject_erase table target) (rewrap_eq_or property)
  | index target key =>
    rw [erase, resolve, resolve]
    exact resolveIndex_alike (sameObject_erase table target) _ _
  | conditional test consequent alternate _ ihc iha =>
    rw [erase, resolve, resolve]
    exact joinBranches_alike ihc iha
  | call callee arguments _ _ ih =>
    rw [erase]
    have hreceiver := receiver?_rewrap callee
    cases hr : callee.receiver? with
    | none =>
      rw [hr] at hreceiver
      rw [resolve_call_of_not_receiver table hr, resolve_call_of_not_receiver table hreceiver]
      exact unknown_alike _ _
    | some target =>
      rw [hr] at hreceiver
      rw [resolve_call_of_receiver table hr, resolve_call_of_receiver table hreceiver]
      obtain ⟨method, -, rfl⟩ := receiver?_eq_some hr
      exact ih target _ rfl
  | object properties =>
    simp only [erase, resolve]
    exact unknown_alike _ _
  | assertion operand ih =>
    rw [erase, resolve]
    exact ih
  | _ =>
    rw [erase]
    exact Alike.refl _

/-- A binding holds the same value. -/
theorem extract_erase (e : Expr) : (e.erase true).extract table = e.extract table := by
  induction e with
  | template quasis substitutions =>
    -- The text is bound if it is complete, so the names of the unknown parts do not matter.
    have halike := resolve_erase table (.template quasis substitutions)
    rw [erase, (Textual.template _ _).extract_eq, (Textual.template _ _).extract_eq]
    rw [erase] at halike
    rw [halike.isComplete, halike.text]
  | object properties ih =>
    rw [erase, extract, extract, eraseEntries_eq_map]
    refine congrArg _ (extractOnto_of_forall₂ ?_ [])
    rw [List.forall₂_map_left_iff, List.forall₂_same]
    exact fun p hp => ⟨literalKey?_rewrap p.1, (ih p.1 p.2 hp).2⟩
  | assertion operand ih =>
    rw [erase, extract]
    exact ih
  | _ => simp [erase, extract]

end Unchanged

end Expr

section Erase
variable (keepNamed : Bool)

def Declarator.erase (d : Declarator) : Declarator :=
  { d with initializer := d.initializer.map (Expr.erase keepNamed) }

def Declaration.erase (d : Declaration) : Declaration :=
  { d with declarators := d.declarators.map (Declarator.erase keepNamed) }

def Statement.erase : Statement → Statement
  | declaration d => declaration (d.erase keepNamed)
  | exported d => exported (d.erase keepNamed)
  | exportDefault e => exportDefault (e.erase keepNamed)
  | importing source specifiers => importing source specifiers

def Module.erase (m : Module) : Module :=
  { m with body := m.body.map (Statement.erase keepNamed) }

theorem Declaration.definitions_erase (d : Declaration) :
    (d.erase keepNamed).definitions =
      d.definitions.map fun p => (p.1, p.2.erase keepNamed) := by
  unfold definitions erase
  rw [List.filterMap_map, List.map_filterMap]
  refine List.filterMap_congr fun declarator _ => ?_
  obtain ⟨name, initializer⟩ := declarator
  cases name <;> cases initializer <;> rfl

theorem Statement.definitions_erase (s : Statement) :
    (s.erase keepNamed).definitions =
      s.definitions.map fun p => (p.1, p.2.erase keepNamed) := by
  cases s with
  | declaration d => exact d.definitions_erase keepNamed
  | exported d => exact d.definitions_erase keepNamed
  | exportDefault e => rfl
  | importing source specifiers => rfl

namespace Module

theorem definitions_erase (m : Module) :
    (m.erase keepNamed).definitions =
      m.definitions.map fun p => (p.1, p.2.erase keepNamed) := by
  unfold definitions erase
  rw [List.flatMap_map, List.map_flatMap]
  exact List.flatMap_congr fun s _ => s.definitions_erase keepNamed

theorem pending_erase (m : Module) : (m.erase keepNamed).pending = m.pending := by
  unfold pending erase
  rw [List.flatMap_map]
  refine List.flatMap_congr fun s _ => ?_
  cases s <;> rfl

theorem declared_erase (m : Module) : (m.erase true).declared = m.declared := by
  rw [declared_eq, declared_eq, definitions_erase, Table.define, Table.define, putAll,
    List.foldl_map]
  simp only [Expr.extract_erase]
  rfl

end Module

end Erase

/-- Type assertions can be left out, all but one that is itself what is called, the property behind
a dot, or the key of a property. A file gives the same table without them, and imports the same
modules on the way; every expression resolves to the same text, it is complete as before, and as
many parts of it stay unresolved. -/
theorem erased_alike :
    (∀ (m : Module) (access : FileAccess) (options : ImportOptions) (importer : Option Text)
      (s : Session), (m.erase true).tableWithImports access options importer s =
        m.tableWithImports access options importer s) ∧
    ∀ (e : Expr) (table : Table),
      ((e.erase true).resolve table).text = (e.resolve table).text ∧
      ((e.erase true).resolve table).isComplete = (e.resolve table).isComplete ∧
      ((e.erase true).resolve table).unresolved.length = (e.resolve table).unresolved.length := by
  refine ⟨fun m access options importer s => ?_, fun e table => ?_⟩
  · exact Module.tableWithImports_congr_declared (m.pending_erase true) m.declared_erase access
      options importer s
  · have halike := e.resolve_erase table
    exact ⟨halike.text, halike.isComplete, halike.count⟩

/-- `sizes.sm`, the name behind the dot under an assertion. -/
def wrappedAccess : Expr :=
  .member (.name (text "sizes")) (.assertion (.name (text "sm")))

/-- The sizes, declared with the key under an assertion. -/
def wrappedKeyFile : Module :=
  ⟨[.declaration ⟨text "const", [⟨some (text "sizes"),
    some (.object [(.assertion (.name (text "sm")), .string (text "p-1"))])⟩]⟩], text "/a.ts", 0⟩

def declaredSizes : Table := [(text "sizes", .object [(text "sm", .string (text "p-1"))])]

/-- Where a name is expected, what an assertion wraps is none. With the assertion left out it is
one, and more is known. -/
theorem wrapped_names_differ :
    wrappedAccess.resolve declaredSizes = .unknown (text "sizes.<expr>") ∧
    (wrappedAccess.erase false).resolve declaredSizes = .known (text "p-1") ∧
    wrappedKeyFile.table = [(text "sizes", .object [])] ∧
    (wrappedKeyFile.erase false).table = declaredSizes :=
  ⟨by decide, by decide, rfl, rfl⟩

end StateCoverage
