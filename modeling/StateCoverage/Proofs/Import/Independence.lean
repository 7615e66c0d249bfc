import StateCoverage.Proofs.Import.Value

/-!
Tables that are made one after the other with one cache. While the files stay as they are, each
request gets the table that it would get with a cache of its own.
-/
namespace StateCoverage

/-- A request for the table of a file. -/
structure Request where
  file : Module
  /-- The path of the file, from which its imports are chased. -/
  path : Option Text
  followImports : Bool
  options : ImportOptions

namespace Request

def importer (r : Request) : Option Text := if r.followImports then r.path else none

def answer (access : FileAccess) (r : Request) (s : Session) : Table × Session :=
  r.file.tableWithImports access r.options r.importer s

def alone (access : FileAccess) (r : Request) : Table := (r.answer access {}).1

/-- The tables of some requests that share a session. -/
def answers (access : FileAccess) : List Request → Session → List Table × Session
  | [], s => ([], s)
  | r :: rest, s =>
    let (table, s) := r.answer access s
    let (tables, s) := answers access rest s
    (table :: tables, s)

variable {access : FileAccess} {s : Session}

/-- One request: its table is the one it gets alone, and the next one sees what it would see. -/
theorem answer_of_fresh (h : ∀ path, s.tableOf? access path = ({} : Session).tableOf? access path)
    (r : Request) :
    (r.answer access s).1 = r.alone access ∧
      ∀ path, (r.answer access s).2.tableOf? access path =
        ({} : Session).tableOf? access path := by
  refine ⟨r.file.tableWithImports_fst_congr access r.options r.importer h, fun path => ?_⟩
  have hkept := r.file.tableOf?_tableWithImports access r.options r.importer s path
  exact hkept.trans (h path)

/-- Any number of requests. -/
theorem answers_of_fresh (h : ∀ path, s.tableOf? access path = ({} : Session).tableOf? access path)
    (requests : List Request) :
    (answers access requests s).1 = requests.map (·.alone access) := by
  induction requests generalizing s with
  | nil => rfl
  | cons r rest ih =>
    obtain ⟨htable, hnext⟩ := answer_of_fresh h r
    rw [answers, List.map_cons, ← htable, ← ih hnext]

/-- A shared cache is invisible while the files do not change. In whatever order requests are
answered, and whatever their options, each gets the table that it gets alone; in another order each
of them gets the same. -/
theorem answers_as_alone (access : FileAccess) (requests : List Request) :
    (answers access requests {}).1 = requests.map (·.alone access) ∧
    ∀ order : List Request, order.Perm requests →
      (order.zip (answers access order {}).1).Perm
        (requests.zip (answers access requests {}).1) := by
  have halone (requests : List Request) :
      (answers access requests {}).1 = requests.map (·.alone access) :=
    answers_of_fresh (fun _ => rfl) requests
  have hzip (requests : List Request) :
      requests.zip (answers access requests {}).1 =
        requests.map fun r => (r, r.alone access) := by
    rw [halone, List.map_prod_left_eq_zip]
  refine ⟨halone requests, fun order hperm => ?_⟩
  rw [hzip, hzip]
  exact hperm.map _

def sizesFile : FileAccess :=
  { isFile path := path = text "/a/sizes.ts"
    read _ := .ok (text "export const sm = \"p-1\";") }

def besideSizes : Request :=
  ⟨⟨[.importing (text "./sizes") [⟨text "sm", text "sm"⟩]], text "/a/b.tsx", 0⟩,
    some (text "/a/b.tsx"), true, {}⟩

/-- A file below them that spells out their path, and that is read without any extensions. -/
def belowSizes : Request :=
  ⟨⟨[.importing (text "../sizes.ts") [⟨text "all", text "*"⟩]], text "/a/d/e.tsx", 0⟩,
    some (text "/a/d/e.tsx"), true, { extensions := [] }⟩

theorem sizes_answers_as_alone :
    (Import.locate sizesFile.isFile besideSizes.options (text "/a/b.tsx") (text "./sizes")
      sizesFile.cwd).1 =
      some (text "/a/sizes.ts") ∧
    (Import.locate sizesFile.isFile belowSizes.options (text "/a/d/e.tsx")
      (text "../sizes.ts") sizesFile.cwd).1 = some (text "/a/sizes.ts") ∧
    [belowSizes, besideSizes].Perm [besideSizes, belowSizes] ∧
    ([belowSizes, besideSizes].zip (answers sizesFile [belowSizes, besideSizes] {}).1).Perm
      ([besideSizes, belowSizes].zip (answers sizesFile [besideSizes, belowSizes] {}).1) := by
  have hperm : [belowSizes, besideSizes].Perm [besideSizes, belowSizes] := .swap _ _ []
  obtain ⟨-, horder⟩ := answers_as_alone sizesFile [besideSizes, belowSizes]
  exact ⟨by decide, by decide, hperm, horder _ hperm⟩

end Request

end StateCoverage
