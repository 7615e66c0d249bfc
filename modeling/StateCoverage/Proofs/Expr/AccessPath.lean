import StateCoverage.Proofs.Expr.Knowledge

/-!
Access paths: names with static and computed accesses behind them. A path is read back from its
rendering, brackets matched by a stack, so two paths with one rendering are the same, and a fragment
of a path points at nothing else.
-/
namespace StateCoverage.Expr

def isMark (p : CodePoint) : Bool := p.isChar '.' || p.isChar '[' || p.isChar ']' || p.isChar '"'

/-- A name that cannot be mistaken for a piece of a path. -/
structure IsPlain (x : Text) : Prop where
  ne_nil : x ≠ []
  unmarked : ∀ p ∈ x, isMark p = false

/-- A name, or an access to a path: static, computed by a path, or computed by a string literal
without a quote. -/
inductive IsPath : Expr → Prop
  | name {x : Text} : IsPlain x → IsPath (.name x)
  | member {target : Expr} {x : Text} : IsPath target → IsPlain x →
      IsPath (.member target (.name x))
  | index {target key : Expr} : IsPath target → IsPath key → IsPath (.index target key)
  | quoted {target : Expr} {value : Text} :
      IsPath target → .scalar '"' ∉ value → IsPath (.index target (.string value))

/-! ### Reading -/

def readName? (t : Text) : Option (Text × Text) :=
  match t.takeWhile (!isMark ·) with
  | [] => none
  | x => some (x, t.dropWhile (!isMark ·))

/-- The rest of a quoted key up to its quote, and what stands behind the bracket that closes it. -/
def readQuoted? (t : Text) : Option (Text × Text) :=
  match t.dropWhile (· ≠ .scalar '"') with
  | .scalar '"' :: .scalar ']' :: rest => some (t.takeWhile (· ≠ .scalar '"'), rest)
  | _ => none

def Stops (t : Text) : Prop := ∀ p ∈ t.head?, isMark p = true

variable {t x value rest : Text}

theorem takeWhile_append_stop (f : CodePoint → Bool) (hx : ∀ p ∈ x, f p = true)
    (hrest : ∀ p ∈ rest.head?, f p = false) :
    (x ++ rest).takeWhile f = x ∧ (x ++ rest).dropWhile f = rest := by
  rw [List.takeWhile_append_of_pos hx, List.dropWhile_append_of_pos hx]
  cases rest with
  | nil => simp
  | cons p rest => simp [hrest p rfl]

theorem head?_dropWhile_eq_false {f : CodePoint → Bool} {p : CodePoint}
    (h : p ∈ (t.dropWhile f).head?) : f p = false := by
  have hnot := List.head?_dropWhile_not f t
  rw [Option.mem_def.mp h] at hnot
  exact hnot

theorem readName?_eq_some_iff :
    readName? t = some (x, rest) ↔ IsPlain x ∧ Stops rest ∧ t = x ++ rest := by
  unfold readName?
  constructor
  · intro h
    split at h
    · cases h
    · next hne =>
      cases h
      refine ⟨⟨hne, fun p hp => ?_⟩, fun p hp => ?_, List.takeWhile_append_dropWhile.symm⟩
      · simpa using List.all_eq_true.mp (List.all_takeWhile (p := (!isMark ·)) (l := t)) p hp
      · simpa using head?_dropWhile_eq_false hp
  · rintro ⟨hx, hrest, rfl⟩
    have hunmarked : ∀ p ∈ x, (!isMark p) = true := by simpa using hx.unmarked
    have hmark : ∀ p ∈ rest.head?, (!isMark p) = false := by simpa [Stops] using hrest
    obtain ⟨htake, hdrop⟩ := takeWhile_append_stop (!isMark ·) hunmarked hmark
    rw [htake, hdrop]
    split
    · exact absurd rfl hx.ne_nil
    · rfl

theorem readQuoted?_eq_some_iff :
    readQuoted? t = some (value, rest) ↔
      .scalar '"' ∉ value ∧ t = value ++ .scalar '"' :: .scalar ']' :: rest := by
  unfold readQuoted?
  constructor
  · intro h
    split at h
    · next rest' hdrop =>
      cases h
      refine ⟨fun hquote => ?_, ?_⟩
      · have hall := List.all_takeWhile (p := (· ≠ CodePoint.scalar '"')) (l := t)
        simpa using List.all_eq_true.mp hall _ hquote
      · rw [← hdrop, List.takeWhile_append_dropWhile]
    · cases h
  · rintro ⟨hvalue, rfl⟩
    have hinner : ∀ p ∈ value, decide (p ≠ CodePoint.scalar '"') = true :=
      fun p hp => decide_eq_true fun heq => hvalue (heq ▸ hp)
    have hstop : ∀ p ∈ (CodePoint.scalar '"' :: .scalar ']' :: rest).head?,
        decide (p ≠ CodePoint.scalar '"') = false := by simp
    obtain ⟨htake, hdrop⟩ := takeWhile_append_stop (· ≠ CodePoint.scalar '"') hinner hstop
    rw [htake, hdrop]
    rfl

theorem length_of_readName? (h : readName? t = some (x, rest)) : rest.length < t.length := by
  obtain ⟨hx, -, rfl⟩ := readName?_eq_some_iff.mp h
  have := List.length_pos_iff.mpr hx.ne_nil
  rw [List.length_append]
  omega

theorem length_of_readQuoted? (h : readQuoted? t = some (value, rest)) :
    rest.length < t.length := by
  obtain ⟨-, rfl⟩ := readQuoted?_eq_some_iff.mp h
  rw [List.length_append]
  simp only [List.length_cons]
  omega

/-- Goes on behind a path. The targets whose brackets are still open wait on a stack, the innermost
first. -/
def readOn (targets : List Expr) (e : Expr) (t : Text) : Option Expr :=
  match t with
  | [] => if targets.isEmpty then some e else none
  | .scalar '.' :: rest =>
    match h : readName? rest with
    | some (x, behind) =>
      have := length_of_readName? h
      readOn targets (.member e (.name x)) behind
    | none => none
  | .scalar '[' :: .scalar '"' :: rest =>
    match h : readQuoted? rest with
    | some (value, behind) =>
      have := length_of_readQuoted? h
      readOn targets (.index e (.string value)) behind
    | none => none
  | .scalar '[' :: rest =>
    match h : readName? rest with
    | some (x, behind) =>
      have := length_of_readName? h
      readOn (e :: targets) (.name x) behind
    | none => none
  | .scalar ']' :: rest =>
    match targets with
    | target :: outer => readOn outer (.index target e) rest
    | [] => none
  | _ => none
termination_by t.length

def readFrom (targets : List Expr) (t : Text) : Option Expr :=
  (readName? t).bind fun (x, behind) => readOn targets (.name x) behind

def ofPath? (t : Text) : Option Expr := readFrom [] t

variable {targets outer : List Expr} {target e : Expr}

theorem readFrom_name (hx : IsPlain x) (hrest : Stops rest) :
    readFrom targets (x ++ rest) = readOn targets (.name x) rest := by
  rw [readFrom, readName?_eq_some_iff.mpr ⟨hx, hrest, rfl⟩, Option.bind_some]

theorem readOn_member (hx : IsPlain x) (hrest : Stops rest) :
    readOn targets e (.scalar '.' :: (x ++ rest)) = readOn targets (.member e (.name x)) rest := by
  have hname := readName?_eq_some_iff.mpr ⟨hx, hrest, rfl⟩
  rw [readOn]
  split
  · next h =>
    cases hname.symm.trans h
    rfl
  · next h => cases hname.symm.trans h

theorem readOn_quoted (hvalue : .scalar '"' ∉ value) :
    readOn targets e (.scalar '[' :: .scalar '"' :: (value ++ .scalar '"' :: .scalar ']' :: rest)) =
      readOn targets (.index e (.string value)) rest := by
  have hquoted : readQuoted? (value ++ .scalar '"' :: .scalar ']' :: rest) = some (value, rest) :=
    readQuoted?_eq_some_iff.mpr ⟨hvalue, rfl⟩
  rw [readOn]
  split
  · next h =>
    cases hquoted.symm.trans h
    rfl
  · next h => cases hquoted.symm.trans h

/-- A bracket opens, and the key begins with a name. -/
theorem readOn_open (h : t.head? ≠ some (.scalar '"')) :
    readOn targets e (.scalar '[' :: t) = readFrom (e :: targets) t := by
  rw [readOn]
  · split
    · next h =>
      dsimp only
      rw [readFrom, h, Option.bind_some]
    · next h => rw [readFrom, h, Option.bind_none]
  · rintro rest rfl
    exact h rfl

theorem readOn_close :
    readOn (target :: outer) e (.scalar ']' :: rest) = readOn outer (.index target e) rest := by
  rw [readOn]

/-! ### Reading what is rendered -/

/-- A rendered path begins with a name. -/
theorem exists_head?_render (h : IsPath e) (t : Text) :
    ∃ p, (render e ++ t).head? = some p ∧ isMark p = false := by
  induction h generalizing t with
  | @name x hx =>
    obtain ⟨p, ps, rfl⟩ := List.exists_cons_of_ne_nil hx.ne_nil
    exact ⟨p, rfl, hx.unmarked p List.mem_cons_self⟩
  | member _ _ ih => simpa only [render, List.append_assoc] using ih _
  | index _ _ ih _ => simpa only [render, List.append_assoc] using ih _
  | quoted _ _ ih => simpa only [render, List.append_assoc] using ih _

/-- Behind the rendering of a path the reading holds that path, whatever brackets are open. -/
theorem readFrom_render (h : IsPath e) (hrest : Stops rest) :
    readFrom targets (render e ++ rest) = readOn targets e rest := by
  induction h generalizing targets rest with
  | name hx => exact readFrom_name hx hrest
  | @member target x _ hx ih =>
    have hrender : render (.member target (.name x)) ++ rest =
        render target ++ .scalar '.' :: (x ++ rest) := by simp [render, text]
    rw [hrender, ih (by rintro p ⟨⟩; rfl), readOn_member hx hrest]
  | @index target key _ hkey ih ihkey =>
    have hrender : render (.index target key) ++ rest =
        render target ++ .scalar '[' :: (render key ++ .scalar ']' :: rest) := by
      simp [render, text]
    have hopen : (render key ++ .scalar ']' :: rest).head? ≠ some (.scalar '"') := by
      obtain ⟨p, hp, hmark⟩ := exists_head?_render hkey (.scalar ']' :: rest)
      rw [hp]
      rintro ⟨⟩
      cases hmark
    rw [hrender, ih (by rintro p ⟨⟩; rfl), readOn_open hopen, ihkey (by rintro p ⟨⟩; rfl),
      readOn_close]
  | @quoted target value _ hvalue ih =>
    have hrender : render (.index target (.string value)) ++ rest =
        render target ++
          .scalar '[' :: .scalar '"' :: (value ++ .scalar '"' :: .scalar ']' :: rest) := by
      simp [render, text]
    rw [hrender, ih (by rintro p ⟨⟩; rfl), readOn_quoted hvalue]

theorem ofPath?_render (h : IsPath e) : ofPath? (render e) = some e := by
  have hread : readFrom [] (render e ++ []) = readOn [] e [] := readFrom_render h (by rintro p ⟨⟩)
  rw [ofPath?, ← List.append_nil (render e), hread, readOn]
  rfl

/-! ### Only what is rendered is read -/

def opened : List Expr → Text
  | [] => []
  | target :: outer => opened outer ++ render target ++ text "["

/-- The reading keeps what it has read: the open targets with their brackets, and the path behind
them. -/
theorem render_of_readOn {found : Expr} (htargets : ∀ target ∈ targets, IsPath target)
    (he : IsPath e) (h : readOn targets e t = some found) :
    IsPath found ∧ render found = opened targets ++ render e ++ t := by
  fun_induction readOn targets e t with
  | case1 targets e hempty =>
    cases h
    rw [List.isEmpty_iff.mp hempty]
    exact ⟨he, (List.append_nil _).symm⟩
  | case3 targets e rest x behind hname _ ih =>
    obtain ⟨hx, -, rfl⟩ := readName?_eq_some_iff.mp hname
    obtain ⟨hfound, hrender⟩ := ih htargets (.member he hx) h
    exact ⟨hfound, by rw [hrender]; simp [render, text]⟩
  | case5 targets e rest value behind hquoted _ ih =>
    obtain ⟨hvalue, rfl⟩ := readQuoted?_eq_some_iff.mp hquoted
    obtain ⟨hfound, hrender⟩ := ih htargets (.quoted he hvalue) h
    exact ⟨hfound, by rw [hrender]; simp [render, text]⟩
  | case7 targets e rest _ x behind hname _ ih =>
    obtain ⟨hx, -, rfl⟩ := readName?_eq_some_iff.mp hname
    obtain ⟨hfound, hrender⟩ := ih (List.forall_mem_cons.mpr ⟨he, htargets⟩) (.name hx) h
    exact ⟨hfound, by rw [hrender]; simp [render, opened, text]⟩
  | case9 e rest target outer ih =>
    obtain ⟨htarget, houter⟩ := List.forall_mem_cons.mp htargets
    obtain ⟨hfound, hrender⟩ := ih houter (.index htarget he) h
    exact ⟨hfound, by rw [hrender]; simp [render, opened, text]⟩
  | case2 | case4 | case6 | case8 | case10 | case11 => cases h

theorem ofPath?_eq_some_iff : ofPath? t = some e ↔ IsPath e ∧ render e = t := by
  constructor
  · intro h
    obtain ⟨⟨x, behind⟩, hname, hread⟩ := Option.bind_eq_some_iff.mp h
    obtain ⟨hx, -, rfl⟩ := readName?_eq_some_iff.mp hname
    exact render_of_readOn (by simp) (.name hx) hread
  · rintro ⟨he, rfl⟩
    exact ofPath?_render he

/-! ### Fragments -/

/-- A path resolves completely, or the path itself is what is unresolved. -/
theorem resolve_path_cases (h : IsPath e) (table : Table) :
    (e.resolve table).unresolved = [] ∨ e.resolve table = .unknown (render e) := by
  cases h with
  | name hx =>
    rw [resolve]
    split
    · exact .inl rfl
    · exact .inr rfl
  | @member target x _ hx =>
    rw [resolve]
    obtain hu | ⟨-, -, s, -, -, -, hk⟩ :=
      resolveMember_cases (.member target (.name x)) (.name x) (base? table target)
    · exact .inr hu
    · exact .inl (congrArg _ hk)
  | @index target key _ _ =>
    rw [resolve]
    obtain hu | ⟨ps, -, hk⟩ := resolveIndex_cases (.index target key) (base? table target)
    · exact .inr hu
    · exact .inl (congrArg _ hk)
  | @quoted target value _ _ =>
    rw [resolve]
    obtain hu | ⟨ps, -, hk⟩ :=
      resolveIndex_cases (.index target (.string value)) (base? table target)
    · exact .inr hu
    · exact .inl (congrArg _ hk)

/-- The rendering of a path tells which path it is: one that is read back from it, and from no other
text. So two paths with one rendering are the same, and a fragment that a path leaves unresolved
points at that path and at no other. -/
theorem render_identifies_path :
    (∀ t e, ofPath? t = some e ↔ IsPath e ∧ render e = t) ∧
    (∀ a b, IsPath a → IsPath b → render a = render b → a = b) ∧
    ∀ a table fragment, IsPath a → fragment ∈ (a.resolve table).unresolved →
      ∀ b, (IsPath b ∧ render b = fragment) ↔ b = a := by
  have hinj (a b : Expr) (ha : IsPath a) (hb : IsPath b) (h : render a = render b) : a = b :=
    Option.some.inj ((ofPath?_render ha).symm.trans (h ▸ ofPath?_render hb))
  refine ⟨fun t e => ofPath?_eq_some_iff, hinj, fun a table fragment ha hfragment b => ?_⟩
  have heq : fragment = render a := by
    obtain hnone | hself := resolve_path_cases ha table
    · rw [hnone] at hfragment
      cases hfragment
    · rw [hself] at hfragment
      exact List.mem_singleton.mp hfragment
  rw [heq]
  constructor
  · rintro ⟨hb, h⟩
    exact hinj b a hb ha h
  · rintro rfl
    exact ⟨ha, rfl⟩

/-- A path whose key is a path with a key that looks like the end of both. -/
def layeredKey : Expr :=
  .member (.index (.name (text "tokens")) (.index (.name (text "sizes")) (.string (text "a.b]]"))))
    (.name (text "sm"))

theorem layeredKey_identified :
    let written := text "tokens[sizes[\"a.b]]\"]].sm"
    IsPath layeredKey ∧ written ∈ (layeredKey.resolve []).unresolved ∧
      ofPath? written = some layeredKey ∧
      ∃ b, IsPath b ∧ render b = render layeredKey ∧ b = layeredKey := by
  intro written
  have hpath : IsPath layeredKey :=
    .member (.index (.name ⟨by decide, by decide⟩) (.quoted (.name ⟨by decide, by decide⟩)
      (by decide))) ⟨by decide, by decide⟩
  have hfragment : written ∈ (layeredKey.resolve []).unresolved := by decide +kernel
  obtain ⟨hread, hinj, hpoints⟩ := render_identifies_path
  obtain ⟨-, hrender⟩ := (hpoints layeredKey [] written hpath hfragment layeredKey).mpr rfl
  exact ⟨hpath, hfragment, (hread written layeredKey).mpr ⟨hpath, hrender⟩, layeredKey, hpath, rfl,
    hinj layeredKey layeredKey hpath hpath rfl⟩

end StateCoverage.Expr
