import StateCoverage.Bindings
import StateCoverage.Proofs.List

/-!
Bindings against bindings: one may hold more names than the other, with larger values. Writing the
same name on both sides keeps them in step.
-/
namespace StateCoverage.Bindings

variable {α β : Type} {k name : Text} {v w : α}

section Lookup

theorem valueOf?_put_self (name : Text) (v : α) (table : Bindings α) :
    valueOf? name (put name v table) = some v := by
  induction table with
  | nil => simp [put, valueOf?]
  | cons p rest ih =>
    obtain ⟨key, old⟩ := p
    by_cases h : key = name
    · simp [put, valueOf?, h]
    · simp [put, valueOf?, h, ih]

theorem valueOf?_put_of_ne (h : k ≠ name) (v : α) (table : Bindings α) :
    valueOf? k (put name v table) = valueOf? k table := by
  induction table with
  | nil => simp [put, valueOf?, Ne.symm h]
  | cons p rest ih =>
    obtain ⟨key, old⟩ := p
    by_cases hk : key = name
    · simp [put, valueOf?, hk, Ne.symm h]
    · simp [put, valueOf?, hk, ih]

theorem valueOf?_eq_none_iff {table : Bindings α} : valueOf? k table = none ↔ k ∉ names table := by
  induction table with
  | nil => simp [valueOf?, names]
  | cons p rest ih =>
    obtain ⟨key, old⟩ := p
    by_cases h : key = k
    · simp [valueOf?, names, h]
    · simpa [valueOf?, names, h, Ne.symm h] using ih

/-- A name without a value differs from every bound one. -/
theorem ne_of_valueOf? {table : Bindings α} (hname : name ∉ names table)
    (hv : valueOf? k table = some v) : name ≠ k := by
  intro heq
  rw [heq] at hname
  rw [valueOf?_eq_none_iff.mpr hname] at hv
  cases hv

theorem valueOf?_cons_of_ne (h : name ≠ k) (v : α) (rest : Bindings α) :
    valueOf? k ((name, v) :: rest) = valueOf? k rest := by
  simp [valueOf?, h]

theorem valueOf?_of_mem {table : Bindings α} (h : (names table).Nodup) (hmem : (k, v) ∈ table) :
    valueOf? k table = some v := by
  induction table with
  | nil => cases hmem
  | cons p rest ih =>
    obtain ⟨key, old⟩ := p
    obtain ⟨hkey, hrest⟩ : key ∉ names rest ∧ (names rest).Nodup := by simpa [names] using h
    cases hmem with
    | head => simp [valueOf?]
    | tail _ hmem =>
      have hne : key ≠ k := by
        intro heq
        exact hkey (List.mem_map.mpr ⟨(k, v), hmem, heq.symm⟩)
      rw [valueOf?_cons_of_ne hne, ih hrest hmem]

theorem mem_of_valueOf? {table : Bindings α} (h : valueOf? k table = some v) : (k, v) ∈ table := by
  induction table with
  | nil => cases h
  | cons p rest ih =>
    obtain ⟨key, old⟩ := p
    by_cases hk : key = k
    · obtain rfl : old = v := by simpa [valueOf?, hk] using h
      rw [hk]
      exact List.mem_cons_self
    · rw [valueOf?_cons_of_ne hk] at h
      exact List.mem_cons_of_mem _ (ih h)

/-- Bindings that are kept for their values can be looked up as before. -/
theorem valueOf?_filter {table : Bindings α} (h : (names table).Nodup) (keep : α → Bool)
    (k : Text) :
    valueOf? k (table.filter fun p => keep p.2) = (valueOf? k table).filter keep := by
  induction table with
  | nil => rfl
  | cons p rest ih =>
    obtain ⟨key, v⟩ := p
    obtain ⟨hkey, hrest⟩ : key ∉ names rest ∧ (names rest).Nodup := by simpa [names] using h
    have ih := ih hrest
    by_cases hk : key = k
    · have hnone : valueOf? k rest = none := valueOf?_eq_none_iff.mpr (hk ▸ hkey)
      cases hv : keep v with
      | true => simp [valueOf?, hk, hv, Option.filter]
      | false => simpa [valueOf?, hk, hv, hnone, Option.filter] using ih
    · cases hv : keep v with
      | true => simpa [valueOf?, hk, hv] using ih
      | false => simpa [valueOf?, hk, hv] using ih

/-- Writing a name keeps the names, and adds it behind them when it is new. -/
theorem names_put (name : Text) (v : α) (table : Bindings α) :
    names (put name v table) =
      if name ∈ names table then names table else names table ++ [name] := by
  induction table with
  | nil => simp [put, names]
  | cons p rest ih =>
    obtain ⟨key, old⟩ := p
    by_cases h : key = name
    · simp [put, names, h]
    · have hcons : names (put name v ((key, old) :: rest)) = key :: names (put name v rest) := by
        simp [put, names, h]
      rw [hcons, ih]
      by_cases hmem : name ∈ names rest
      · simp only [names, List.map_cons, List.mem_cons] at hmem ⊢
        simp [hmem]
      · simp only [names, List.map_cons, List.mem_cons] at hmem ⊢
        simp [hmem, Ne.symm h]

theorem nodup_names_put {table : Bindings α} (h : (names table).Nodup) (name : Text) (v : α) :
    (names (put name v table)).Nodup := by
  rw [names_put]
  by_cases hmem : name ∈ names table
  · rwa [if_pos hmem]
  · rw [if_neg hmem]
    refine List.nodup_append.mpr ⟨h, by simp, fun k hk k' hk' => ?_⟩
    obtain rfl := List.mem_singleton.mp hk'
    intro heq
    exact hmem (heq ▸ hk)

/-- What holds of every value still holds once such a value is written. -/
theorem forall_put {P : α → Prop} {table : Bindings α} (h : ∀ p ∈ table, P p.2) (hv : P v)
    (name : Text) : ∀ p ∈ put name v table, P p.2 := by
  induction table with
  | nil => simpa [put] using hv
  | cons p rest ih =>
    obtain ⟨key, old⟩ := p
    obtain ⟨hold, hrest⟩ := List.forall_mem_cons.mp h
    by_cases hk : key = name
    · rw [put, if_pos hk]
      exact List.forall_mem_cons.mpr ⟨hv, hrest⟩
    · rw [put, if_neg hk]
      exact List.forall_mem_cons.mpr ⟨hold, ih hrest⟩

end Lookup

/-- Writes one after the other; what is written may depend on the bindings before it. -/
def putAll {β : Type} (key : β → Text) (value : Bindings α → β → α) (items : List β)
    (table : Bindings α) : Bindings α :=
  items.foldl (fun table b => put (key b) (value table b) table) table

section PutAll
variable {β : Type} {key : β → Text} {value : Bindings α → β → α} {items : List β}

theorem putAll_append (before after : List β) (table : Bindings α) :
    putAll key value (before ++ after) table =
      putAll key value after (putAll key value before table) :=
  List.foldl_append

theorem valueOf?_putAll_of_not_mem (hk : k ∉ items.map key) (table : Bindings α) :
    valueOf? k (putAll key value items table) = valueOf? k table := by
  induction items generalizing table with
  | nil => rfl
  | cons b rest ih =>
    rw [List.map_cons, List.mem_cons, not_or] at hk
    calc
      valueOf? k (putAll key value (b :: rest) table)
          = valueOf? k (put (key b) (value table b) table) := ih hk.2 _
      _ = valueOf? k table := valueOf?_put_of_ne hk.1 _ table

/-- The last write of a name counts. -/
theorem valueOf?_putAll_last {before after : List β} {b : β} (hb : key b ∉ after.map key)
    (table : Bindings α) :
    valueOf? (key b) (putAll key value (before ++ b :: after) table) =
      some (value (putAll key value before table) b) := by
  calc
    valueOf? (key b) (putAll key value (before ++ b :: after) table)
        = valueOf? (key b) (putAll key value after
            (put (key b) (value (putAll key value before table) b)
              (putAll key value before table))) := by rw [putAll_append]; rfl
    _ = some (value (putAll key value before table) b) := by
        rw [valueOf?_putAll_of_not_mem hb, valueOf?_put_self]

/-- A name that is written is written a last time. -/
theorem exists_last_write (h : k ∈ items.map key) :
    ∃ before b after, items = before ++ b :: after ∧ key b = k ∧ k ∉ after.map key := by
  obtain ⟨before, b, after, heq, hb, hafter⟩ := exists_last_of_mem (List.mem_map.mp h)
  exact ⟨before, b, after, heq, hb, by simpa using hafter⟩

theorem eraseDups_concat (written : List Text) (name : Text) :
    (written ++ [name]).eraseDups =
      if name ∈ written then written.eraseDups else written.eraseDups ++ [name] := by
  rw [List.eraseDups_append]
  by_cases h : name ∈ written
  · simp [List.removeAll, h]
  · simp [List.removeAll, h, List.eraseDups_cons]

/-- Names stand in the order in which they were first written. -/
theorem names_putAll {written : List Text} {table : Bindings α}
    (h : names table = written.eraseDups) :
    names (putAll key value items table) = (written ++ items.map key).eraseDups := by
  induction items generalizing written table with
  | nil => simpa [putAll] using h
  | cons b rest ih =>
    have hput : names (put (key b) (value table b) table) = (written ++ [key b]).eraseDups := by
      rw [names_put, eraseDups_concat, h]
      by_cases hmem : key b ∈ written
      · rw [if_pos (List.mem_eraseDups.mpr hmem), if_pos hmem]
      · rw [if_neg (fun hin => hmem (List.mem_eraseDups.mp hin)), if_neg hmem]
    have hrest := ih hput
    rwa [List.append_assoc, List.singleton_append] at hrest

theorem nodup_names_putAll {table : Bindings α} (h : (names table).Nodup) :
    (names (putAll key value items table)).Nodup := by
  induction items generalizing table with
  | nil => exact h
  | cons b rest ih => exact ih (nodup_names_put h (key b) (value table b))

theorem forall_putAll {P : α → Prop} {table : Bindings α} (h : ∀ p ∈ table, P p.2)
    (hvalue : ∀ b ∈ items, ∀ table, P (value table b)) :
    ∀ p ∈ putAll key value items table, P p.2 := by
  induction items generalizing table with
  | nil => exact h
  | cons b rest ih =>
    rw [List.forall_mem_cons] at hvalue
    exact ih (forall_put h (hvalue.1 table) (key b)) hvalue.2

end PutAll

/-- The second bindings have the names of the first, in the same order and among others, and every
value is in the relation to its counterpart. -/
inductive Under (R : α → α → Prop) : Bindings α → Bindings α → Prop
  | nil : Under R [] []
  | both {k : Text} {v w : α} {ps qs : Bindings α} :
      R v w → Under R ps qs → Under R ((k, v) :: ps) ((k, w) :: qs)
  | skip {k : Text} {w : α} {ps qs : Bindings α} :
      k ∉ names ps → Under R ps qs → Under R ps ((k, w) :: qs)

section Under
variable {R : α → α → Prop} {ps qs : Bindings α}

theorem Under.names_sublist (h : Under R ps qs) : (names ps).Sublist (names qs) := by
  induction h with
  | nil => exact .slnil
  | both _ _ ih => exact ih.cons_cons _
  | skip _ _ ih => exact ih.cons _

theorem Under.exists_valueOf? (h : Under R ps qs) (hv : valueOf? k ps = some v) :
    ∃ w, valueOf? k qs = some w ∧ R v w := by
  induction h with
  | nil => simp [valueOf?] at hv
  | @both key a b ps qs hr _ ih =>
    by_cases hk : key = k
    · have ha : a = v := by simpa [valueOf?, hk] using hv
      exact ⟨b, by simp [valueOf?, hk], ha ▸ hr⟩
    · have hv : valueOf? k ps = some v := by simpa [valueOf?, hk] using hv
      obtain ⟨w, hw, hr⟩ := ih hv
      exact ⟨w, by simpa [valueOf?, hk] using hw, hr⟩
  | @skip key b ps qs hnot _ ih =>
    obtain ⟨w, hw, hr⟩ := ih hv
    exact ⟨w, by rwa [valueOf?_cons_of_ne (ne_of_valueOf? hnot hv)], hr⟩

theorem Under.refl (h : ∀ k v, (k, v) ∈ ps → R v v) : Under R ps ps := by
  induction ps with
  | nil => exact .nil
  | cons p rest ih =>
    obtain ⟨key, v⟩ := p
    exact .both (h key v (by simp)) (ih fun k v hp => h k v (List.mem_cons_of_mem _ hp))

/-- What is listed for the values grows with them. -/
theorem Under.flatMap_sublist {f : α → List β} (h : Under R ps qs)
    (hf : ∀ k v, (k, v) ∈ ps → ∀ w, R v w → (f v).Sublist (f w)) :
    (ps.flatMap fun p => f p.2).Sublist (qs.flatMap fun q => f q.2) := by
  induction h with
  | nil => exact .slnil
  | @both key v w ps qs hr _ ih =>
    rw [List.flatMap_cons, List.flatMap_cons]
    have hhead : (f v).Sublist (f w) := hf key v (by simp) w hr
    exact hhead.append (ih fun k v hp => hf k v (List.mem_cons_of_mem _ hp))
  | @skip key w ps qs _ _ ih =>
    rw [List.flatMap_cons]
    exact (ih hf).trans (List.sublist_append_right _ _)

theorem under_of_nodup (hp : (names ps).Nodup) (hq : (names qs).Nodup)
    (hsub : (names ps).Sublist (names qs))
    (hlook : ∀ k v w, valueOf? k ps = some v → valueOf? k qs = some w → R v w) :
    Under R ps qs := by
  -- The first name of `qs` is the first of `ps`, or else in none of them.
  induction qs generalizing ps with
  | nil =>
    obtain rfl : ps = [] := by simpa [names] using hsub
    exact .nil
  | cons q qs ih =>
    obtain ⟨key, w⟩ := q
    obtain ⟨hkey, hqs⟩ : key ∉ names qs ∧ (names qs).Nodup := by simpa [names] using hq
    by_cases hmem : key ∈ names ps
    · cases ps with
      | nil => simp [names] at hmem
      | cons p ps =>
        obtain ⟨key', v⟩ := p
        obtain ⟨hkey', hps⟩ : key' ∉ names ps ∧ (names ps).Nodup := by simpa [names] using hp
        obtain rfl : key' = key := by
          by_contra hne
          have hin : key ∈ names ps := by simpa [names, Ne.symm hne] using hmem
          have hsub' : (key' :: names ps).Sublist (key :: names qs) := hsub
          cases hsub' with
          | cons _ h => exact hkey (h.subset (List.mem_cons_of_mem _ hin))
          | cons_cons => exact hne rfl
        have htail : (names ps).Sublist (names qs) := List.cons_sublist_cons.mp hsub
        refine .both (hlook key' v w (by simp [valueOf?]) (by simp [valueOf?])) ?_
        refine ih hps hqs htail fun k a b ha hb => ?_
        have hne : key' ≠ k := ne_of_valueOf? hkey' ha
        apply hlook k a b
        · rwa [valueOf?_cons_of_ne hne]
        · rwa [valueOf?_cons_of_ne hne]
    · have hsub' : (names ps).Sublist (names qs) := by
        have h : (names ps).Sublist (key :: names qs) := hsub
        obtain h | ⟨r, hr, -⟩ := List.sublist_cons_iff.mp h
        · exact h
        · exact absurd (hr ▸ List.mem_cons_self) hmem
      refine .skip hmem (ih hp hqs hsub' fun k a b ha hb => ?_)
      apply hlook k a b ha
      rwa [valueOf?_cons_of_ne (ne_of_valueOf? hmem ha)]

/-- On bindings without repeated names, this is the order by names and lookups. -/
theorem under_iff_of_nodup (hp : (names ps).Nodup) (hq : (names qs).Nodup) :
    Under R ps qs ↔ (names ps).Sublist (names qs) ∧
      ∀ k v w, valueOf? k ps = some v → valueOf? k qs = some w → R v w := by
  constructor
  · intro h
    refine ⟨h.names_sublist, fun k v w hv hw => ?_⟩
    obtain ⟨w', hw', hr⟩ := h.exists_valueOf? hv
    obtain rfl : w = w' := Option.some.inj (hw.symm.trans hw')
    exact hr
  · intro h
    exact under_of_nodup hp hq h.1 h.2

end Under

/-- The same names in the same order, every value in the relation to its counterpart. -/
def Beside (R : α → α → Prop) (ps qs : Bindings α) : Prop :=
  List.Forall₂ (fun p q => p.1 = q.1 ∧ R p.2 q.2) ps qs

section Beside
variable {R : α → α → Prop} {ps qs : Bindings α}

theorem Beside.names_eq (h : Beside R ps qs) : names ps = names qs := by
  induction h with
  | nil => rfl
  | cons hpq _ ih => simpa [names] using ⟨hpq.1, ih⟩

theorem Beside.under (h : Beside R ps qs) : Under R ps qs := by
  induction h with
  | nil => exact .nil
  | @cons p q ps qs hpq _ ih =>
    obtain ⟨key, v⟩ := p
    obtain ⟨key', w⟩ := q
    obtain ⟨rfl, hr⟩ := hpq
    exact .both hr ih

theorem Beside.put (h : Beside R ps qs) (hr : R v w) (name : Text) :
    Beside R (put name v ps) (put name w qs) := by
  induction h with
  | nil => exact .cons ⟨rfl, hr⟩ .nil
  | @cons p q ps qs hpq htail ih =>
    obtain ⟨key, a⟩ := p
    obtain ⟨key', b⟩ := q
    obtain ⟨rfl, hab⟩ := hpq
    by_cases hk : key = name
    · simp only [Bindings.put, hk, if_true]
      exact .cons ⟨rfl, hr⟩ htail
    · simp only [Bindings.put, hk, if_false]
      exact .cons ⟨rfl, hab⟩ ih

/-- Writing the same names keeps bindings in step, when what is written is in the relation. -/
theorem Beside.putAll {β : Type} {key : β → Text} {value value' : Bindings α → β → α}
    (h : Beside R ps qs) (hr : ∀ ps qs b, R (value ps b) (value' qs b)) (items : List β) :
    Beside R (putAll key value items ps) (putAll key value' items qs) := by
  induction items generalizing ps qs with
  | nil => exact h
  | cons b rest ih => exact ih (h.put (hr ps qs b) (key b))

end Beside

end StateCoverage.Bindings
