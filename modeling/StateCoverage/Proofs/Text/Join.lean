import StateCoverage.Text.CodePoint

/-!
Texts cut at a character, and texts joined with one. Cutting undoes joining.
-/
namespace StateCoverage.Text
variable {c : Char} {t : Text}

theorem join_concat (separator last : Text) {parts : List Text} (h : parts ≠ []) :
    join separator (parts ++ [last]) = join separator parts ++ separator ++ last := by
  induction parts with
  | nil => exact absurd rfl h
  | cons part rest ih =>
    cases rest with
    | nil => rfl
    | cons next rest =>
      have hrest := ih (List.cons_ne_nil next rest)
      simp only [List.cons_append, join, List.append_assoc] at hrest ⊢
      rw [hrest]

theorem cut_ne_nil (c : Char) (t : Text) : cut c t ≠ [] := by
  cases t with
  | nil => exact List.cons_ne_nil _ _
  | cons p rest =>
    rw [cut]
    split
    · exact List.cons_ne_nil _ _
    · split <;> exact List.cons_ne_nil _ _

theorem cut_of_not_mem (h : CodePoint.scalar c ∉ t) : cut c t = [t] := by
  induction t with
  | nil => rfl
  | cons p rest ih =>
    rw [List.mem_cons, not_or] at h
    rw [cut, if_neg (Ne.symm h.1), ih h.2]

/-- The parts on both sides of the character. -/
theorem cut_append (c : Char) (t rest : Text) :
    cut c (t ++ .scalar c :: rest) = cut c t ++ cut c rest := by
  induction t with
  | nil => simp [cut]
  | cons p more ih =>
    rw [List.cons_append, cut, cut, ih]
    split
    · rfl
    · cases hcut : cut c more with
      | nil => exact absurd hcut (cut_ne_nil c more)
      | cons part parts => rfl

theorem not_mem_of_mem_cut {part : Text} (h : part ∈ cut c t) : CodePoint.scalar c ∉ part := by
  induction t generalizing part with
  | nil =>
    rw [cut, List.mem_singleton] at h
    rw [h]
    exact List.not_mem_nil
  | cons p rest ih =>
    rw [cut] at h
    split at h
    · obtain rfl | h := List.mem_cons.mp h
      · exact List.not_mem_nil
      · exact ih h
    · next hp =>
      cases hcut : cut c rest with
      | nil =>
        rw [hcut, List.mem_singleton] at h
        rw [h, List.mem_singleton]
        exact Ne.symm hp
      | cons first parts =>
        rw [hcut] at h ih
        obtain rfl | h := List.mem_cons.mp h
        · rw [List.mem_cons, not_or]
          exact ⟨Ne.symm hp, ih List.mem_cons_self⟩
        · exact ih (List.mem_cons_of_mem _ h)

/-- Parts without the character are the parts of their join. -/
theorem cut_join {parts : List Text} (hne : parts ≠ [])
    (h : ∀ part ∈ parts, CodePoint.scalar c ∉ part) : cut c (join [.scalar c] parts) = parts := by
  induction parts with
  | nil => exact absurd rfl hne
  | cons part rest ih =>
    have hpart := h part List.mem_cons_self
    cases rest with
    | nil => exact cut_of_not_mem hpart
    | cons next rest =>
      have hrest := ih (List.cons_ne_nil _ _) fun q hq => h q (List.mem_cons_of_mem _ hq)
      calc
        cut c (join [.scalar c] (part :: next :: rest))
            = cut c (part ++ .scalar c :: join [.scalar c] (next :: rest)) := by simp [join]
        _ = part :: next :: rest := by rw [cut_append, cut_of_not_mem hpart, hrest]; rfl

end StateCoverage.Text
