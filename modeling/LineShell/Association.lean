/-!
# Association lists

A key has the value that stands first with it. Assigning a value to a key puts it in the place of
the value that the key had, or behind all others, so distinct keys stay distinct.
-/

namespace LineShell.Association

variable {κ ν : Type} [BEq κ]

def assign : List (κ × ν) → κ → ν → List (κ × ν)
  | [], key, value => [(key, value)]
  | entry :: entries, key, value =>
    if entry.1 == key then (key, value) :: entries else entry :: assign entries key value

theorem mem_keys_assign {entries : List (κ × ν)} {key other : κ} {value : ν}
    (h : other ∈ (assign entries key value).map Prod.fst) :
    other = key ∨ other ∈ entries.map Prod.fst := by
  induction entries with
  | nil => simpa [assign] using h
  | cons entry entries ih =>
    rw [assign] at h
    split at h
    · exact (List.mem_cons.mp h).imp_right (List.mem_cons_of_mem _)
    · rcases List.mem_cons.mp h with hfirst | hmem
      · exact .inr (hfirst ▸ List.mem_cons_self)
      · exact (ih hmem).imp_right (List.mem_cons_of_mem _)

variable [LawfulBEq κ]

@[simp] theorem lookup_assign_self (entries : List (κ × ν)) (key : κ) (value : ν) :
    (assign entries key value).lookup key = some value := by
  induction entries with
  | nil => simp [assign]
  | cons entry entries ih =>
    obtain ⟨first, held⟩ := entry
    rw [assign]
    split
    · simp
    · next hfirst =>
      have hkey : (key == first) = false :=
        beq_eq_false_iff_ne.mpr fun h => hfirst (h ▸ beq_self_eq_true _)
      rw [List.lookup_cons, hkey]
      exact ih

@[simp] theorem lookup_assign_of_ne (entries : List (κ × ν)) {key other : κ} (value : ν)
    (h : other ≠ key) : (assign entries key value).lookup other = entries.lookup other := by
  have hkey : (other == key) = false := by simpa using h
  induction entries with
  | nil => simp [assign, List.lookup_cons, hkey]
  | cons entry entries ih =>
    obtain ⟨first, held⟩ := entry
    rw [assign]
    split
    · next hfirst =>
      obtain rfl := eq_of_beq hfirst
      simp [List.lookup_cons, hkey]
    · simp [List.lookup_cons, ih]

/-- A key that has the value already keeps it. -/
theorem assign_of_lookup {entries : List (κ × ν)} {key : κ} {value : ν}
    (h : entries.lookup key = some value) : assign entries key value = entries := by
  induction entries with
  | nil => simp at h
  | cons entry entries ih =>
    obtain ⟨first, held⟩ := entry
    rw [assign]
    split
    · next hfirst =>
      obtain rfl := eq_of_beq hfirst
      obtain rfl : held = value := by simpa using h
      rfl
    · next hfirst =>
      have hkey : (key == first) = false :=
        beq_eq_false_iff_ne.mpr fun h => hfirst (h ▸ beq_self_eq_true _)
      rw [List.lookup_cons, hkey] at h
      rw [ih h]

theorem assign_assign (entries : List (κ × ν)) (key : κ) (value other : ν) :
    assign (assign entries key value) key other = assign entries key other := by
  induction entries with
  | nil => simp [assign]
  | cons entry entries ih =>
    rw [assign, assign]
    split
    · simp [assign]
    · next hentry => rw [assign, if_neg hentry, ih]

theorem nodup_assign {entries : List (κ × ν)} (distinct : (entries.map Prod.fst).Nodup) (key : κ)
    (value : ν) : ((assign entries key value).map Prod.fst).Nodup := by
  induction entries with
  | nil => simp [assign]
  | cons entry entries ih =>
    obtain ⟨hfirst, hothers⟩ := List.nodup_cons.mp distinct
    rw [assign]
    split
    · next hentry =>
      obtain rfl := eq_of_beq hentry
      exact distinct
    · next hentry =>
      refine List.nodup_cons.mpr ⟨fun hmem => ?_, ih hothers⟩
      rcases mem_keys_assign hmem with hkey | hmem
      · exact hentry (beq_iff_eq.mpr hkey)
      · exact hfirst hmem

end LineShell.Association
