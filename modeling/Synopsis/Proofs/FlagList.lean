import Synopsis.FlagList

/-!
# Flags that are added one after the other

Adding flags to a list appends those that it lacks, each once and in the order of their first
appearance.

- `mem_foldl_add`: a list holds what it held, and the flags that were added.
- `ofFlags_eq_eraseDups`: a flag list is the list of the flags without later repeats.
-/

namespace Synopsis.FlagList

theorem mem_foldl_add {flags : FlagList} {more : List Flag} {flag : Flag} :
    flag ∈ more.foldl add flags ↔ flag ∈ flags ∨ flag ∈ more := by
  induction more generalizing flags with
  | nil => simp
  | cons next more ih => rw [List.foldl_cons, ih, mem_add, List.mem_cons, or_assoc]

theorem foldl_add (flags : FlagList) (more : List Flag) :
    more.foldl add flags = flags ++ (more.filter fun flag => flag ∉ flags).eraseDups := by
  induction more generalizing flags with
  | nil => simp
  | cons flag more ih =>
    rw [List.foldl_cons, ih]
    by_cases hf : flag ∈ flags
    · simp [add, hf]
    · have hadd : flags.add flag = flags ++ [flag] := by rw [add, if_neg hf]
      have hfilter : (more.filter fun other => other ∉ flags ++ [flag]) =
          (more.filter fun other => other ∉ flags).filter fun other => !other == flag := by
        rw [List.filter_filter]
        refine List.filter_congr fun other _ => ?_
        by_cases ho : other ∈ flags <;> by_cases he : other = flag <;> simp [ho, he]
      rw [hadd, hfilter, List.filter_cons_of_pos (by simpa using hf), List.eraseDups_cons]
      simp

theorem ofFlags_eq_eraseDups (flags : List Flag) : ofFlags flags = flags.eraseDups := by
  rw [ofFlags, foldl_add, List.nil_append, List.filter_eq_self.2 (by simp)]

/-- A list without repeats is the list of its flags. -/
theorem ofFlags_of_nodup {flags : List Flag} (h : flags.Nodup) : ofFlags flags = flags := by
  rw [ofFlags_eq_eraseDups]
  induction flags with
  | nil => rfl
  | cons flag flags ih =>
    rw [List.nodup_cons] at h
    have hfilter : (flags.filter fun other => !other == flag) = flags := by
      refine List.filter_eq_self.2 fun other ho => ?_
      have hne : other ≠ flag := fun he => h.1 (he ▸ ho)
      simpa using hne
    rw [List.eraseDups_cons, hfilter, ih h.2]

end Synopsis.FlagList
