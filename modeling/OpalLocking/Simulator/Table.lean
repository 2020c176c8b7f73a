/-
Tables of a fixed size, indexed by numbers that may miss them.
-/

namespace OpalLocking.Simulator

variable {α : Type} {n : Nat}

/-- The table with entry `i` changed, if it has such an entry. -/
def modify? (t : Vector α n) (i : Nat) (change : α → α) : Option (Vector α n) :=
  if h : i < n then some (t.set i (change t[i])) else none

theorem modify?_isSome_iff {t : Vector α n} {i : Nat} {change : α → α} :
    (modify? t i change).isSome ↔ i < n := by
  unfold modify?
  split <;> simp_all

theorem exists_modify? {i : Nat} (t : Vector α n) (h : i < n) (change : α → α) : ∃ t', modify? t i change = some t' :=
  Option.isSome_iff_exists.1 (modify?_isSome_iff.2 h)

theorem getElem_of_modify? {t t' : Vector α n} {i j : Nat} {change : α → α} (h : modify? t i change = some t')
    (hj : j < n) : t'[j] = if j = i then change t[j] else t[j] := by
  unfold modify? at h
  split at h
  · cases h
    rw [Vector.getElem_set]
    split
    · next e => subst e; simp
    · next e => rw [if_neg (fun h => e h.symm)]
  · cases h

theorem getElem?_of_modify?_of_ne {t t' : Vector α n} {i j : Nat} {change : α → α} (h : modify? t i change = some t')
    (ne : j ≠ i) : t'[j]? = t[j]? := by
  by_cases hj : j < n
  · rw [Vector.getElem?_eq_getElem hj, Vector.getElem?_eq_getElem hj, getElem_of_modify? h hj, if_neg ne]
  · rw [Vector.getElem?_eq_none (Nat.not_lt.1 hj), Vector.getElem?_eq_none (Nat.not_lt.1 hj)]

end OpalLocking.Simulator
