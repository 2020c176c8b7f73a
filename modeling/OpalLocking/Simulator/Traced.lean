/-
Computations on tables and key blocks, with the accesses that they make.

Tables are indexed by words of the parameter block, so a look-up can in principle miss its table, and a block says
itself how long its key is. A computation notes each place that it comes to; one that misses its table ends there
without an outcome.
-/
import OpalLocking.Block
import OpalLocking.Simulator.Table

namespace OpalLocking.Simulator

/-- A place that a computation comes to: the first bytes of a key block, or the entry of a table at an index. -/
inductive Access
  | keyBytes (length : Nat)
  | user (index : Nat)
  | readGrant (index : Nat)
  | writeGrant (index : Nat)
  | range (index : Nat)
deriving DecidableEq

/-- A computation with its accesses, in order, and its outcome, unless it missed a table. -/
structure Traced (α : Type) where
  accesses : List Access
  outcome : Option α

namespace Traced

variable {α β : Type} {n : Nat}

instance : Monad Traced where
  pure value := ⟨[], some value⟩
  bind x f :=
    match x.outcome with
    | none => ⟨x.accesses, none⟩
    | some value => ⟨x.accesses ++ (f value).accesses, (f value).outcome⟩

/-- The entry of a table. -/
def entry (table : Vector α n) (place : Nat → Access) (i : Nat) : Traced α :=
  ⟨[place i], table[i]?⟩

/-- The table with an entry changed. -/
def modify (table : Vector α n) (place : Nat → Access) (i : Nat) (change : α → α) : Traced (Vector α n) :=
  ⟨[place i], modify? table i change⟩

/-- The key in a block: as many of its bytes as the block says. -/
def key (k : KeyBlock) : Traced Secret :=
  ⟨[.keyBytes k.length.toNat], if k.length.toNat ≤ 256 then some k.content else none⟩

/-! ## Outcomes -/

@[simp] theorem outcome_pure (value : α) : (pure value : Traced α).outcome = some value := rfl

@[simp] theorem outcome_bind (x : Traced α) (f : α → Traced β) :
    (x >>= f).outcome = x.outcome.bind fun value => (f value).outcome := by
  show (match x.outcome with | none => _ | some value => _ : Traced β).outcome = _
  cases x.outcome <;> rfl

theorem accesses_bind (x : Traced α) (f : α → Traced β) :
    (x >>= f).accesses = x.accesses ++ (x.outcome.map fun value => (f value).accesses).getD [] := by
  show (match x.outcome with | none => _ | some value => _ : Traced β).accesses = _
  cases x.outcome with
  | none => exact (List.append_nil _).symm
  | some value => rfl

theorem outcome_bind_eq_some_iff {x : Traced α} {f : α → Traced β} {value : β} :
    (x >>= f).outcome = some value ↔ ∃ a, x.outcome = some a ∧ (f a).outcome = some value := by
  rw [outcome_bind, Option.bind_eq_some_iff]

@[simp] theorem outcome_ite {p : Prop} [Decidable p] (x y : Traced α) :
    (if p then x else y).outcome = if p then x.outcome else y.outcome :=
  apply_ite outcome p x y

@[simp] theorem outcome_entry (table : Vector α n) (place : Nat → Access) (i : Nat) :
    (entry table place i).outcome = table[i]? := rfl

@[simp] theorem outcome_modify (table : Vector α n) (place : Nat → Access) (i : Nat) (change : α → α) :
    (modify table place i change).outcome = modify? table i change := rfl

/-- The length of a key is a single byte, and a block has room for more. -/
theorem length_le (k : KeyBlock) : k.length.toNat ≤ 256 :=
  Nat.le_of_lt k.length.toNat_lt

@[simp] theorem outcome_key (k : KeyBlock) : (key k).outcome = some k.content := if_pos (length_le k)

end Traced

end OpalLocking.Simulator
