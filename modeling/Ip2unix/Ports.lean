import Mathlib.Logic.Function.Basic

/-!
# Ip2unix — the ephemeral port pool

Each `Socket` owns a pool of fake ports, its field `ports`. The pool's source is not among
the sources; §4.C describes it and this module models it from there. A pool is the list of
ports it has reserved. `reserve` marks a port, idempotently. `acquire` hands out the port
a `Pool` policy picks and reserves it when it is a free port of the range; a policy is
`Valid` when it picks a free port of `[lo, hi]` as long as one is left, and on exhaustion
it may return any sentinel, which reserves nothing. `socket.cc` never releases a port.

Theorems about a pool assume no more than `Pool.Valid`, so they hold of every pool that
behaves as §4.C says; `Pool.firstFit` is one, used to evaluate concrete runs.
-/

namespace Ip2unix

/-- The range of a pool and the port it picks, given the ports already reserved. -/
structure Pool where
  lo : Nat
  hi : Nat
  pick : List Nat → Nat

/-- A port of the range that is not reserved yet. -/
def Pool.Free (pool : Pool) (r : List Nat) (port : Nat) : Prop :=
  pool.lo ≤ port ∧ port ≤ pool.hi ∧ port ∉ r

instance (pool : Pool) (r : List Nat) (port : Nat) : Decidable (pool.Free r port) :=
  inferInstanceAs (Decidable (_ ∧ _ ∧ _))

/-- The policy follows §4.C: while a port of `[lo, hi]` is left, it picks one. -/
def Pool.Valid (pool : Pool) : Prop :=
  ∀ r : List Nat, (∃ p, pool.Free r p) → pool.Free r (pool.pick r)

/-- The first free port from `lo` upwards, and `0` once the range is used up. -/
def Pool.firstFit (lo hi : Nat) : Pool where
  lo := lo
  hi := hi
  pick r := ((List.range' lo (hi + 1 - lo)).find? (· ∉ r)).getD 0

theorem Pool.firstFit_valid (lo hi : Nat) : (Pool.firstFit lo hi).Valid := by
  rintro r ⟨p, hlo, hhi, hp⟩
  change lo ≤ p at hlo
  change p ≤ hi at hhi
  have hsome : ((List.range' lo (hi + 1 - lo)).find? (· ∉ r)).isSome :=
    List.find?_isSome.2 ⟨p, List.mem_range'_1.2 ⟨hlo, by omega⟩, by simpa using hp⟩
  obtain ⟨q, hq⟩ := Option.isSome_iff_exists.1 hsome
  have hmem := List.mem_range'_1.1 (List.mem_of_find?_eq_some hq)
  have hfree : q ∉ r := by simpa using List.find?_some hq
  simp only [Pool.Free, Pool.firstFit, hq, Option.getD_some]
  exact ⟨hmem.1, by omega, hfree⟩

/-- Every port of the range is reserved. -/
def Pool.exhausted (pool : Pool) (r : List Nat) : Bool :=
  (List.range' pool.lo (pool.hi + 1 - pool.lo)).all (· ∈ r)

theorem Pool.exhausted_iff (pool : Pool) (r : List Nat) :
    pool.exhausted r = true ↔ ¬ ∃ p, pool.Free r p := by
  simp only [Pool.exhausted, List.all_eq_true, List.mem_range'_1, decide_eq_true_eq, Pool.Free,
    not_exists, not_and, not_not]
  constructor
  · intro h p h1 h2
    exact h p ⟨h1, by omega⟩
  · rintro h p ⟨h1, h2⟩
    exact h p h1 (by omega)

/-- The ports a pool has reserved. -/
structure Ports where
  reserved : List Nat
  deriving DecidableEq, Repr

namespace Ports

/-- A pool that has reserved nothing. -/
def empty : Ports := ⟨[]⟩

/-- `reserve`: mark `port`, once. -/
def reserve (port : Nat) (ports : Ports) : Ports :=
  if port ∈ ports.reserved then ports else ⟨port :: ports.reserved⟩

/-- `acquire`: the port the policy picks, reserved when it is a free one. -/
def acquire (pool : Pool) (ports : Ports) : Nat × Ports :=
  let port := pool.pick ports.reserved
  if pool.Free ports.reserved port then (port, ⟨port :: ports.reserved⟩) else (port, ports)

@[simp] theorem acquire_fst (pool : Pool) (ports : Ports) :
    (ports.acquire pool).1 = pool.pick ports.reserved := by
  simp only [acquire]; split <;> rfl

theorem mem_reserve (port : Nat) (ports : Ports) : port ∈ (ports.reserve port).reserved := by
  unfold reserve; split <;> simp_all

theorem reserved_subset_reserve (port : Nat) (ports : Ports) :
    ports.reserved ⊆ (ports.reserve port).reserved := by
  unfold reserve; split <;> simp

theorem reserved_subset_acquire (pool : Pool) (ports : Ports) :
    ports.reserved ⊆ (ports.acquire pool).2.reserved := by
  simp only [acquire]; split <;> simp

/-- **Acquiring from a pool with a free port left.** A valid policy hands out a free port
of the range and reserves it. -/
theorem acquire_of_free {pool : Pool} (hv : pool.Valid) {ports : Ports}
    (hfree : ∃ p, pool.Free ports.reserved p) :
    pool.Free ports.reserved (ports.acquire pool).1 ∧
      (ports.acquire pool).2.reserved = (ports.acquire pool).1 :: ports.reserved := by
  have h := hv _ hfree
  simp only [acquire, if_pos h, and_true]
  exact h

/-- On an exhausted pool `acquire` reserves nothing. -/
theorem acquire_of_exhausted {pool : Pool} {ports : Ports}
    (hex : ¬ ∃ p, pool.Free ports.reserved p) : (ports.acquire pool).2 = ports := by
  have h : ¬ pool.Free ports.reserved (pool.pick ports.reserved) := fun h => hex ⟨_, h⟩
  simp only [acquire, if_neg h]

end Ports

end Ip2unix
