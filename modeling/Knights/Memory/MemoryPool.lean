import Knights.Lib.Machine
import Mathlib.Algebra.Group.Nat.Defs
import Mathlib.Data.List.Nodup

namespace Knights.Memory

open Knights.Lib List

/-!
# Memory — the pool of fixed blocks

`MemoryPool` (`core/src/memory/memory_pool.cpp`) under any sequence of `Acquire` and `Release`.

* `handed_out_once` — as long as only held blocks are released, whatever else `Release` is given, no
  block is handed out twice and none is twice in the free list;
* `released_twice` — `Release` does not know who holds what: a block released twice is handed
  out twice.
-/

/-- Blocks of `blockSize` bytes from the address `chunk` on, and the stack of the free ones.  An
    address is a number, `nullptr` is 0. -/
structure MemoryPool where
  blockSize : ℕ
  blockCount : ℕ
  chunk : ℕ
  chunkSize : ℕ
  freeList : List ℕ
  deriving DecidableEq, Repr

namespace MemoryPool

/-- The constructor, with the memory at `chunk`.  Sizes and addresses have 64 bits. -/
def create (chunk blockSize blockCount : ℕ) : MemoryPool :=
  if blockSize = 0 ∨ blockCount = 0 then ⟨blockSize, 0, chunk, 0, []⟩
  else ⟨blockSize, blockCount, chunk, blockSize * blockCount % 2 ^ 64,
    ((range blockCount).map fun i => (chunk + i * blockSize) % 2 ^ 64).reverse⟩

/-- `Acquire`: the top of the stack, or `nullptr`. -/
def acquire (pool : MemoryPool) : MemoryPool × Option ℕ :=
  ({ pool with freeList := pool.freeList.tail }, pool.freeList.head?)

/-- `Release`: null, foreign and misaligned pointers are ignored, and any pointer while the list
    is full. -/
def release (pool : MemoryPool) (ptr : ℕ) : MemoryPool :=
  if ptr = 0 then pool
  else if pool.chunkSize = 0 ∨ pool.blockSize = 0 ∨ pool.blockCount = 0 then pool
  else if ptr < pool.chunk ∨ pool.chunk + pool.chunkSize ≤ ptr then pool
  else if (ptr - pool.chunk) % pool.blockSize ≠ 0 then pool
  else if pool.blockCount ≤ pool.freeList.length then pool
  else { pool with freeList := ptr :: pool.freeList }

inductive Call where
  | acquire
  | release (ptr : ℕ)
  deriving DecidableEq, Repr

/-- A pool under calls, with the blocks that were handed out and not released since. -/
def machine : Machine (MemoryPool × List ℕ) Call (Option ℕ) where
  step s
    | .acquire => ((s.1.acquire.1, s.1.acquire.2.toList ++ s.2), s.1.acquire.2)
    | .release ptr => ((s.1.release ptr, s.2.filter (· ≠ ptr)), none)

/-- A released block is held; what is not a block of the pool may be anything. -/
def Owned (s : MemoryPool × List ℕ) : Call → Prop
  | .acquire => True
  | .release ptr => s.1.chunk ≤ ptr ∧ ptr < s.1.chunk + s.1.chunkSize ∧
      (ptr - s.1.chunk) % s.1.blockSize = 0 → ptr ∈ s.2

instance (s : MemoryPool × List ℕ) : ∀ c, Decidable (Owned s c)
  | .acquire => isTrue trivial
  | .release _ => inferInstanceAs (Decidable (_ → _))

/-- The free blocks differ from each other and from those held. -/
def Exclusive (s : MemoryPool × List ℕ) : Prop :=
  s.1.freeList.Nodup ∧ ∀ ptr ∈ s.2, ptr ∉ s.1.freeList

variable {chunk blockSize blockCount : ℕ} {s : MemoryPool × List ℕ}

theorem exclusive_create (hfits : chunk + blockSize * blockCount ≤ 2 ^ 64) :
    Exclusive (create chunk blockSize blockCount, []) := by
  refine ⟨?_, by simp⟩
  unfold create
  split_ifs with hzero
  · exact nodup_nil
  · have hpos : 0 < blockSize := by omega
    -- in a chunk that fits, the addresses do not wrap
    have hbelow : ∀ i ∈ range blockCount, chunk + i * blockSize < 2 ^ 64 := fun i hi => by
      have := Nat.mul_lt_mul_of_pos_right (mem_range.mp hi) hpos
      rw [Nat.mul_comm blockCount] at this
      omega
    refine nodup_reverse.mpr (nodup_range.map_on fun i hi j hj hij => ?_)
    rw [Nat.mod_eq_of_lt (hbelow i hi), Nat.mod_eq_of_lt (hbelow j hj)] at hij
    exact Nat.eq_of_mul_eq_mul_right hpos (Nat.add_left_cancel hij)

/-- A release either changes nothing or puts a held block on the stack. -/
theorem release_eq {ptr : ℕ} (hown : Owned s (.release ptr)) : s.1.release ptr = s.1 ∨
      ptr ∈ s.2 ∧ s.1.release ptr = { s.1 with freeList := ptr :: s.1.freeList } := by
  unfold release
  split_ifs with hnull hempty hrange halign
  all_goals try exact Or.inl rfl
  exact Or.inr ⟨hown ⟨by omega, by omega, not_not.mp halign⟩, rfl⟩

theorem Exclusive.next {c : Call} (h : Exclusive s) (hown : Owned s c) :
    Exclusive (machine.next s c) := by
  obtain ⟨hnodup, hheld⟩ := h
  cases c with
  | acquire =>
    show s.1.freeList.tail.Nodup ∧ ∀ ptr ∈ s.1.freeList.head?.toList ++ s.2, ptr ∉ s.1.freeList.tail
    cases hfree : s.1.freeList <;> simp_all
  | release ptr =>
    show Exclusive (s.1.release ptr, s.2.filter (· ≠ ptr))
    obtain heq | ⟨hmem, heq⟩ := release_eq hown <;> rw [heq]
    · exact ⟨hnodup, fun q hq => hheld q (mem_of_mem_filter hq)⟩
    · refine ⟨nodup_cons.mpr ⟨hheld ptr hmem, hnodup⟩, fun q hq => ?_⟩
      obtain ⟨hq, hne⟩ := mem_filter.mp hq
      exact not_mem_cons_of_ne_of_not_mem (by simpa using hne) (hheld q hq)

/-- What a call hands out was in the free list. -/
theorem mem_freeList_of_output {c : Call} {ptr : ℕ} (hout : (machine.step s c).2 = some ptr) :
    ptr ∈ s.1.freeList := by
  cases c with
  | acquire => exact mem_of_mem_head? hout
  | release => cases hout

/-- **Exclusivity.** In a chunk that fits into the address space, while every block that is
    released is held, the free list never has a block twice, and no block is handed out that is
    still held. -/
theorem handed_out_once {calls : List Call} (hfits : chunk + blockSize * blockCount ≤ 2 ^ 64)
    (hown : machine.Guarded Owned (create chunk blockSize blockCount, []) calls) :
    (machine.run (create chunk blockSize blockCount, []) calls).1.freeList.Nodup ∧
      ∀ e ∈ machine.trace (create chunk blockSize blockCount, []) calls, ∀ ptr,
        e.output = some ptr → ptr ∉ e.pre.2 := by
  have hrun : ∀ past, machine.Guarded Owned (create chunk blockSize blockCount, []) past →
      Exclusive (machine.run (create chunk blockSize blockCount, []) past) := fun past =>
    machine.guarded_invariant Exclusive Owned (fun _ _ => Exclusive.next) (exclusive_create hfits)
  refine ⟨(hrun calls hown).1, fun e he ptr hout hmem => ?_⟩
  obtain ⟨past, rest, rfl, hpre, hstep⟩ := machine.mem_trace.mp he
  have hfree := (hrun past ((machine.guarded_append ..).mp hown).1).2 ptr
  rw [← hpre] at hfree
  exact hfree hmem (mem_freeList_of_output (hstep ▸ hout))

/-- Released once each, with a foreign and a misaligned pointer in between. -/
theorem handed_out_once_returned :
    (machine.run (create 4096 64 2, []) [.acquire, .acquire, .release 4096, .release 9,
      .release 4100, .acquire, .release 4160]).1.freeList.Nodup :=
  (handed_out_once (by decide) (by decide)).1

/-- **A block released twice.** With one of two blocks held, the other passes every check of
    `Release` again: it is twice in the free list and goes to two holders. -/
theorem released_twice : (machine.run (create 4096 64 2, [])
        [.acquire, .acquire, .release 4096, .release 4096]).1.freeList = [4096, 4096] ∧
      (machine.trace (create 4096 64 2, []) [.acquire, .acquire, .release 4096, .release 4096,
        .acquire, .acquire]).map (fun e => (e.pre.2, e.output)) =
        [([], some 4160), ([4160], some 4096), ([4096, 4160], none), ([4160], none),
          ([4160], some 4096), ([4096, 4160], some 4096)] := by
  decide

end MemoryPool

end Knights.Memory
