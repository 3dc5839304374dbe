import Mathlib.Logic.Function.Basic

/-! # Object heaps

Mutable objects that several owners share are cells of a heap, and what an
owner holds is a typed reference. Reads are total: a reference that was never
allocated reads whatever the heap started with.
-/

namespace ConnectSDK

@[ext] structure Ref (Object : Type u) where
  index : Nat

instance : DecidableEq (Ref Object) := fun left right =>
  decidable_of_iff (left.index = right.index) Ref.ext_iff.symm

structure Heap (Object : Type u) where
  size : Nat
  read : Ref Object → Object

namespace Heap

def Allocated (heap : Heap Object) (ref : Ref Object) : Prop :=
  ref.index < heap.size

instance (heap : Heap Object) (ref : Ref Object) :
    Decidable (heap.Allocated ref) :=
  inferInstanceAs (Decidable (ref.index < heap.size))

/-- A heap with nothing allocated. -/
def empty (object : Object) : Heap Object where
  size := 0
  read := fun _ => object

/-- The reference the next allocation returns. -/
def fresh (heap : Heap Object) : Ref Object := ⟨heap.size⟩

def allocate (heap : Heap Object) (object : Object) : Heap Object where
  size := heap.size + 1
  read := Function.update heap.read heap.fresh object

def modify (heap : Heap Object) (ref : Ref Object)
    (change : Object → Object) : Heap Object where
  size := heap.size
  read := Function.update heap.read ref (change (heap.read ref))

@[simp] theorem allocate_size (heap : Heap Object) (object : Object) :
    (heap.allocate object).size = heap.size + 1 := rfl

@[simp] theorem modify_size (heap : Heap Object) (ref : Ref Object)
    (change : Object → Object) : (heap.modify ref change).size = heap.size := rfl

@[simp] theorem read_allocate_fresh (heap : Heap Object) (object : Object) :
    (heap.allocate object).read heap.fresh = object :=
  Function.update_self ..

@[simp] theorem read_modify_self (heap : Heap Object) (ref : Ref Object)
    (change : Object → Object) :
    (heap.modify ref change).read ref = change (heap.read ref) :=
  Function.update_self ..

theorem Allocated.ne_fresh {heap : Heap Object} {ref : Ref Object}
    (allocated : heap.Allocated ref) : ref ≠ heap.fresh := by
  intro equal
  rw [equal] at allocated
  exact Nat.lt_irrefl _ allocated

theorem read_allocate_of_ne {heap : Heap Object} {ref : Ref Object}
    (different : ref ≠ heap.fresh) (object : Object) :
    (heap.allocate object).read ref = heap.read ref :=
  Function.update_of_ne different ..

theorem Allocated.read_allocate {heap : Heap Object} {ref : Ref Object}
    (allocated : heap.Allocated ref) (object : Object) :
    (heap.allocate object).read ref = heap.read ref :=
  read_allocate_of_ne allocated.ne_fresh object

theorem read_modify_of_ne {heap : Heap Object} {ref other : Ref Object}
    (different : other ≠ ref) (change : Object → Object) :
    (heap.modify ref change).read other = heap.read other :=
  Function.update_of_ne different ..

theorem Allocated.allocate {heap : Heap Object} {ref : Ref Object}
    (allocated : heap.Allocated ref) (object : Object) :
    (heap.allocate object).Allocated ref :=
  Nat.lt_succ_of_lt allocated

theorem allocated_fresh (heap : Heap Object) (object : Object) :
    (heap.allocate object).Allocated heap.fresh :=
  Nat.lt_succ_self _

theorem allocated_allocate_iff (heap : Heap Object) (object : Object)
    (ref : Ref Object) :
    (heap.allocate object).Allocated ref ↔
      heap.Allocated ref ∨ ref = heap.fresh := by
  rcases ref with ⟨index⟩
  simp only [Allocated, allocate_size, fresh, Ref.mk.injEq]
  omega

@[simp] theorem allocated_modify_iff (heap : Heap Object) (ref other : Ref Object)
    (change : Object → Object) :
    (heap.modify ref change).Allocated other ↔ heap.Allocated other := Iff.rfl

end Heap

end ConnectSDK
