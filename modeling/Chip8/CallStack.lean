/-! Return addresses: sixteen slots and a pointer to the next free one. The pointer is any
word of 32 bits and wraps, so every push and pop has a meaning: a slot index below zero counts
from the end once, reads outside the slots see the nearest one and writes outside are dropped. -/
namespace Chip8

/-- Number of return addresses that fit. -/
def stackSize : Nat := 16

structure CallStack where
  slots : Vector UInt16 stackSize
  pointer : Int32
deriving DecidableEq

namespace CallStack

def empty : CallStack := ⟨.replicate stackSize 0, 0⟩

instance : Inhabited CallStack := ⟨empty⟩

/-- Number of addresses that the pointer says are in use. -/
def depth (s : CallStack) : Int := s.pointer.toInt

/-- The slot an index names, which may still lie outside the slots. -/
def slotIndex (i : Int32) : Int :=
  if i.toInt < 0 then i.toInt + stackSize else i.toInt

def read (s : CallStack) (i : Int32) : UInt16 :=
  have within : min (slotIndex i).toNat (stackSize - 1) < stackSize := by unfold stackSize; omega
  s.slots[min (slotIndex i).toNat (stackSize - 1)]

def write (s : CallStack) (i : Int32) (w : UInt16) : CallStack :=
  if 0 ≤ slotIndex i then { s with slots := s.slots.setIfInBounds (slotIndex i).toNat w } else s

def push (s : CallStack) (w : UInt16) : CallStack :=
  { s.write s.pointer w with pointer := s.pointer + 1 }

/-- The freed slot is zeroed. -/
def pop (s : CallStack) : CallStack :=
  { s.write (s.pointer - 1) 0 with pointer := s.pointer - 1 }

/-- The address that `pop` frees. -/
def top (s : CallStack) : UInt16 := s.read (s.pointer - 1)

/-- The addresses in use, oldest first. A negative pointer leaves out slots at the end. -/
def toList (s : CallStack) : List UInt16 :=
  s.slots.toList.take (if s.depth < 0 then (s.depth + stackSize).toNat else s.depth.toNat)

/-- The stack that holds the given addresses. -/
def ofList (ws : List UInt16) : CallStack :=
  ⟨.ofFn fun i => ws.getD i 0, Int32.ofNat ws.length⟩

theorem slotIndex_of_nonneg {i : Int32} (h : 0 ≤ i.toInt) : slotIndex i = i.toInt := by
  unfold slotIndex
  omega

@[simp] theorem pointer_push (s : CallStack) (w : UInt16) : (s.push w).pointer = s.pointer + 1 := rfl

@[simp] theorem pointer_pop (s : CallStack) : s.pop.pointer = s.pointer - 1 := rfl

theorem depth_push {s : CallStack} (w : UInt16) (low : 0 ≤ s.depth) (room : s.depth < stackSize) :
    (s.push w).depth = s.depth + 1 := by
  unfold depth stackSize at *
  rw [pointer_push, Int32.toInt_add]
  simp only [Int32.reduceToInt, Int.bmod]
  omega

theorem depth_pop {s : CallStack} (used : 1 ≤ s.depth) (full : s.depth ≤ stackSize) :
    s.pop.depth = s.depth - 1 := by
  unfold depth stackSize at *
  rw [pointer_pop, Int32.toInt_sub]
  simp only [Int32.reduceToInt, Int.bmod]
  omega

/-- A push onto a stack with room changes the slot at the pointer. -/
theorem slots_push {s : CallStack} (w : UInt16) (low : 0 ≤ s.depth) :
    (s.push w).slots = s.slots.setIfInBounds s.depth.toNat w := by
  unfold depth at *
  simp [push, write, slotIndex_of_nonneg low, low]

/-- A pop from a stack that holds something zeroes the slot below the pointer. -/
theorem slots_pop {s : CallStack} (used : 1 ≤ s.depth) (full : s.depth ≤ stackSize) :
    s.pop.slots = s.slots.setIfInBounds (s.depth - 1).toNat 0 := by
  have index : (s.pointer - 1).toInt = s.depth - 1 := depth_pop used full
  have low : 0 ≤ (s.pointer - 1).toInt := by omega
  simp only [pop, write, slotIndex_of_nonneg low, index]
  rw [if_pos (by omega)]

/-- The address on top lies in the slot below the pointer. -/
theorem top_eq {s : CallStack} (used : 1 ≤ s.depth) (full : s.depth ≤ stackSize) :
    s.top = s.slots.get ⟨s.depth.toNat - 1, by omega⟩ := by
  have index : slotIndex (s.pointer - 1) = s.depth - 1 := by
    have below : (s.pointer - 1).toInt = s.depth - 1 := depth_pop used full
    rw [slotIndex_of_nonneg (by omega), below]
  have clamp : min (s.depth - 1).toNat (stackSize - 1) = s.depth.toNat - 1 := by omega
  simp only [top, read, index, clamp]
  rfl

theorem top_push {s : CallStack} (w : UInt16) (low : 0 ≤ s.depth) (room : s.depth < stackSize) :
    (s.push w).top = w := by
  have index : min s.depth.toNat (stackSize - 1) = s.depth.toNat := by omega
  have within : s.depth.toNat < stackSize := by omega
  have start : slotIndex s.pointer = s.depth := slotIndex_of_nonneg low
  have back : s.pointer + 1 - 1 = s.pointer := Int32.add_sub_cancel _ _
  simp only [top, read, pointer_push, back, start, slots_push w low, index]
  simp

/-- Taking off what was put on restores the slots too, if the one that was used was zero. -/
theorem pop_push {s : CallStack} (w : UInt16) (low : 0 ≤ s.depth) (room : s.depth < stackSize)
    (free : s.slots[s.depth.toNat] = 0) : (s.push w).pop = s := by
  have depth : (s.push w).depth = s.depth + 1 := depth_push w low room
  have slots : (s.push w).pop.slots = s.slots := by
    rw [slots_pop (by omega) (by omega), slots_push w low, depth, Int.add_sub_cancel]
    refine Vector.ext fun i within => ?_
    rw [Vector.getElem_setIfInBounds within, Vector.getElem_setIfInBounds within]
    split
    · next same => simpa only [same] using free.symm
    · rfl
  have pointer : (s.push w).pop.pointer = s.pointer := Int32.add_sub_cancel _ _
  exact congr (congrArg mk slots) pointer

section Lists
variable {ws : List UInt16}

theorem getElem_slots_ofList {i : Nat} (within : i < stackSize) :
    (ofList ws).slots[i] = ws[i]?.getD 0 := by
  simp [ofList]

theorem depth_ofList (fits : ws.length ≤ stackSize) : (ofList ws).depth = ws.length := by
  unfold stackSize at fits
  exact Int32.toInt_ofNat_of_lt (by omega)

theorem toList_ofList (fits : ws.length ≤ stackSize) : (ofList ws).toList = ws := by
  have depth : (ofList ws).depth = ws.length := depth_ofList fits
  have used : ¬ (ofList ws).depth < 0 := by omega
  have taken : (ofList ws).toList = (ofList ws).slots.toList.take ws.length := by
    rw [toList, if_neg used, depth, Int.toNat_natCast]
  rw [taken]
  refine List.ext_getElem (by simp [fits]) fun i inside within => ?_
  have slot : i < stackSize := Nat.lt_of_lt_of_le within fits
  simp [getElem_slots_ofList slot, within]

theorem push_ofList (w : UInt16) (room : ws.length < stackSize) :
    (ofList ws).push w = ofList (ws ++ [w]) := by
  have depth : (ofList ws).depth = ws.length := depth_ofList (Nat.le_of_lt room)
  have slots : ((ofList ws).push w).slots = (ofList (ws ++ [w])).slots := by
    rw [slots_push w (by omega), depth, Int.toNat_natCast]
    refine Vector.ext fun i within => ?_
    rw [Vector.getElem_setIfInBounds within, getElem_slots_ofList within,
      getElem_slots_ofList within, List.getElem?_append]
    rcases Nat.lt_trichotomy i ws.length with below | rfl | above
    · rw [if_neg (Nat.ne_of_gt below), if_pos below]
    · simp
    · have past : [w][i - ws.length]? = none := List.getElem?_eq_none (by simp; omega)
      rw [if_neg (Nat.ne_of_lt above), if_neg (Nat.lt_asymm above), past,
        List.getElem?_eq_none (Nat.le_of_lt above)]
  have pointer : ((ofList ws).push w).pointer = (ofList (ws ++ [w])).pointer := by
    simp [ofList, Int32.ofNat_add]
  exact congr (congrArg mk slots) pointer

theorem pop_ofList (w : UInt16) (room : ws.length < stackSize) :
    (ofList (ws ++ [w])).pop = ofList ws := by
  have depth : (ofList ws).depth = ws.length := depth_ofList (Nat.le_of_lt room)
  have free : (ofList ws).slots[(ofList ws).depth.toNat] = 0 := by
    simp [getElem_slots_ofList, depth]
  rw [← push_ofList w room, pop_push w (by omega) (by omega) free]

theorem top_ofList (w : UInt16) (room : ws.length < stackSize) : (ofList (ws ++ [w])).top = w := by
  have depth : (ofList ws).depth = ws.length := depth_ofList (Nat.le_of_lt room)
  rw [← push_ofList w room, top_push w (by omega) (by omega)]

end Lists

end CallStack
end Chip8
