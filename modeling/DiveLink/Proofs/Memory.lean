import DiveLink.Vyper2.Simulator

/-!
# Memory

What is loaded from a memory after something was stored in it.

## Main results

* `Memory.load_eq_map` — a range of memory byte by byte.
* `Memory.getElem?_store` — **storing changes the bytes of the range**, and no others.
* `Memory.store_store`, `Memory.load_store` — storing the next bytes, and loading what was stored.
-/

namespace DiveLink
namespace Memory

variable {memory data more : Bytes} {address : Nat}

/-- A range of memory byte by byte. -/
theorem load_eq_map (memory : Bytes) (address n : Nat) :
    load memory address n = (List.range' address n).map fun a => memory.getD a 0 := by
  refine List.ext_getElem (by rw [length_load, List.length_map, List.length_range']) ?_
  intro i hi hi'
  rw [List.getElem_map, List.getElem_range', Nat.one_mul]
  rw [length_load] at hi
  simp only [load, List.getElem_append]
  split
  · next h =>
    rw [Bytes.length_slice] at h
    simp only [Bytes.slice, List.getElem_take, List.getElem_drop]
    exact List.getElem_eq_getD 0
  · next h =>
    rw [Bytes.length_slice] at h
    rw [List.getElem_replicate, List.getD_eq_getElem?_getD, List.getElem?_eq_none (by omega)]
    rfl

/-- A range inside the memory is a part of it. -/
theorem load_eq_slice {n : Nat} (h : address + n ≤ memory.length) :
    load memory address n = memory.slice address n := by
  rw [load, Bytes.length_slice, Nat.min_eq_left (by omega), Nat.sub_self, List.replicate_zero,
    List.append_nil]

/-- All of the memory. -/
theorem load_all (memory : Bytes) : load memory 0 memory.length = memory := by
  rw [load_eq_slice (by omega), Bytes.slice, List.drop_zero, List.take_length]

@[simp] theorem store_nil (memory : Bytes) (address : Nat) : store memory address [] = memory := by
  simp [store]

/-- What fits into the memory stands between the bytes in front of it and those behind. -/
theorem store_eq (h : address + data.length ≤ memory.length) :
    store memory address data =
      memory.take address ++ (data ++ memory.drop (address + data.length)) := by
  rw [store, List.take_of_length_le (l := data) (by omega), List.append_assoc]

/-- The bytes of the range are those stored, and the others are as before. -/
theorem getElem?_store (h : address + data.length ≤ memory.length) (i : Nat) :
    (store memory address data)[i]? =
      if address ≤ i ∧ i < address + data.length then data[i - address]? else memory[i]? := by
  have hfront : (memory.take address).length = address := by
    rw [List.length_take]
    omega
  rw [store_eq h]
  rcases Nat.lt_or_ge i address with hlt | hge
  · rw [if_neg (by omega), List.getElem?_append_left (by omega), List.getElem?_take_of_lt hlt]
  · rw [List.getElem?_append_right (by omega), hfront]
    rcases Nat.lt_or_ge i (address + data.length) with hin | hout
    · rw [if_pos ⟨hge, hin⟩, List.getElem?_append_left (by omega)]
    · rw [if_neg (by omega), List.getElem?_append_right (by omega), List.getElem?_drop]
      congr 1
      omega

/-- Bytes that are stored behind others are stored with them. -/
theorem store_store (h : address + (data ++ more).length ≤ memory.length) :
    store (store memory address data) (address + data.length) more =
      store memory address (data ++ more) := by
  rw [List.length_append] at h
  refine List.ext_getElem? fun i => ?_
  rw [getElem?_store (by rw [length_store]; omega), getElem?_store (by omega),
    getElem?_store (by rw [List.length_append]; omega), List.length_append]
  rcases Nat.lt_or_ge i (address + data.length) with hlt | hge
  · rw [if_neg (by omega)]
    by_cases ha : address ≤ i
    · rw [if_pos ⟨ha, hlt⟩, if_pos ⟨ha, by omega⟩, List.getElem?_append_left (by omega)]
    · rw [if_neg (by omega), if_neg (by omega)]
  · rw [if_neg (by omega : ¬ (address ≤ i ∧ i < address + data.length))]
    by_cases hm : i < address + data.length + more.length
    · rw [if_pos ⟨hge, hm⟩, if_pos ⟨by omega, by omega⟩, List.getElem?_append_right (by omega)]
      congr 1
      omega
    · rw [if_neg (by omega), if_neg (by omega)]

/-- What was stored is loaded. -/
theorem load_store (h : address + data.length ≤ memory.length) :
    load (store memory address data) address data.length = data := by
  have hfront : (memory.take address).length = address := by
    rw [List.length_take]
    omega
  have hslice : Bytes.slice (store memory address data) address data.length = data := by
    rw [store_eq h, Bytes.slice, List.drop_left' hfront, List.take_left]
  rw [load, hslice, Nat.sub_self, List.replicate_zero, List.append_nil]

end Memory
end DiveLink
