import Mathlib.Data.List.Infix
import ByteMachine.Proofs.Stepping

/-!
The memory as a list of bytes. Two memories that agree cell by cell on a stretch of addresses have
the same bytes there, and an instruction that is found within the bytes a memory starts with is
found in those bytes alone.
-/
namespace ByteMachine

namespace Memory

theorem getElem?_toList (memory : Memory) (x : UInt8) :
    memory.toList[x.toNat]? = some (memory.get x) := by
  have inside : x.toNat < memory.toList.length := by
    rw [length_toList]
    exact x.toNat_lt
  rw [List.getElem?_eq_getElem inside]
  rfl

theorem drop_toNat (memory : Memory) (x : UInt8) :
    memory.toList.drop x.toNat = memory.get x :: memory.toList.drop (x.toNat + 1) := by
  have here := memory.getElem?_toList x
  obtain ⟨inside, found⟩ := List.getElem?_eq_some_iff.mp here
  rw [List.drop_eq_getElem_cons inside, found]

theorem getElem?_toList_of_le (memory : Memory) {address : Nat} (past : memorySize ≤ address) :
    memory.toList[address]? = none := by
  rw [List.getElem?_eq_none_iff, length_toList]
  exact past

theorem cell_or_past (address : Nat) :
    (∃ x : UInt8, x.toNat = address) ∨ memorySize ≤ address := by
  by_cases inside : address < memorySize
  · exact .inl ⟨UInt8.ofNat address, Nat.mod_eq_of_lt inside⟩
  · exact .inr (Nat.le_of_not_lt inside)

theorem stretch_eq {memory memory' : Memory} {start count : Nat}
    (same : ∀ x : UInt8, start ≤ x.toNat → x.toNat < start + count →
      memory'.get x = memory.get x) :
    (memory'.toList.drop start).take count = (memory.toList.drop start).take count := by
  refine List.ext_getElem? fun k => ?_
  simp only [List.getElem?_take, List.getElem?_drop]
  split
  · obtain ⟨x, here⟩ | past := cell_or_past (start + k)
    · rw [← here, getElem?_toList, getElem?_toList, same x (by omega) (by omega)]
    · rw [getElem?_toList_of_le _ past, getElem?_toList_of_le _ past]
  · rfl

theorem starts_of_same {bytes : List UInt8} {memory memory' : Memory}
    (starts : bytes <+: memory.toList)
    (same : ∀ x : UInt8, x.toNat < bytes.length → memory'.get x = memory.get x) :
    bytes <+: memory'.toList := by
  have kept : (memory'.toList.drop 0).take bytes.length =
      (memory.toList.drop 0).take bytes.length := by
    refine stretch_eq fun x _ before => same x ?_
    rwa [Nat.zero_add] at before
  rw [List.drop_zero, List.drop_zero, ← List.prefix_iff_eq_take.mp starts] at kept
  exact List.prefix_iff_eq_take.mpr kept.symm

theorem get_load (memory : Memory) (image : Image) (x : UInt8) :
    (memory.load image).get x = image.bytes.getD x.toNat (memory.get x) := by
  simp [load, get, cell]

theorem starts_load (memory : Memory) (image : Image) :
    image.bytes <+: (memory.load image).toList := by
  refine List.prefix_iff_eq_take.mpr (List.ext_getElem? fun k => ?_)
  have fits := image.fits
  rw [List.getElem?_take]
  split
  · rename_i before
    have inside : k < memorySize := by omega
    simp [toList, load, before, inside]
  · rename_i past
    exact List.getElem?_eq_none_iff.mpr (Nat.le_of_not_lt past)

end Memory

namespace Instruction

theorem decode_drop_of_starts {bytes cells : List UInt8} {start : Nat} {i : Instruction}
    (starts : bytes <+: cells) (found : decode (cells.drop start) = .ok i)
    (within : start + i.opcode.length ≤ bytes.length) : decode (bytes.drop start) = .ok i := by
  obtain ⟨written, canonical⟩ := decode_eq_ok_iff.mp found
  have rest : bytes.drop start <+: cells.drop start := starts.drop start
  have room : i.encode.length ≤ (bytes.drop start).length := by
    rw [length_encode, List.length_drop]
    omega
  exact decode_eq_ok_iff.mpr ⟨List.prefix_of_prefix_length_le written rest room, canonical⟩

end Instruction

end ByteMachine
