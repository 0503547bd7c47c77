import Mathlib.Data.List.Induction
import ByteMachine.Host.Request

/-!
Memory and registers as stores of bytes that are asked by number. Over any history of requests a
cell holds what was put there last, an access out of range is refused by its own number and changes
nothing, and loading an image is writing its bytes one at a time.
-/
namespace ByteMachine

class Store (σ : Type) where
  size : Nat
  outOfRange : Nat → Access → Fault
  read : σ → Nat → Except Fault UInt8
  write : σ → Nat → UInt8 → Except Fault σ
  Whole : Type
  bytes : Whole → List UInt8
  load : σ → Whole → σ

inductive StoreRequest (ι : Type) where
  | read (index : Nat)
  | write (index : Nat) (value : UInt8)
  | load (whole : ι)

namespace Store

variable {σ : Type} [Store σ]

def serve (s : σ) : StoreRequest (Whole σ) → σ × Reply
  | .read index => (s, .byte (read s index))
  | .write index value =>
    match write s index value with
    | .ok s' => (s', .done (.ok ()))
    | .error fault => (s, .done (.error fault))
  | .load whole => (load s whole, .done (.ok ()))

def after (s : σ) (past : List (StoreRequest (Whole σ))) : σ :=
  past.foldl (fun s request => (serve s request).1) s

def put? (index : Nat) : StoreRequest (Whole σ) → Option UInt8
  | .read _ => none
  | .write target value => if target = index then some value else none
  | .load whole => (bytes whole)[index]?

/-- The byte that a history has put in a cell last, or else what was there at first. -/
def latest (initial : Nat → UInt8) (past : List (StoreRequest (Whole σ))) (index : Nat) : UInt8 :=
  (past.filterMap (put? index)).getLast?.getD (initial index)

def Misses : StoreRequest (Whole σ) → Prop
  | .read index | .write index _ => size σ ≤ index
  | .load _ => False

def due (initial : Nat → UInt8) (past : List (StoreRequest (Whole σ))) :
    StoreRequest (Whole σ) → Reply
  | .read index =>
    .byte (if index < size σ then .ok (latest initial past index)
      else .error (outOfRange σ index .read))
  | .write index _ =>
    .done (if index < size σ then .ok () else .error (outOfRange σ index .write))
  | .load _ => .done (.ok ())

/-- After every history each request gets the reply that is due, and one that misses the store
changes nothing. -/
structure Faithful (start : σ) (initial : Nat → UInt8) : Prop where
  answered : ∀ past request, (serve (after start past) request).2 = due initial past request
  unchanged : ∀ past request, Misses request →
    (serve (after start past) request).1 = after start past

end Store

class LawfulStore (σ : Type) [Store σ] : Prop where
  read_inside (s : σ) {index : Nat} (inside : index < Store.size σ) :
    ∃ value, Store.read s index = .ok value
  read_outside (s : σ) {index : Nat} (outside : Store.size σ ≤ index) :
    Store.read s index = .error (Store.outOfRange σ index .read)
  write_inside (s : σ) {index : Nat} (value : UInt8) (inside : index < Store.size σ) :
    ∃ s', Store.write s index value = .ok s' ∧
      ∀ other < Store.size σ,
        Store.read s' other = if index = other then .ok value else Store.read s other
  write_outside (s : σ) {index : Nat} (value : UInt8) (outside : Store.size σ ≤ index) :
    Store.write s index value = .error (Store.outOfRange σ index .write)
  read_load (s : σ) (whole : Store.Whole σ) {index : Nat} (inside : index < Store.size σ) :
    Store.read (Store.load s whole) index =
      (Store.bytes whole)[index]?.elim (Store.read s index) .ok

namespace Store

variable {σ : Type} [Store σ] [LawfulStore σ] {start : σ} {initial : Nat → UInt8} {index : Nat}

theorem read_serve (s : σ) (request : StoreRequest (Whole σ)) (inside : index < size σ) :
    read (serve s request).1 index = (put? index request).elim (read s index) .ok := by
  cases request with
  | read target => rfl
  | load whole => exact LawfulStore.read_load s whole inside
  | write target value =>
    by_cases found : target < size σ
    · obtain ⟨s', written, holds⟩ := LawfulStore.write_inside s value found
      simp only [serve, written, put?, holds index inside]
      split <;> rfl
    · have other : target ≠ index := by omega
      have refused := LawfulStore.write_outside s value (Nat.le_of_not_lt found)
      simp only [serve, refused, put?, if_neg other]
      rfl

omit [LawfulStore σ] in
theorem after_append (s : σ) (past : List (StoreRequest (Whole σ)))
    (request : StoreRequest (Whole σ)) :
    after s (past ++ [request]) = (serve (after s past) request).1 := by
  simp only [after, List.foldl_append, List.foldl_cons, List.foldl_nil]

theorem read_after (starts : ∀ index < size σ, read start index = .ok (initial index))
    (past : List (StoreRequest (Whole σ))) (inside : index < size σ) :
    read (after start past) index = .ok (latest initial past index) := by
  induction past using List.reverseRecOn with
  | nil => exact starts index inside
  | append_singleton past request ih =>
    rw [after_append, read_serve _ _ inside, ih, latest, latest, List.filterMap_append,
      List.filterMap_cons]
    cases put? index request with
    | none => simp
    | some value => simp

theorem serve_of_misses (s : σ) {request : StoreRequest (Whole σ)} (misses : Misses request) :
    (serve s request).1 = s := by
  cases request with
  | read target => rfl
  | load whole => exact misses.elim
  | write target value => simp only [serve, LawfulStore.write_outside s value misses]

theorem reply_serve (starts : ∀ index < size σ, read start index = .ok (initial index))
    (past : List (StoreRequest (Whole σ))) (request : StoreRequest (Whole σ)) :
    (serve (after start past) request).2 = due initial past request := by
  cases request with
  | load whole => rfl
  | read index =>
    by_cases inside : index < size σ
    · simp only [serve, due, if_pos inside, read_after starts past inside]
    · have refused := LawfulStore.read_outside (after start past) (Nat.le_of_not_lt inside)
      simp only [serve, due, if_neg inside, refused]
  | write index value =>
    by_cases inside : index < size σ
    · obtain ⟨s', written, -⟩ := LawfulStore.write_inside (after start past) value inside
      simp only [serve, due, if_pos inside, written]
    · have refused := LawfulStore.write_outside (after start past) value (Nat.le_of_not_lt inside)
      simp only [serve, due, if_neg inside, refused]

theorem faithful_of_starts (starts : ∀ index < size σ, read start index = .ok (initial index)) :
    Faithful start initial where
  answered := reply_serve starts
  unchanged _ _ := serve_of_misses _

end Store

namespace Memory

variable {memory : Memory} {address : Nat}

instance : Store Memory where
  size := memorySize
  outOfRange := .addressOutOfRange
  read := read
  write := write
  Whole := Image
  bytes := Image.bytes
  load := load

theorem read_of_lt (memory : Memory) (inside : address < memorySize) :
    memory.read address = .ok memory.cells[address] := dif_pos inside

theorem read_of_le (memory : Memory) (outside : memorySize ≤ address) :
    memory.read address = .error (.addressOutOfRange address .read) :=
  dif_neg (Nat.not_lt.mpr outside)

theorem write_of_lt (memory : Memory) (value : UInt8) (inside : address < memorySize) :
    memory.write address value = .ok ⟨memory.cells.set address value⟩ := dif_pos inside

theorem write_of_le (memory : Memory) (value : UInt8) (outside : memorySize ≤ address) :
    memory.write address value = .error (.addressOutOfRange address .write) :=
  dif_neg (Nat.not_lt.mpr outside)

theorem read_set (memory : Memory) (value : UInt8) (inside : address < memorySize) {other : Nat}
    (inside' : other < memorySize) :
    read ⟨memory.cells.set address value⟩ other =
      if address = other then .ok value else memory.read other := by
  rw [read_of_lt _ inside', read_of_lt _ inside', Vector.getElem_set]
  split <;> rfl

theorem read_load (memory : Memory) (image : Image) (inside : address < memorySize) :
    (memory.load image).read address =
      image.bytes[address]?.elim (memory.read address) .ok := by
  rw [read_of_lt _ inside, read_of_lt _ inside]
  simp only [load, Vector.getElem_ofFn, List.getD_eq_getElem?_getD]
  cases image.bytes[address]? with
  | none => rfl
  | some byte => rfl

instance : LawfulStore Memory where
  read_inside memory _ inside := ⟨_, read_of_lt memory inside⟩
  read_outside memory _ outside := read_of_le memory outside
  write_inside memory _ value inside :=
    ⟨_, write_of_lt memory value inside, fun _ inside' => read_set memory value inside inside'⟩
  write_outside memory _ value outside := write_of_le memory value outside
  read_load memory image _ inside := read_load memory image inside

theorem ext_read {memory memory' : Memory}
    (same : ∀ address < memorySize, memory.read address = memory'.read address) :
    memory = memory' := by
  apply ext_get
  intro address
  have alike := same address.toNat address.toNat_lt
  rw [read_toNat, read_toNat] at alike
  exact Except.ok.inj alike

def writeFrom (memory : Memory) (start : Nat) (bytes : List UInt8) : Except Fault Memory :=
  (bytes.zipIdx start).foldlM (fun memory (byte, address) => memory.write address byte) memory

theorem writeFrom_append {memory written : Memory} {start : Nat} {front : List UInt8}
    (taken : memory.writeFrom start front = .ok written) (back : List UInt8) :
    memory.writeFrom start (front ++ back) = written.writeFrom (start + front.length) back := by
  rw [writeFrom] at taken
  rw [writeFrom, List.zipIdx_append, List.foldlM_append, taken, Nat.add_comm]
  rfl

theorem writeFrom_cons {memory written : Memory} {start : Nat} {byte : UInt8}
    (taken : memory.write start byte = .ok written) (bytes : List UInt8) :
    memory.writeFrom start (byte :: bytes) = written.writeFrom (start + 1) bytes := by
  rw [writeFrom, List.zipIdx_cons, List.foldlM_cons]
  simp only [taken]
  rfl

theorem writeFrom_of_refused {memory : Memory} {start : Nat} {byte : UInt8} {fault : Fault}
    (refused : memory.write start byte = .error fault) (bytes : List UInt8) :
    memory.writeFrom start (byte :: bytes) = .error fault := by
  rw [writeFrom, List.zipIdx_cons, List.foldlM_cons]
  simp only [refused]
  rfl

theorem writeFrom_of_fitting (bytes : List UInt8) (start : Nat)
    (fits : start + bytes.length ≤ memorySize) (memory : Memory) :
    ∃ memory', memory.writeFrom start bytes = .ok memory' ∧
      ∀ address < memorySize, memory'.read address =
        if start ≤ address then bytes[address - start]?.elim (memory.read address) .ok
        else memory.read address := by
  induction bytes generalizing start memory with
  | nil => exact ⟨memory, rfl, fun address _ => by simp⟩
  | cons byte bytes ih =>
    rw [List.length_cons] at fits
    have room : start < memorySize := by omega
    obtain ⟨memory', all, holds⟩ :=
      ih (start + 1) (by omega) ⟨memory.cells.set start byte⟩
    refine ⟨memory', (writeFrom_cons (write_of_lt memory byte room) bytes).trans all, ?_⟩
    intro address inside
    rw [holds address inside, read_set memory byte room inside]
    rcases Nat.lt_trichotomy address start with before | here | behind
    · rw [if_neg (by omega), if_neg (by omega), if_neg (by omega)]
    · rw [if_neg (by omega), if_pos here.symm, if_pos (Nat.le_of_eq here.symm), here, Nat.sub_self]
      rfl
    · obtain ⟨k, rfl⟩ := Nat.exists_eq_add_of_lt behind
      rw [if_pos (by omega), if_neg (by omega), if_pos (by omega),
        show start + k + 1 - (start + 1) = k by omega, show start + k + 1 - start = k + 1 by omega,
        List.getElem?_cons_succ]

theorem writeFrom_image (memory : Memory) (image : Image) :
    memory.writeFrom 0 image.bytes = .ok (memory.load image) := by
  have fits : 0 + image.bytes.length ≤ memorySize := by
    rw [Nat.zero_add]
    exact image.fits
  obtain ⟨memory', all, holds⟩ := writeFrom_of_fitting image.bytes 0 fits memory
  have same : memory' = memory.load image := by
    refine ext_read fun address inside => ?_
    rw [holds address inside, read_load memory image inside, if_pos address.zero_le, Nat.sub_zero]
  rw [all, same]

/-- Of more bytes than there are cells the first 256 can be written, and the next one cannot. -/
theorem writeFrom_of_large {bytes : List UInt8} (large : memorySize < bytes.length)
    (memory : Memory) :
    memory.writeFrom 0 bytes = .error (.addressOutOfRange memorySize .write) := by
  have length : (bytes.take memorySize).length = memorySize :=
    List.length_take_of_le (Nat.le_of_lt large)
  obtain ⟨byte, rest, behind⟩ : ∃ byte rest, bytes.drop memorySize = byte :: rest := by
    refine List.exists_cons_of_ne_nil fun nothing => ?_
    rw [List.drop_eq_nil_iff] at nothing
    omega
  obtain ⟨memory', front, -⟩ :=
    writeFrom_of_fitting (bytes.take memorySize) 0 (by omega) memory
  have refused := write_of_le memory' byte (Nat.le_refl memorySize)
  rw [← List.take_append_drop memorySize bytes, writeFrom_append front, length, behind,
    Nat.zero_add]
  exact writeFrom_of_refused refused rest

theorem read_load_behind (memory : Memory) {image : Image}
    (behind : image.bytes.length ≤ address) :
    (memory.load image).read address = memory.read address := by
  by_cases inside : address < memorySize
  · rw [read_load memory image inside, List.getElem?_eq_none behind]
    rfl
  · rw [read_of_le _ (Nat.le_of_not_lt inside), read_of_le _ (Nat.le_of_not_lt inside)]

theorem read_zero (inside : address < memorySize) : zero.read address = .ok 0 := by
  rw [read_of_lt _ inside]
  simp [zero]

end Memory

namespace Registers

variable {index : Nat}

instance : Store Registers where
  size := registerCount
  outOfRange := .registerOutOfRange
  read := read
  write := write
  Whole := Empty
  bytes := nofun
  load := nofun

theorem read_of_lt (registers : Registers) (inside : index < registerCount) :
    registers.read index = .ok (registers.get ⟨index, inside⟩) := by
  rw [read, Register.ofIndex_of_lt inside]
  rfl

theorem read_of_le (registers : Registers) (outside : registerCount ≤ index) :
    registers.read index = .error (.registerOutOfRange index .read) := by
  rw [read, Register.ofIndex_of_le outside]
  rfl

theorem write_of_lt (registers : Registers) (value : UInt8) (inside : index < registerCount) :
    registers.write index value = .ok (registers.set ⟨index, inside⟩ value) := by
  rw [write, Register.ofIndex_of_lt inside]
  rfl

theorem write_of_le (registers : Registers) (value : UInt8) (outside : registerCount ≤ index) :
    registers.write index value = .error (.registerOutOfRange index .write) := by
  rw [write, Register.ofIndex_of_le outside]
  rfl

theorem read_set (registers : Registers) (value : UInt8) (inside : index < registerCount)
    {other : Nat} (inside' : other < registerCount) :
    (registers.set ⟨index, inside⟩ value).read other =
      if index = other then .ok value else registers.read other := by
  rw [read_of_lt _ inside', read_of_lt _ inside', get_set]
  simp only [Fin.mk.injEq]
  split <;> rfl

instance : LawfulStore Registers where
  read_inside registers _ inside := ⟨_, read_of_lt registers inside⟩
  read_outside registers _ outside := read_of_le registers outside
  write_inside registers _ value inside :=
    ⟨_, write_of_lt registers value inside,
      fun _ inside' => read_set registers value inside inside'⟩
  write_outside registers _ value outside := write_of_le registers value outside
  read_load _ whole := whole.elim

theorem read_stackPointer (registers : Registers) :
    registers.read 7 = .ok registers.stackPointer :=
  read_of_lt registers (by decide)

theorem read_initial (inside : index < registerCount) :
    initial.read index = .ok (if index = 7 then 0xF3 else 0) := by
  have cells : ∀ r : Register, initial.get r = if r.val = 7 then 0xF3 else 0 := by decide
  rw [read_of_lt _ inside, cells]

end Registers

/-- Memory and registers give back what was put last in each cell, over every history, and refuse
what is out of range by its number. The stack pointer is the last register. Loading an image is
writing its bytes one at a time, and bytes that make no image could not all be written. -/
theorem stores_keep_latest :
    Store.Faithful Memory.zero (fun _ => 0) ∧
      Store.Faithful Registers.initial (fun index => if index = 7 then 0xF3 else 0) ∧
      (∀ registers : Registers, registers.read 7 = .ok registers.stackPointer) ∧
      (∀ (memory : Memory) (image : Image),
        memory.writeFrom 0 image.bytes = .ok (memory.load image) ∧
          ∀ address, image.bytes.length ≤ address →
            (memory.load image).read address = memory.read address) ∧
      ∀ (memory : Memory) (bytes : List UInt8) (e : LoadError), Image.ofBytes bytes = .error e →
        memory.writeFrom 0 bytes = .error (.addressOutOfRange 256 .write) := by
  refine ⟨Store.faithful_of_starts fun _ => Memory.read_zero,
    Store.faithful_of_starts fun _ => Registers.read_initial, Registers.read_stackPointer,
    fun memory image => ⟨memory.writeFrom_image image, fun _ => memory.read_load_behind⟩, ?_⟩
  intro memory bytes e refused
  have large : memorySize < bytes.length := by
    by_contra fits
    have made : Image.ofBytes bytes = .ok ⟨bytes, Nat.le_of_not_lt fits⟩ :=
      Image.ofBytes_eq_ok_iff.mpr rfl
    rw [made] at refused
    contradiction
  exact memory.writeFrom_of_large large

-- A shorter image leaves what is behind it, and a write out of range is lost.
example :
    let past : List (StoreRequest Image) :=
      [.load ⟨[1, 2, 3], by decide⟩, .write 257 9, .load ⟨[4], by decide⟩]
    (Store.after Memory.zero past).read 1 = .ok 2 := by
  decide +kernel

end ByteMachine
