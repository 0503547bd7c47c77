import Mathlib.Data.List.Basic
import ByteMachine.Output.Console
import ByteMachine.Proofs.History
import ByteMachine.Proofs.Numerals

/-!
The text on a console, and what sinks have to do with the machine. A console shows decimal lines. If
its writer gives out, the text stops at that byte, be it inside a number or in front of a newline,
and every value from there on is dropped with a warning. No machine notices any of this.
-/
namespace ByteMachine

def decimalLines (values : List UInt8) : String :=
  String.join (values.map fun value => toString value.toNat ++ "\n")

/-- Where the line of the value at place `i` ends among the decimal lines, in bytes. -/
def lineEnd (values : List UInt8) (i : Nat) : Nat :=
  (decimalLines (values.take (i + 1))).utf8ByteSize

section Lines

variable {text : List Char} {value : UInt8} {values : List UInt8}

theorem line_eq (value : UInt8) : Console.line value = toString value.toNat ++ "\n" := rfl

theorem decimalLines_cons (value : UInt8) (values : List UInt8) :
    decimalLines (value :: values) = Console.line value ++ decimalLines values := by
  rw [decimalLines, List.map_cons, String.join_cons, ← line_eq, decimalLines]

theorem decimalLines_append (first second : List UInt8) :
    decimalLines (first ++ second) = decimalLines first ++ decimalLines second := by
  rw [decimalLines, List.map_append, String.join_append]
  rfl

theorem toList_line (value : UInt8) :
    (Console.line value).toList = (toString value.toNat).toList ++ ['\n'] := by
  rw [line_eq, String.toList_append]
  rfl

theorem isDigit_of_mem_toString {n : Nat} {c : Char} (member : c ∈ (toString n).toList) :
    c.isDigit = true := by
  rw [Nat.toString_eq_repr, Nat.toList_repr] at member
  exact Nat.isDigit_of_mem_toDigits (by decide) (by decide) member

/-- A list of values can be told from its lines, because no number contains a newline. -/
theorem splitOn_decimalLines (values : List UInt8) :
    (decimalLines values).toList.splitOn '\n' =
      values.map (fun value => (toString value.toNat).toList) ++ [[]] := by
  induction values with
  | nil => rfl
  | cons value values ih =>
    have single : '\n' ∉ (toString value.toNat).toList := by
      intro member
      have digit := isDigit_of_mem_toString member
      contradiction
    rw [decimalLines_cons, String.toList_append, toList_line, List.append_assoc,
      List.singleton_append, List.splitOn_append_cons_self_of_not_mem single, ih]
    rfl

theorem decimalLines_injective {other : List UInt8}
    (same : decimalLines other = decimalLines values) : other = values := by
  have numeral_injective : Function.Injective fun x : UInt8 => (toString x.toNat).toList := by
    intro x y same
    exact UInt8.toNat_inj.mp (decimal_inj.mp (String.toList_injective same))
  have pieces := congrArg (fun text => text.toList.splitOn '\n') same
  simp only [splitOn_decimalLines] at pieces
  exact List.map_injective_iff.mpr numeral_injective (List.append_cancel_right pieces)

def SingleBytes (text : List Char) : Prop := ∀ c ∈ text, c.utf8Size = 1

theorem size_utf8Encode_cons (c : Char) (text : List Char) :
    (c :: text).utf8Encode.size = c.utf8Size + text.utf8Encode.size := by
  have first : [c].utf8Encode.size = c.utf8Size := by
    simp [List.utf8Encode, String.length_utf8EncodeChar]
  rw [List.utf8Encode_cons, ByteArray.size_append, first]

theorem SingleBytes.size_utf8Encode (single : SingleBytes text) :
    text.utf8Encode.size = text.length := by
  induction text with
  | nil => rfl
  | cons c text ih =>
    have first := single c List.mem_cons_self
    have rest := ih fun d member => single d (List.mem_cons_of_mem c member)
    rw [size_utf8Encode_cons, first, rest, List.length_cons, Nat.add_comm]

theorem SingleBytes.utf8ByteSize_eq {s : String} (single : SingleBytes s.toList) :
    s.utf8ByteSize = s.length := by
  rw [← String.size_toByteArray, ← String.utf8Encode_toList, single.size_utf8Encode,
    String.length_toList]

theorem SingleBytes.utf8Encode_take (single : SingleBytes text) (n : Nat) :
    (text.take n).utf8Encode = text.utf8Encode.extract 0 n := by
  by_cases inside : n ≤ text.length
  · have front : SingleBytes (text.take n) := fun c member => single c (List.mem_of_mem_take member)
    have cut : n = (text.take n).utf8Encode.size := by
      rw [front.size_utf8Encode, List.length_take, Nat.min_eq_left inside]
    conv => rhs; rw [← List.take_append_drop n text, List.utf8Encode_append]
    exact (ByteArray.extract_append_eq_left cut).symm
  · have whole : n = max n text.utf8Encode.size := by
      rw [single.size_utf8Encode, Nat.max_eq_left (Nat.le_of_not_le inside)]
    rw [List.take_of_length_le (Nat.le_of_not_le inside), whole, ByteArray.extract_zero_max_size]

theorem singleBytes_line (value : UInt8) : SingleBytes (Console.line value).toList := by
  intro c member
  rw [toList_line, List.mem_append, List.mem_singleton] at member
  obtain digit | rfl := member
  · have small := isDigit_of_mem_toString digit
    simp only [Char.isDigit, Bool.and_eq_true, decide_eq_true_eq] at small
    exact Char.utf8Size_eq_one_iff.mpr (UInt32.le_trans small.2 (by decide))
  · rfl

theorem singleBytes_decimalLines (values : List UInt8) :
    SingleBytes (decimalLines values).toList := by
  induction values with
  | nil => exact fun c member => by cases member
  | cons value values ih =>
    intro c member
    rw [decimalLines_cons, String.toList_append, List.mem_append] at member
    exact member.elim (singleBytes_line value c) (ih c)

theorem lineEnd_zero (value : UInt8) (values : List UInt8) :
    lineEnd (value :: values) 0 = (Console.line value).length := by
  have one : decimalLines [value] = Console.line value := by
    rw [decimalLines_cons]
    exact String.append_empty
  rw [lineEnd, List.take_succ_cons, List.take_zero, one, (singleBytes_line value).utf8ByteSize_eq]

theorem lineEnd_succ (value : UInt8) (values : List UInt8) (i : Nat) :
    lineEnd (value :: values) (i + 1) = (Console.line value).length + lineEnd values i := by
  rw [lineEnd, List.take_succ_cons, decimalLines_cons, String.utf8ByteSize_append,
    (singleBytes_line value).utf8ByteSize_eq, lineEnd]

theorem lineEnd_pos {i : Nat} (inside : i < values.length) : 0 < lineEnd values i := by
  cases values with
  | nil => exact absurd inside (Nat.not_lt_zero i)
  | cons value values =>
    have nonempty : 0 < (Console.line value).length := by
      rw [← String.length_toList, toList_line, List.length_append]
      exact Nat.succ_pos _
    cases i with
    | zero => rw [lineEnd_zero]; exact nonempty
    | succ i => rw [lineEnd_succ]; omega

end Lines

section Console

theorem acceptAll_console (text : String) (values : List UInt8) :
    Sink.acceptAll (⟨text, none⟩ : Console) values = ⟨text ++ decimalLines values, none⟩ := by
  induction values generalizing text with
  | nil => simp [Sink.acceptAll, decimalLines]
  | cons value values ih =>
    have first : (Sink.accept (⟨text, none⟩ : Console) value).1 =
        ⟨text ++ (toString value.toNat ++ "\n"), none⟩ := rfl
    have rest := ih (text ++ (toString value.toNat ++ "\n"))
    rw [Sink.acceptAll, List.foldl_cons, first]
    rw [Sink.acceptAll] at rest
    rw [rest, String.append_assoc]
    simp [decimalLines]

theorem text_deliver (events : List Event) :
    (deliver (Console.ofRoom none) events).1.text =
      decimalLines (events.filterMap Event.value?) := by
  rw [deliver_sink, Console.ofRoom, acceptAll_console, String.empty_append]

theorem deliver_unlimited (values : List UInt8) :
    deliver (Console.ofRoom none) (values.map .emit) = (⟨decimalLines values, none⟩, []) := by
  have quiet (text : String) (values : List UInt8) :
      (deliver (⟨text, none⟩ : Console) (values.map .emit)).2 = [] := by
    induction values generalizing text with
    | nil => rfl
    | cons value values ih => rw [List.map_cons, deliver_emit]; exact ih _
  refine Prod.ext ?_ (quiet "" values)
  rw [deliver_sink, Console.ofRoom, acceptAll_console, String.empty_append, List.filterMap_map]
  simp [Function.comp_def, Event.value?]

theorem fitting_append (room : Nat) (first second : List Char) :
    fitting room (first ++ second) =
      if first.utf8Encode.size ≤ room then
        first ++ fitting (room - first.utf8Encode.size) second
      else fitting room first := by
  induction first generalizing room with
  | nil => simp
  | cons c first ih =>
    rw [List.cons_append, fitting, fitting, size_utf8Encode_cons, ih]
    by_cases fits : c.utf8Size ≤ room
    · have rest : c.utf8Size + first.utf8Encode.size ≤ room ↔
          first.utf8Encode.size ≤ room - c.utf8Size := by omega
      simp only [if_pos fits, rest, Nat.sub_sub]
      split <;> rfl
    · have exceeds : ¬ c.utf8Size + first.utf8Encode.size ≤ room := by omega
      rw [if_neg fits, if_neg exceeds, if_neg fits]

theorem fitting_of_singleBytes {text : List Char} (single : SingleBytes text) (room : Nat) :
    fitting room text = text.take room := by
  induction text generalizing room with
  | nil => rw [fitting, List.take_nil]
  | cons c text ih =>
    have rest := ih fun d member => single d (List.mem_cons_of_mem c member)
    rw [fitting, single c List.mem_cons_self, rest]
    cases room with
    | zero => rfl
    | succ room => rw [if_pos (Nat.le_add_left 1 room), Nat.add_sub_cancel, List.take_succ_cons]

/-- Two pieces written one after the other, the second only if the first was taken whole, come to
the same as one piece. -/
theorem Console.write_append (console : Console) (first second : String) :
    console.write (first ++ second) =
      if (console.write first).2.isNone then (console.write first).1.write second
      else console.write first := by
  obtain ⟨text, room⟩ := console
  cases room with
  | none => simp only [write, Option.isNone_none, if_true, String.append_assoc]
  | some room =>
    have size (piece : String) : piece.toList.utf8Encode.size = piece.utf8ByteSize := by
      rw [String.utf8Encode_toList, String.size_toByteArray]
    have both := fitting_append room.bytes first.toList second.toList
    simp only [write, String.toList_append, String.utf8ByteSize_append, both, size]
    by_cases fits : first.utf8ByteSize ≤ room.bytes
    · have whole : fitting room.bytes first.toList = first.toList := by
        have alone := fitting_append room.bytes first.toList []
        rw [List.append_nil, size, if_pos fits] at alone
        exact alone.trans (List.append_nil _)
      have rest : first.utf8ByteSize + second.utf8ByteSize ≤ room.bytes ↔
          second.utf8ByteSize ≤ room.bytes - first.utf8ByteSize := by omega
      simp only [if_pos fits, whole, rest, Option.isNone_none, if_true, String.ofList_append,
        String.append_assoc, Nat.sub_sub]
    · have exceeds : ¬ first.utf8ByteSize + second.utf8ByteSize ≤ room.bytes := by omega
      have full : room.bytes - (first.utf8ByteSize + second.utf8ByteSize) =
          room.bytes - first.utf8ByteSize := by omega
      simp only [if_neg fits, if_neg exceeds, full, Option.isNone_some, Bool.false_eq_true, if_false]

theorem accept_limited (text : String) (room : Room) (value : UInt8) :
    Sink.accept (⟨text, some room⟩ : Console) value =
      (⟨text ++ String.ofList ((Console.line value).toList.take room.bytes),
          some ⟨room.bytes - (Console.line value).length, room.refusal⟩⟩,
        if (Console.line value).length ≤ room.bytes then none
        else some (.dropped value room.refusal)) := by
  have single := singleBytes_line value
  simp only [Sink.accept, Console.write, fitting_of_singleBytes single, single.utf8ByteSize_eq]
  split <;> rfl

theorem text_limited (text : String) (room : Room) (values : List UInt8) :
    (Sink.acceptAll (⟨text, some room⟩ : Console) values).text =
      text ++ String.ofList ((decimalLines values).toList.take room.bytes) := by
  induction values generalizing text room with
  | nil => simp [Sink.acceptAll, decimalLines]
  | cons value values ih =>
    have rest := ih (text ++ String.ofList ((Console.line value).toList.take room.bytes))
      ⟨room.bytes - (Console.line value).length, room.refusal⟩
    rw [Sink.acceptAll] at rest
    rw [Sink.acceptAll, List.foldl_cons, accept_limited, rest, decimalLines_cons,
      String.toList_append, List.take_append, String.length_toList, String.ofList_append,
      String.append_assoc]

theorem dropped_limited (text : String) (room : Room) (values : List UInt8) :
    ∃ whole late, values = whole ++ late ∧
      (deliver (⟨text, some room⟩ : Console) (values.map .emit)).2 =
        late.map (.dropped · room.refusal) ∧
      ∀ i < values.length, whole.length ≤ i ↔ room.bytes < lineEnd values i := by
  induction values generalizing text room with
  | nil => exact ⟨[], [], rfl, rfl, nofun⟩
  | cons value values ih =>
    obtain ⟨whole, late, split, notices, ends⟩ :=
      ih (text ++ String.ofList ((Console.line value).toList.take room.bytes))
        ⟨room.bytes - (Console.line value).length, room.refusal⟩
    by_cases fits : (Console.line value).length ≤ room.bytes
    · refine ⟨value :: whole, late, congrArg (value :: ·) split, ?_, fun i inside => ?_⟩
      · rw [List.map_cons, deliver_emit, accept_limited, notices, if_pos fits]
        rfl
      · cases i with
        | zero =>
          rw [lineEnd_zero, List.length_cons]
          omega
        | succ i =>
          have there : whole.length ≤ i ↔
              room.bytes - (Console.line value).length < lineEnd values i :=
            ends i (Nat.lt_of_succ_lt_succ inside)
          rw [lineEnd_succ, List.length_cons]
          omega
    · -- No room is left, so no later line is taken whole either.
      have full : room.bytes - (Console.line value).length = 0 := by omega
      have nothing : whole = [] := by
        cases values with
        | nil => exact (List.append_eq_nil_iff.mp split.symm).1
        | cons next values =>
          have first := (ends 0 (Nat.succ_pos _)).mpr (by
            rw [full]
            exact lineEnd_pos (Nat.succ_pos _))
          exact List.length_eq_zero_iff.mp (Nat.le_zero.mp first)
      rw [nothing, List.nil_append] at split
      refine ⟨[], value :: values, rfl, ?_, fun i inside => ?_⟩
      · rw [List.map_cons, deliver_emit, accept_limited, notices, if_neg fits, ← split]
        rfl
      · cases i with
        | zero =>
          rw [lineEnd_zero, List.length_nil]
          omega
        | succ i =>
          rw [lineEnd_succ, List.length_nil]
          omega

/-- What is said of values on an output: a warning for each whose line ends past the room. -/
def losses : Option Room → List UInt8 → List Notice
  | none, _ => []
  | some room, values =>
    (values.zipIdx.filter fun (_, i) => room.bytes < lineEnd values i).map fun (value, _) =>
      .dropped value room.refusal

theorem losses_nil (room : Option Room) : losses room [] = [] := by
  cases room <;> rfl

theorem level_losses {room : Option Room} {values : List UInt8} :
    ∀ notice ∈ losses room values, notice.level = .warn := by
  intro notice member
  cases room with
  | none => contradiction
  | some room =>
    obtain ⟨entry, -, rfl⟩ := List.mem_map.mp member
    rfl

theorem deliver_losses (room : Option Room) (values : List UInt8) :
    (deliver (Console.ofRoom room) (values.map .emit)).2 = losses room values := by
  cases room with
  | none => rw [deliver_unlimited]; rfl
  | some room =>
    obtain ⟨whole, late, split, notices, ends⟩ := dropped_limited "" room values
    -- A line ends past the room exactly if its place is past the values that were taken whole.
    have lost : (values.zipIdx.filter fun (_, i) => room.bytes < lineEnd values i) =
        values.zipIdx.filter fun (_, i) => whole.length ≤ i := by
      refine List.filter_congr fun entry member => ?_
      have inside := List.snd_lt_of_mem_zipIdx member
      exact decide_eq_decide.mpr (ends entry.2 inside).symm
    have front : whole.zipIdx.filter (fun (_, i) => whole.length ≤ i) = [] := by
      rw [List.filter_eq_nil_iff]
      intro entry member
      have early := List.snd_lt_of_mem_zipIdx member
      simpa using early
    have back : (late.zipIdx whole.length).filter (fun (_, i) => whole.length ≤ i) =
        late.zipIdx whole.length := by
      rw [List.filter_eq_self]
      intro entry member
      exact decide_eq_true (List.le_snd_of_mem_zipIdx member)
    rw [Console.ofRoom, notices, losses, lost, split, List.zipIdx_append, List.filter_append, front,
      Nat.zero_add, back, List.nil_append]
    conv => lhs; rw [← List.zipIdx_map_fst whole.length late, List.map_map]
    rfl

end Console

section Sinks

variable {σ τ : Type} [Sink σ] [Sink τ]

theorem serveAll_sink (m : Machine) (sink : σ) (sink' : τ) (requests : List Request) :
    (Session.serveAll ⟨m, sink⟩ requests).replies =
        (Session.serveAll ⟨m, sink'⟩ requests).replies ∧
      (Session.serveAll ⟨m, sink⟩ requests).session.machine =
        (Session.serveAll ⟨m, sink'⟩ requests).session.machine := by
  induction requests generalizing m sink sink' with
  | nil => exact ⟨rfl, rfl⟩
  | cons request requests ih =>
    obtain ⟨replies, machine⟩ := ih (m.serve request).machine
      (deliver sink (m.serve request).events).1 (deliver sink' (m.serve request).events).1
    exact ⟨congrArg ((m.serve request).result :: ·) replies, machine⟩

structure Truncates (values : List UInt8) (room : Room) (console : Console)
    (notices : List Notice) : Prop where
  text : console.text.toByteArray = (decimalLines values).toByteArray.extract 0 room.bytes
  dropped : ∃ whole late, values = whole ++ late ∧
    notices = late.map (.dropped · room.refusal) ∧
    ∀ i < values.length, whole.length ≤ i ↔ room.bytes < lineEnd values i

theorem truncates (values : List UInt8) (room : Room) :
    Truncates values room (deliver (Console.ofRoom (some room)) (values.map .emit)).1
      (deliver (Console.ofRoom (some room)) (values.map .emit)).2 := by
  constructor
  · have all : (values.map Event.emit).filterMap Event.value? = values := by
      simp [List.filterMap_map, Function.comp_def, Event.value?]
    rw [deliver_sink, all, Console.ofRoom, text_limited, String.empty_append,
      String.toByteArray_ofList, (singleBytes_decimalLines values).utf8Encode_take,
      String.utf8Encode_toList]
  · exact dropped_limited "" room values

/-- Cut between a number and its newline. -/
example : deliver (Console.ofRoom (some ⟨4, "full"⟩)) ([72, 0, 9].map .emit) =
    (⟨"72\n0", some ⟨0, "full"⟩⟩, [.dropped 0 "full", .dropped 9 "full"]) := by decide

theorem accept_pieces (console : Console) (value : UInt8) :
    let digits := console.write (toString value.toNat)
    let whole := if digits.2.isNone then digits.1.write "\n" else digits
    Sink.accept console value = (whole.1, whole.2.map (.dropped value)) := by
  intro digits whole
  have pieces : console.write (Console.line value) = whole := Console.write_append console _ _
  simp only [Sink.accept, pieces]

/-- Steps have the same answers and leave the same machine on any two sinks. A console whose writer
gives out shows the beginning of the decimal lines and drops the values past it; one whose writer
does not shows all lines, and the lines tell the values. -/
theorem sinks_have_no_say (m : Machine) (sink : σ) (sink' : τ) (n : Nat) (values : List UInt8)
    (room : Room) :
    (Session.stepping ⟨m, sink⟩ n).replies = (Session.stepping ⟨m, sink'⟩ n).replies ∧
      (Session.stepping ⟨m, sink⟩ n).session.machine =
        (Session.stepping ⟨m, sink'⟩ n).session.machine ∧
      (∀ (console : Console) (value : UInt8),
        let digits := console.write (toString value.toNat)
        let whole := if digits.2.isNone then digits.1.write "\n" else digits
        Sink.accept console value = (whole.1, whole.2.map (.dropped value))) ∧
      Truncates values room (deliver (Console.ofRoom (some room)) (values.map .emit)).1
        (deliver (Console.ofRoom (some room)) (values.map .emit)).2 ∧
      deliver (Console.ofRoom none) (values.map .emit) = (⟨decimalLines values, none⟩, []) ∧
      ∀ other, decimalLines other = decimalLines values → other = values := by
  obtain ⟨replies, machine⟩ := serveAll_sink m sink sink' (List.replicate n .step)
  refine ⟨replies, machine, accept_pieces, truncates values room, deliver_unlimited values, ?_⟩
  intro other same
  exact decimalLines_injective same

end Sinks

end ByteMachine
