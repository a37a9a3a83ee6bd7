import IocpServer.Json.Serializer
import IocpServer.Library.Utf8
import Mathlib.Data.List.GetD
import Mathlib.Algebra.Group.Nat.Defs

/-!
# Which strings have a text

The table of `decode` goes from between two characters back to there exactly
along the bytes of one character.  A string is therefore written if it is
valid UTF-8, character by character, and not written otherwise.
-/

namespace IocpServer.Json

open IocpServer.Library

/-! ## The table -/

/-- The type of a byte, by the ranges of bytes. -/
def byteType (byte : Nat) : Nat :=
  if byte < 0x80 then 0
  else if byte < 0x90 then 1
  else if byte < 0xA0 then 9
  else if byte < 0xC0 then 7
  else if byte < 0xC2 then 8
  else if byte < 0xE0 then 2
  else if byte = 0xE0 then 10
  else if byte = 0xED then 4
  else if byte < 0xF0 then 3
  else if byte = 0xF0 then 11
  else if byte < 0xF4 then 6
  else if byte = 0xF4 then 5
  else 8

/-- The state behind a lead byte. -/
def behindLead (byte : Nat) : Nat :=
  if byte < 0x80 then 0
  else if byte < 0xC2 then 1
  else if byte < 0xE0 then 2
  else if byte = 0xE0 then 4
  else if byte = 0xED then 5
  else if byte < 0xF0 then 3
  else if byte = 0xF0 then 6
  else if byte < 0xF4 then 7
  else if byte = 0xF4 then 8
  else 1

/-- The state behind a byte that has to be in a range. -/
def behindTail (first last next byte : Nat) : Nat :=
  if first ≤ byte ∧ byte ≤ last then next else 1

/-- The states the table leads to. -/
def stateBehind (state byte : Nat) : Nat :=
  match state with
  | 0 => behindLead byte
  | 2 => behindTail 0x80 0xBF 0 byte
  | 3 => behindTail 0x80 0xBF 2 byte
  | 4 => behindTail 0xA0 0xBF 2 byte
  | 5 => behindTail 0x80 0x9F 2 byte
  | 6 => behindTail 0x90 0xBF 3 byte
  | 7 => behindTail 0x80 0xBF 3 byte
  | 8 => behindTail 0x80 0x8F 3 byte
  | _ => 1

/-- The state behind a type of byte. -/
def typeBehind (state type : Nat) : Nat :=
  match state with
  | 0 => [0, 1, 2, 3, 5, 8, 7, 1, 1, 1, 4, 6].getD type 1
  | 2 => if type = 1 ∨ type = 7 ∨ type = 9 then 0 else 1
  | 3 => if type = 1 ∨ type = 7 ∨ type = 9 then 2 else 1
  | 4 => if type = 7 then 2 else 1
  | 5 => if type = 1 ∨ type = 9 then 2 else 1
  | 6 => if type = 7 ∨ type = 9 then 3 else 1
  | 7 => if type = 1 ∨ type = 7 ∨ type = 9 then 3 else 1
  | 8 => if type = 1 then 3 else 1
  | _ => 1

/-- The table, row by row. -/
theorem utf8d_eq :
    utf8d =
      ((List.range 256).map fun byte => UInt8.ofNat (byteType byte)) ++
        (List.range 144).map fun index =>
          UInt8.ofNat (typeBehind (index / 16) (index % 16)) := by
  decide +kernel

theorem typeBehind_byteType :
    ∀ state < 9, ∀ byte < 256,
      typeBehind state (byteType byte) = stateBehind state byte := by
  decide +kernel

theorem byteType_lt : ∀ byte < 256, byteType byte < 12 := by
  decide +kernel

theorem utf8d_byte {byte : Nat} (bound : byte < 256) :
    utf8d.getD byte 0 = UInt8.ofNat (byteType byte) := by
  rw [utf8d_eq, List.getD_append _ _ _ _ (by simpa using bound)]
  simp [List.getD, bound]

theorem utf8d_state {state byte : Nat}
    (small : state < 9) (bound : byte < 256) :
    utf8d.getD (256 + state * 16 + byteType byte) 0 =
      UInt8.ofNat (stateBehind state byte) := by
  have type := byteType_lt byte bound
  rw [utf8d_eq, List.getD_append_right _ _ _ _ (by simp; omega),
    List.length_map, List.length_range, ← typeBehind_byteType state small byte
      bound]
  have row : (256 + state * 16 + byteType byte - 256) / 16 = state := by
    omega
  have column :
      (256 + state * 16 + byteType byte - 256) % 16 = byteType byte := by
    omega
  simp only [List.getD, List.getElem?_map]
  rw [List.getElem?_range (by omega)]
  simp only [Option.map_some, Option.getD_some, row, column]

/-- The state behind a byte. -/
theorem decode_state {state : Nat} (small : state < 9)
    (codep : UInt32) (byte : UInt8) :
    (decode (UInt8.ofNat state) codep byte).1 =
      UInt8.ofNat (stateBehind state byte.toNat) := by
  have type := byteType_lt byte.toNat byte.toNat_lt
  have typeNumber :
      (UInt8.ofNat (byteType byte.toNat)).toNat = byteType byte.toNat :=
    toNat_ofNat_byte (by omega)
  have number : (UInt8.ofNat state).toNat = state :=
    toNat_ofNat_byte (by omega)
  have entry := utf8d_state small byte.toNat_lt
  rw [decode]
  dsimp only
  rw [utf8d_byte byte.toNat_lt, typeNumber, number]
  exact entry

theorem behindLead_lt (byte : Nat) : behindLead byte < 9 := by
  unfold behindLead
  split_ifs <;> decide

theorem behindTail_lt {next : Nat} (small : next < 9)
    (first last byte : Nat) : behindTail first last next byte < 9 := by
  rw [behindTail]
  split_ifs
  · exact small
  · decide

theorem stateBehind_lt (state byte : Nat) : stateBehind state byte < 9 := by
  unfold stateBehind
  split
  · exact behindLead_lt byte
  all_goals first
    | exact behindTail_lt (by decide) _ _ byte
    | decide

theorem behindTail_tail {first last next : Nat} {byte : UInt8}
    (lower : first ≤ byte.toNat) (upper : byte.toNat ≤ last) :
    behindTail first last next byte.toNat = next := by
  rw [behindTail, if_pos ⟨lower, upper⟩]

/-- The part of a lead byte that is in the code point. -/
def leadValue (byte : Nat) : Nat :=
  if byte < 0x80 then byte
  else if byte < 0xE0 then byte - 0xC0
  else if byte < 0xF0 then byte - 0xE0
  else byte - 0xF0

theorem lead_bits :
    ∀ byte < 256, byte < 0x80 ∨ 0xC2 ≤ byte ∧ byte ≤ 0xF4 →
      ((0xFF : UInt32) >>> (UInt8.ofNat (byteType byte)).toUInt32) &&&
          (UInt8.ofNat byte).toUInt32 =
        UInt32.ofNat (leadValue byte) := by
  decide +kernel

/-- The code point behind a lead byte. -/
theorem decode_lead (codep : UInt32) (byte : UInt8)
    (lead :
      byte.toNat < 0x80 ∨ 0xC2 ≤ byte.toNat ∧ byte.toNat ≤ 0xF4) :
    (decode utf8Accept codep byte).2 =
      UInt32.ofNat (leadValue byte.toNat) := by
  have bits := lead_bits byte.toNat byte.toNat_lt lead
  rw [UInt8.ofNat_toNat] at bits
  rw [decode]
  dsimp only
  rw [if_neg (fun differ => differ rfl), utf8d_byte byte.toNat_lt]
  exact bits

/-- The code point behind a tail byte. -/
theorem decode_tail {state : UInt8} {codep : Nat} {byte : UInt8}
    (between : state ≠ utf8Accept) (small : codep < 2 ^ 20)
    (tail : Tail byte) :
    (decode state (UInt32.ofNat codep) byte).2 =
      UInt32.ofNat (codep * 64 + (byte.toNat - 0x80)) := by
  rw [Tail] at tail
  rw [decode]
  dsimp only
  rw [if_pos between]
  apply UInt32.toNat_inj.mp
  have low : byte.toNat &&& 0x3f = byte.toNat - 0x80 := by
    have mask := Nat.and_two_pow_sub_one_eq_mod byte.toNat 6
    rw [show (0x3f : Nat) = 2 ^ 6 - 1 from rfl, mask]
    omega
  have shifted : codep <<< 6 % 2 ^ 32 = codep * 64 := by
    rw [Nat.shiftLeft_eq, Nat.mod_eq_of_lt (by omega)]
  rw [UInt32.toNat_or, UInt32.toNat_and, UInt32.toNat_shiftLeft,
    UInt32.toNat_ofNat', UInt32.toNat_ofNat', UInt8.toNat_toUInt32]
  rw [Nat.mod_eq_of_lt (show codep < 2 ^ 32 by omega),
    Nat.mod_eq_of_lt (show codep * 64 + (byte.toNat - 0x80) < 2 ^ 32 by omega)]
  change (byte.toNat &&& 0x3f) ||| codep <<< 6 % 2 ^ 32 = _
  rw [low, shifted, Nat.or_comm]
  have fits : byte.toNat - 0x80 < 2 ^ 6 := by
    omega
  have disjoint := Nat.two_pow_add_eq_or_of_lt fits codep
  rw [Nat.mul_comm codep 64]
  exact disjoint.symm

/-! ## One byte -/

theorem dumpEscapedFrom_accepted {last : UInt8} {state codepoint : Nat}
    {byte : UInt8} {codep : UInt32}
    (small : state < 9) (accepted : stateBehind state byte.toNat = 0)
    (value :
      (decode (UInt8.ofNat state) codep byte).2 = UInt32.ofNat codepoint)
    (rest : ByteString) (i : Nat) (written : ByteString) :
    dumpEscapedFrom last (byte :: rest) i (UInt8.ofNat state) codep written =
      dumpEscapedFrom last rest (i + 1) utf8Accept (UInt32.ofNat codepoint)
        (written ++ escapeCodepoint (UInt32.ofNat codepoint) byte) := by
  have behind := decode_state small codep byte
  rw [accepted] at behind
  rw [dumpEscapedFrom]
  simp only [behind, value]
  rfl

theorem dumpEscapedFrom_between {last : UInt8} (state : Nat)
    {codepoint next : Nat}
    {byte : UInt8} {codep : UInt32}
    (small : state < 9) (between : stateBehind state byte.toNat = next)
    (further : 2 ≤ next)
    (value :
      (decode (UInt8.ofNat state) codep byte).2 = UInt32.ofNat codepoint)
    (rest : ByteString) (i : Nat) (written : ByteString) :
    dumpEscapedFrom last (byte :: rest) i (UInt8.ofNat state) codep written =
      dumpEscapedFrom last rest (i + 1) (UInt8.ofNat next)
        (UInt32.ofNat codepoint) (written ++ [byte]) := by
  have behind := decode_state small codep byte
  have bound := stateBehind_lt state byte.toNat
  have number : (UInt8.ofNat next).toNat = next :=
    toNat_ofNat_byte (by omega)
  have notAccepted : UInt8.ofNat next ≠ utf8Accept := by
    intro same
    rw [same] at number
    change 0 = next at number
    omega
  have notRejected : UInt8.ofNat next ≠ utf8Reject := by
    intro same
    rw [same] at number
    change 1 = next at number
    omega
  rw [between] at behind
  rw [dumpEscapedFrom]
  simp only [behind, value]
  rw [if_neg notAccepted, if_neg notRejected]

/-! ## One character -/

/-- What a character is written as. -/
def escapedSequence (bytes : ByteString) (point : Nat) : ByteString :=
  if point < 0x80 then
    escapeCodepoint (UInt32.ofNat point) (UInt8.ofNat point)
  else
    bytes

/-- Only the last byte of a character beyond ASCII is left to write. -/
theorem escapeCodepoint_beyond {point : Nat}
    (beyond : 0x80 ≤ point) (small : point < 2 ^ 32) (byte : UInt8) :
    escapeCodepoint (UInt32.ofNat point) byte = [byte] := by
  have number : (UInt32.ofNat point).toNat = point :=
    Nat.mod_eq_of_lt small
  have differ : ∀ control : UInt32, control.toNat < 0x80 →
      UInt32.ofNat point ≠ control := by
    intro control ascii same
    rw [← same, number] at ascii
    omega
  have above : ¬ UInt32.ofNat point ≤ 0x1F := by
    intro low
    have lowNumber : (UInt32.ofNat point).toNat ≤ 0x1F := low
    omega
  unfold escapeCodepoint
  rw [if_neg (differ 0x08 (by decide)), if_neg (differ 0x09 (by decide)),
    if_neg (differ 0x0A (by decide)), if_neg (differ 0x0C (by decide)),
    if_neg (differ 0x0D (by decide)), if_neg (differ 0x22 (by decide)),
    if_neg (differ 0x5C (by decide)), if_neg above]

/-- The state behind a lead byte of three, and its second byte. -/
theorem behindLead_three {lead second : UInt8}
    (lower : 0xE0 ≤ lead.toNat) (upper : lead.toNat ≤ 0xEF)
    (inRange : SecondByte lead second) :
    2 ≤ behindLead lead.toNat ∧
      stateBehind (behindLead lead.toNat) second.toNat = 2 := by
  have tail := inRange.tail
  have notShort := inRange.notShortThree
  have noSurrogate := inRange.noSurrogate
  rw [Tail] at tail
  unfold behindLead
  rw [if_neg (by omega), if_neg (by omega), if_neg (by omega)]
  split_ifs with short surrogate plain
  · exact ⟨by decide, behindTail_tail (notShort short) tail.2⟩
  · exact ⟨by decide, behindTail_tail tail.1 (noSurrogate surrogate)⟩
  · exact ⟨by decide, behindTail_tail tail.1 tail.2⟩
  all_goals omega

/-- The state behind a lead byte of four, and its second byte. -/
theorem behindLead_four {lead second : UInt8}
    (lower : 0xF0 ≤ lead.toNat) (upper : lead.toNat ≤ 0xF4)
    (inRange : SecondByte lead second) :
    2 ≤ behindLead lead.toNat ∧
      stateBehind (behindLead lead.toNat) second.toNat = 3 := by
  have tail := inRange.tail
  have notShort := inRange.notShortFour
  have inUnicode := inRange.inUnicode
  rw [Tail] at tail
  unfold behindLead
  rw [if_neg (by omega), if_neg (by omega), if_neg (by omega),
    if_neg (by omega), if_neg (by omega), if_neg (by omega)]
  split_ifs with short plain last
  · exact ⟨by decide, behindTail_tail (notShort short) tail.2⟩
  · exact ⟨by decide, behindTail_tail tail.1 tail.2⟩
  · exact ⟨by decide, behindTail_tail tail.1 (inUnicode last)⟩
  · omega

/-- A lead byte of several is written as it is. -/
theorem dumpEscapedFrom_lead {last lead : UInt8} {next : Nat}
    (lower : 0xC2 ≤ lead.toNat) (upper : lead.toNat ≤ 0xF4)
    (behind : behindLead lead.toNat = next) (further : 2 ≤ next)
    (rest : ByteString) (i : Nat) (codep : UInt32) (written : ByteString) :
    dumpEscapedFrom last (lead :: rest) i utf8Accept codep written =
      dumpEscapedFrom last rest (i + 1) (UInt8.ofNat next)
        (UInt32.ofNat (leadValue lead.toNat)) (written ++ [lead]) :=
  dumpEscapedFrom_between 0 (by decide) behind further
    (decode_lead codep lead (.inr ⟨lower, upper⟩)) rest i written

/-- A tail byte is written as it is. -/
theorem dumpEscapedFrom_tail {last byte : UInt8} {state codepoint next : Nat}
    (small : state < 9) (inside : 2 ≤ state) (codepSmall : codepoint < 2 ^ 20)
    (tail : Tail byte) (behind : stateBehind state byte.toNat = next)
    (notRejected : next ≠ 1) (beyond : next = 0 → 2 ≤ codepoint)
    (rest : ByteString) (i : Nat) (written : ByteString) :
    dumpEscapedFrom last (byte :: rest) i (UInt8.ofNat state)
        (UInt32.ofNat codepoint) written =
      dumpEscapedFrom last rest (i + 1) (UInt8.ofNat next)
        (UInt32.ofNat (codepoint * 64 + (byte.toNat - 0x80)))
        (written ++ [byte]) := by
  have number : (UInt8.ofNat state).toNat = state :=
    toNat_ofNat_byte (by omega)
  have between : UInt8.ofNat state ≠ utf8Accept := by
    intro same
    rw [same] at number
    change 0 = state at number
    omega
  have value := decode_tail between codepSmall tail
  have tailBounds := tail
  rw [Tail] at tailBounds
  by_cases done : next = 0
  · have large := beyond done
    subst done
    rw [dumpEscapedFrom_accepted small behind value rest i written,
      escapeCodepoint_beyond (by omega) (by omega) byte]
    rfl
  · exact dumpEscapedFrom_between state small behind (by omega) value rest i written

/-- A whole character is written at once, from one boundary to the next. -/
theorem dumpEscapedFrom_sequence {bytes : ByteString} {point : Nat}
    (sequence : Utf8Sequence bytes point)
    (last : UInt8) (rest : ByteString) (i : Nat) (codep : UInt32)
    (written : ByteString) :
    dumpEscapedFrom last (bytes ++ rest) i utf8Accept codep written =
      dumpEscapedFrom last rest (i + bytes.length) utf8Accept
        (UInt32.ofNat point) (written ++ escapedSequence bytes point) := by
  cases sequence with
  | one byte ascii =>
      have value := decode_lead codep byte (.inl ascii)
      rw [leadValue, if_pos ascii] at value
      have behind : stateBehind 0 byte.toNat = 0 := by
        change behindLead byte.toNat = 0
        rw [behindLead, if_pos ascii]
      rw [escapedSequence, if_pos ascii, UInt8.ofNat_toNat]
      exact dumpEscapedFrom_accepted (by decide) behind value rest i written
  | two lead second lower upper tail =>
      have leadState : behindLead lead.toNat = 2 := by
        rw [behindLead, if_neg (by omega), if_neg (by omega), if_pos (by omega)]
      have secondState : stateBehind 2 second.toNat = 0 :=
        behindTail_tail tail.1 tail.2
      have value : leadValue lead.toNat = lead.toNat - 0xC0 := by
        rw [leadValue, if_neg (by omega), if_pos (by omega)]
      rw [List.cons_append, List.cons_append, List.nil_append,
        dumpEscapedFrom_lead lower (by omega) leadState (by decide), value,
        dumpEscapedFrom_tail (by decide) (by decide) (by omega) tail
          secondState (by decide) (fun _ => by omega),
        escapedSequence, if_neg (by omega)]
      simp only [List.append_assoc, List.cons_append, List.nil_append]
      rfl
  | three lead second third lower upper inRange tail =>
      rcases behindLead_three lower upper inRange with ⟨further, secondState⟩
      have stateBound := behindLead_lt lead.toNat
      have thirdState : stateBehind 2 third.toNat = 0 :=
        behindTail_tail tail.1 tail.2
      have value : leadValue lead.toNat = lead.toNat - 0xE0 := by
        rw [leadValue, if_neg (by omega), if_neg (by omega), if_pos (by omega)]
      have secondTail := inRange.tail
      have notShort := inRange.notShortThree
      have secondBounds := secondTail
      have thirdBounds := tail
      rw [Tail] at secondBounds thirdBounds
      rw [List.cons_append, List.cons_append, List.cons_append,
        List.nil_append,
        dumpEscapedFrom_lead (by omega) (by omega) rfl further, value,
        dumpEscapedFrom_tail stateBound further (by omega) secondTail
          secondState (by decide) (fun done => by omega),
        dumpEscapedFrom_tail (by decide) (by decide) (by omega) tail
          thirdState (by decide) (fun _ => by omega),
        escapedSequence, if_neg (by omega)]
      simp only [List.append_assoc, List.cons_append, List.nil_append]
      rfl
  | four lead second third fourth lower upper inRange tail lastTail =>
      rcases behindLead_four lower upper inRange with ⟨further, secondState⟩
      have stateBound := behindLead_lt lead.toNat
      have thirdState : stateBehind 3 third.toNat = 2 :=
        behindTail_tail tail.1 tail.2
      have fourthState : stateBehind 2 fourth.toNat = 0 :=
        behindTail_tail lastTail.1 lastTail.2
      have value : leadValue lead.toNat = lead.toNat - 0xF0 := by
        rw [leadValue, if_neg (by omega), if_neg (by omega), if_neg (by omega)]
      have secondTail := inRange.tail
      have notShort := inRange.notShortFour
      have secondBounds := secondTail
      have thirdBounds := tail
      have fourthBounds := lastTail
      rw [Tail] at secondBounds thirdBounds fourthBounds
      rw [List.cons_append, List.cons_append, List.cons_append,
        List.cons_append, List.nil_append,
        dumpEscapedFrom_lead (by omega) (by omega) rfl further, value,
        dumpEscapedFrom_tail stateBound further (by omega) secondTail
          secondState (by decide) (fun done => by omega),
        dumpEscapedFrom_tail (by decide) (by decide) (by omega) tail
          thirdState (by decide) (fun done => by omega),
        dumpEscapedFrom_tail (by decide) (by decide) (by omega) lastTail
          fourthState (by decide) (fun _ => by omega),
        escapedSequence, if_neg (by omega)]
      simp only [List.append_assoc, List.cons_append, List.nil_append]
      rfl

/-! ## Whole strings -/

/-- What a character is written as, between quotation marks. -/
def escapedChar (character : Char) : ByteString :=
  escapedSequence (String.utf8EncodeChar character) character.val.toNat

theorem dumpEscapedFrom_utf8Text (last : UInt8) (characters : List Char)
    (i : Nat) (codep : UInt32) (written : ByteString) :
    dumpEscapedFrom last (utf8Text characters) i utf8Accept codep written =
      .ok (written ++ characters.flatMap escapedChar) := by
  induction characters generalizing i codep written with
  | nil =>
      rw [utf8Text_nil, dumpEscapedFrom, if_pos rfl, List.flatMap_nil,
        List.append_nil]
  | cons character characters recursive =>
      rw [utf8Text_cons,
        dumpEscapedFrom_sequence (utf8Sequence_utf8EncodeChar character),
        recursive, List.append_assoc, List.flatMap_cons]
      rfl

/-- A string of characters is written character by character. -/
theorem dumpEscaped_utf8Text (characters : List Char) :
    dumpEscaped (utf8Text characters) =
      .ok (characters.flatMap escapedChar) := by
  rw [dumpEscaped, dumpEscapedFrom_utf8Text, List.nil_append]

/-! ## Only characters are written -/

/-- The bytes are written from a state on. -/
def Dumps (last : UInt8) (state : Nat) (bytes : ByteString) : Prop :=
  ∃ i codep written text,
    dumpEscapedFrom last bytes i (UInt8.ofNat state) codep written = .ok text

/-- What is written ends at a boundary, or goes on behind one byte. -/
theorem Dumps.cases {last : UInt8} {state : Nat} {bytes : ByteString}
    (small : state < 9) (dumps : Dumps last state bytes) :
    (bytes = [] ∧ state = 0) ∨
      ∃ byte rest,
        bytes = byte :: rest ∧
          stateBehind state byte.toNat ≠ 1 ∧
          Dumps last (stateBehind state byte.toNat) rest := by
  rcases dumps with ⟨i, codep, written, text, dumped⟩
  cases bytes with
  | nil =>
      refine .inl ⟨rfl, ?_⟩
      rw [dumpEscapedFrom] at dumped
      split_ifs at dumped with accepted
      have number : (UInt8.ofNat state).toNat = state :=
        toNat_ofNat_byte (by omega)
      rw [accepted] at number
      exact number.symm
  | cons byte rest =>
      refine .inr ⟨byte, rest, rfl, ?_⟩
      have behind := decode_state small codep byte
      rw [dumpEscapedFrom] at dumped
      simp only [behind] at dumped
      split_ifs at dumped with accepted rejected
      · have zero := toNat_ofNat_byte (lt_trans (stateBehind_lt state byte.toNat)
          (by decide : 9 < 256))
        rw [accepted] at zero
        rw [← zero]
        exact ⟨by decide, _, _, _, _, by rw [accepted] at dumped; exact dumped⟩
      · refine ⟨fun one => rejected ?_, _, _, _, _, dumped⟩
        rw [one]
        rfl

theorem behindTail_inRange {first last next byte : Nat}
    (accepted : behindTail first last next byte ≠ 1) :
    (first ≤ byte ∧ byte ≤ last) ∧ behindTail first last next byte = next := by
  rw [behindTail] at accepted ⊢
  split_ifs at accepted ⊢ with inRange
  · exact ⟨inRange, rfl⟩
  · exact absurd rfl accepted

/-- Behind a state that waits for tail bytes there is the next one. -/
theorem Dumps.tail {last : UInt8} {state first lastByte next : Nat}
    {bytes : ByteString} (small : state < 9) (notBoundary : state ≠ 0)
    (row : ∀ byte, stateBehind state byte = behindTail first lastByte next byte)
    (dumps : Dumps last state bytes) :
    ∃ byte rest,
      bytes = byte :: rest ∧
        (first ≤ byte.toNat ∧ byte.toNat ≤ lastByte) ∧
        Dumps last next rest := by
  rcases dumps.cases small with ⟨-, boundary⟩ | ⟨byte, rest, same, accepted, further⟩
  · exact absurd boundary notBoundary
  · rw [row] at accepted further
    rcases behindTail_inRange accepted with ⟨inRange, behind⟩
    rw [behind] at further
    exact ⟨byte, rest, same, inRange, further⟩

/-- The lead bytes, by the state behind them. -/
theorem behindLead_cases {byte : Nat} (accepted : behindLead byte ≠ 1) :
    (byte < 0x80 ∧ behindLead byte = 0) ∨
    (0xC2 ≤ byte ∧ byte ≤ 0xDF ∧ behindLead byte = 2) ∨
    (byte = 0xE0 ∧ behindLead byte = 4) ∨
    (byte = 0xED ∧ behindLead byte = 5) ∨
    (0xE0 < byte ∧ byte ≤ 0xEF ∧ byte ≠ 0xED ∧ behindLead byte = 3) ∨
    (byte = 0xF0 ∧ behindLead byte = 6) ∨
    (0xF0 < byte ∧ byte < 0xF4 ∧ behindLead byte = 7) ∨
    (byte = 0xF4 ∧ behindLead byte = 8) := by
  unfold behindLead at accepted ⊢
  split_ifs at accepted ⊢ <;> omega

/-- The bytes begin with a whole character, and the others are written. -/
def BeginsWithCharacter (last : UInt8) (bytes : ByteString) : Prop :=
  ∃ character rest point,
    bytes = character ++ rest ∧
      Utf8Sequence character point ∧
      Dumps last 0 rest

theorem Dumps.three {last lead : UInt8} {state first lastByte : Nat}
    {rest : ByteString} (lower : 0xE0 ≤ lead.toNat) (upper : lead.toNat ≤ 0xEF)
    (small : state < 9) (notBoundary : state ≠ 0)
    (row : ∀ byte, stateBehind state byte = behindTail first lastByte 2 byte)
    (second :
      ∀ byte : UInt8, first ≤ byte.toNat ∧ byte.toNat ≤ lastByte →
        SecondByte lead byte)
    (dumps : Dumps last state rest) :
    BeginsWithCharacter last (lead :: rest) := by
  rcases dumps.tail small notBoundary row with
    ⟨secondByte, rest, rfl, inRange, dumps⟩
  rcases dumps.tail (by decide) (by decide) (fun _ => rfl) with
    ⟨third, rest, rfl, tail, dumps⟩
  exact
    ⟨[lead, secondByte, third], rest, _, rfl,
      .three lead secondByte third lower upper (second secondByte inRange) tail,
      dumps⟩

theorem Dumps.four {last lead : UInt8} {state first lastByte : Nat}
    {rest : ByteString} (lower : 0xF0 ≤ lead.toNat) (upper : lead.toNat ≤ 0xF4)
    (small : state < 9) (notBoundary : state ≠ 0)
    (row : ∀ byte, stateBehind state byte = behindTail first lastByte 3 byte)
    (second :
      ∀ byte : UInt8, first ≤ byte.toNat ∧ byte.toNat ≤ lastByte →
        SecondByte lead byte)
    (dumps : Dumps last state rest) :
    BeginsWithCharacter last (lead :: rest) := by
  rcases dumps.tail small notBoundary row with
    ⟨secondByte, rest, rfl, inRange, dumps⟩
  rcases dumps.tail (by decide) (by decide) (fun _ => rfl) with
    ⟨third, rest, rfl, thirdTail, dumps⟩
  rcases dumps.tail (by decide) (by decide) (fun _ => rfl) with
    ⟨fourth, rest, rfl, tail, dumps⟩
  exact
    ⟨[lead, secondByte, third, fourth], rest, _, rfl,
      .four lead secondByte third fourth lower upper
        (second secondByte inRange) thirdTail tail,
      dumps⟩

/-- A second byte in a range that its lead byte allows. -/
theorem secondByte_of_range (first lastByte : Nat) {lead byte : UInt8}
    (inRange : first ≤ byte.toNat ∧ byte.toNat ≤ lastByte)
    (lower : 0x80 ≤ first) (upper : lastByte ≤ 0xBF)
    (notShortThree : lead.toNat = 0xE0 → 0xA0 ≤ first)
    (noSurrogate : lead.toNat = 0xED → lastByte ≤ 0x9F)
    (notShortFour : lead.toNat = 0xF0 → 0x90 ≤ first)
    (inUnicode : lead.toNat = 0xF4 → lastByte ≤ 0x8F) :
    SecondByte lead byte where
  tail := ⟨by omega, by omega⟩
  notShortThree same := by
    have bound := notShortThree same
    omega
  noSurrogate same := by
    have bound := noSurrogate same
    omega
  notShortFour same := by
    have bound := notShortFour same
    omega
  inUnicode same := by
    have bound := inUnicode same
    omega

/-- What is written begins with a whole character. -/
theorem Dumps.begins {last : UInt8} {bytes : ByteString}
    (dumps : Dumps last 0 bytes) :
    bytes = [] ∨ BeginsWithCharacter last bytes := by
  rcases dumps.cases (by decide) with
    ⟨empty, -⟩ | ⟨lead, rest, rfl, accepted, further⟩
  · exact .inl empty
  refine .inr ?_
  change behindLead lead.toNat ≠ 1 at accepted
  change Dumps last (behindLead lead.toNat) rest at further
  rcases behindLead_cases accepted with
    ⟨ascii, behind⟩ | ⟨lower, upper, behind⟩ | ⟨value, behind⟩ |
    ⟨value, behind⟩ | ⟨lower, upper, differ, behind⟩ | ⟨value, behind⟩ |
    ⟨lower, upper, behind⟩ | ⟨value, behind⟩
  all_goals rw [behind] at further
  · exact ⟨[lead], rest, _, rfl, .one lead ascii, further⟩
  · rcases further.tail (by decide) (by decide) (fun _ => rfl) with
      ⟨second, rest, rfl, tail, further⟩
    exact
      ⟨[lead, second], rest, _, rfl, .two lead second lower upper tail, further⟩
  · refine further.three (by omega) (by omega) (by decide) (by decide)
      (fun _ => rfl) fun byte inRange => ?_
    apply secondByte_of_range _ _ inRange <;> omega
  · refine further.three (by omega) (by omega) (by decide) (by decide)
      (fun _ => rfl) fun byte inRange => ?_
    apply secondByte_of_range _ _ inRange <;> omega
  · refine further.three (by omega) upper (by decide) (by decide)
      (fun _ => rfl) fun byte inRange => ?_
    apply secondByte_of_range _ _ inRange <;> omega
  · refine further.four (by omega) (by omega) (by decide) (by decide)
      (fun _ => rfl) fun byte inRange => ?_
    apply secondByte_of_range _ _ inRange <;> omega
  · refine further.four (by omega) (by omega) (by decide) (by decide)
      (fun _ => rfl) fun byte inRange => ?_
    apply secondByte_of_range _ _ inRange <;> omega
  · refine further.four (by omega) (by omega) (by decide) (by decide)
      (fun _ => rfl) fun byte inRange => ?_
    apply secondByte_of_range _ _ inRange <;> omega

theorem Dumps.validUtf8 {last : UInt8} {bytes : ByteString}
    (dumps : Dumps last 0 bytes) : ValidUtf8 bytes := by
  induction length : bytes.length using Nat.strong_induction_on
    generalizing bytes with
  | _ length shorter =>
      rcases dumps.begins with rfl | ⟨character, rest, point, rfl, sequence, further⟩
      · exact validUtf8_nil
      · have nonempty := sequence.length_pos
        rw [List.length_append] at length
        have restValid := shorter rest.length (by omega) further rfl
        exact sequence.validUtf8.append restValid

/-- A string has a text if and only if it is valid UTF-8. -/
theorem dumpEscaped_ok_iff (bytes : ByteString) :
    (∃ text, dumpEscaped bytes = .ok text) ↔ ValidUtf8 bytes := by
  constructor
  · rintro ⟨text, dumped⟩
    exact Dumps.validUtf8 ⟨0, 0, [], text, dumped⟩
  · rintro ⟨characters, rfl⟩
    exact ⟨_, dumpEscaped_utf8Text characters⟩

/-- The exception of a string that has no text. -/
theorem dumpEscapedFrom_error {last : UInt8} {bytes : ByteString} {i : Nat}
    {state : UInt8} {codep : UInt32} {written : ByteString}
    {exception : JsonException}
    (raised :
      dumpEscapedFrom last bytes i state codep written = .error exception) :
    ∃ message, exception = .typeError 316 message := by
  induction bytes generalizing i state codep written with
  | nil =>
      rw [dumpEscapedFrom] at raised
      split_ifs at raised
      exact ⟨_, (Except.error.inj raised).symm⟩
  | cons byte rest recursive =>
      rw [dumpEscapedFrom] at raised
      dsimp only at raised
      split_ifs at raised
      · exact recursive raised
      · exact ⟨_, (Except.error.inj raised).symm⟩
      · exact recursive raised

end IocpServer.Json
