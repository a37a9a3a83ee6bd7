import IocpServer.Json.Serializer
import IocpServer.Library.Fallible

/-!
# The indentation of a text

`serializer::dump` takes the blanks of an indented text from `indent_string`.
It has 512 of them at first, and an object or an array doubles it at most
once.  Up to 1024 blanks a level that is enough at every depth, and the text is
the one of `JsonValue.dump`.  More of them are read from behind the string.
-/

namespace IocpServer.Json

open IocpServer.Library

/--
What ends a call of the serializer early: an exception, or a read behind the
zero that ends `indent_string`.
-/
inductive SerializerFault where
  | exception (exception : JsonException)
  | readBehind (size count : Nat)
deriving DecidableEq, Repr

/-- A call of the serializer; its state is `indent_string.size()`. -/
abbrev SerializerCall := StateT Nat (Except SerializerFault)

/-- An array or an object that is not empty. -/
def JsonValue.HasLines {Number : Type} : JsonValue Number → Prop
  | .array elements => elements ≠ []
  | .object members => members ≠ []
  | _ => False

namespace Serializer

variable {Number : Type} [FloatArithmetic Number]

/-! ## The serializer -/

/-- A call that does not use `indent_string`. -/
def ofExcept {Value : Type} (result : Except JsonException Value) :
    SerializerCall Value := fun size =>
  match result with
  | .ok value => .ok (value, size)
  | .error exception => .error (.exception exception)

/-- `indent_string.resize(indent_string.size() * 2, ' ')`, where it is short. -/
def resizeIndentString (newIndent : UInt32) : SerializerCall Unit := fun size =>
  .ok ((), if size < newIndent.toNat then size * 2 else size)

/-- `write_characters(indent_string.c_str(), indent)`. -/
def writeIndent (indent : UInt32) : SerializerCall ByteString := fun size =>
  if indent.toNat ≤ size + 1 then
    .ok ((List.replicate size 32 ++ [(0 : UInt8)]).take indent.toNat, size)
  else
    .error (.readBehind size indent.toNat)

/-- What is written in front of an element. -/
def elementIndent (prettyPrint : Bool) (newIndent : UInt32) :
    SerializerCall ByteString :=
  if prettyPrint then writeIndent newIndent else return []

/-- What is written behind an element that is not the last. -/
def elementEnd (prettyPrint : Bool) : ByteString :=
  if prettyPrint then literal ",\n" else literal ","

/-- What is written behind the characters of a key. -/
def keyEnd (prettyPrint : Bool) : ByteString :=
  if prettyPrint then literal "\": " else literal "\":"

mutual

/-- `serializer::dump`. -/
def dump (floats : FloatText Number) (prettyPrint : Bool)
    (indentStep currentIndent : UInt32) :
    JsonValue Number → SerializerCall ByteString
  | .object members =>
      if members.isEmpty then
        return literal "\x7b\x7d"
      else if prettyPrint then do
        let newIndent := currentIndent + indentStep
        resizeIndentString newIndent
        let text ← dumpMembers floats true indentStep newIndent members
        let blanks ← writeIndent currentIndent
        return literal "\x7b\n" ++ text ++ literal "\n" ++ blanks ++
          literal "\x7d"
      else do
        let text ←
          dumpMembers floats false indentStep currentIndent members
        return literal "\x7b" ++ text ++ literal "\x7d"
  | .array elements =>
      if elements.isEmpty then
        return literal "[]"
      else if prettyPrint then do
        let newIndent := currentIndent + indentStep
        resizeIndentString newIndent
        let text ← dumpElements floats true indentStep newIndent elements
        let blanks ← writeIndent currentIndent
        return literal "[\n" ++ text ++ literal "\n" ++ blanks ++ literal "]"
      else do
        let text ←
          dumpElements floats false indentStep currentIndent elements
        return literal "[" ++ text ++ literal "]"
  | .string value => ofExcept (JsonValue.dumpString value)
  | .boolean value =>
      return if value then literal "true" else literal "false"
  | .numberInteger value => return dumpInteger value.toInt
  | .numberUnsigned value => return dumpInteger value.toNat
  | .numberFloat value => return JsonValue.dumpFloat floats value
  | .null => return literal "null"

/-- The loop over the elements of an array, and the last element. -/
def dumpElements (floats : FloatText Number) (prettyPrint : Bool)
    (indentStep newIndent : UInt32) :
    List (JsonValue Number) → SerializerCall ByteString
  | [] => return []
  | [element] => do
      let blanks ← elementIndent prettyPrint newIndent
      let text ← dump floats prettyPrint indentStep newIndent element
      return blanks ++ text
  | element :: elements => do
      let blanks ← elementIndent prettyPrint newIndent
      let text ← dump floats prettyPrint indentStep newIndent element
      let others ←
        dumpElements floats prettyPrint indentStep newIndent elements
      return blanks ++ text ++ elementEnd prettyPrint ++ others

/-- The loop over the members of an object, and the last member. -/
def dumpMembers (floats : FloatText Number) (prettyPrint : Bool)
    (indentStep newIndent : UInt32) :
    List (ByteString × JsonValue Number) → SerializerCall ByteString
  | [] => return []
  | [(key, value)] => do
      let blanks ← elementIndent prettyPrint newIndent
      let escaped ← ofExcept (dumpEscaped key)
      let text ← dump floats prettyPrint indentStep newIndent value
      return blanks ++ literal "\"" ++ escaped ++ keyEnd prettyPrint ++ text
  | (key, value) :: members => do
      let blanks ← elementIndent prettyPrint newIndent
      let escaped ← ofExcept (dumpEscaped key)
      let text ← dump floats prettyPrint indentStep newIndent value
      let others ←
        dumpMembers floats prettyPrint indentStep newIndent members
      return blanks ++ literal "\"" ++ escaped ++ keyEnd prettyPrint ++ text ++
        elementEnd prettyPrint ++ others

end

/-! ## The text that is written -/

/--
The call writes the text, or raises the exception; it does not shorten
`indent_string`.
-/
def Writes (call : SerializerCall ByteString) (size : Nat) :
    Except JsonException ByteString → Prop
  | .ok text => ∃ longer, size ≤ longer ∧ call size = .ok (text, longer)
  | .error exception => call size = .error (.exception exception)

theorem resizeIndentString_grows (newIndent : UInt32) (size : Nat) :
    size ≤ if size < newIndent.toNat then size * 2 else size := by
  split_ifs <;> omega

section Calls

variable {size : Nat} {call : SerializerCall ByteString}
  {written : Except JsonException ByteString}

omit [FloatArithmetic Number]

theorem writes_pure (text : ByteString) : Writes (pure text) size (.ok text) :=
  ⟨size, le_rfl, rfl⟩

theorem writes_ofExcept (result : Except JsonException ByteString) :
    Writes (ofExcept result) size result := by
  cases result with
  | error exception => rfl
  | ok text => exact ⟨size, le_rfl, rfl⟩

/-- One call behind the other, which raises what the first raises. -/
theorem Writes.andThen {rest : ByteString → SerializerCall ByteString}
    {whole : Except JsonException ByteString}
    (writes : Writes call size written)
    (raised :
      ∀ exception, written = .error exception → whole = .error exception)
    (restWrites :
      ∀ text longer, written = .ok text → size ≤ longer →
        Writes (rest text) longer whole) :
    Writes (call >>= rest) size whole := by
  cases written with
  | error exception =>
      have called : call size = .error (.exception exception) := writes
      rw [raised exception rfl]
      change (call size >>= fun behind => rest behind.1 behind.2) = _
      rw [called]
      rfl
  | ok text =>
      rcases writes with ⟨longer, grown, called⟩
      have same : (call >>= rest) size = rest text longer := by
        change (call size >>= fun behind => rest behind.1 behind.2) = _
        rw [called]
        rfl
      have inRest := restWrites text longer rfl grown
      cases whole with
      | error exception => exact same.trans inRest
      | ok result =>
          rcases inRest with ⟨longest, further, returned⟩
          exact ⟨longest, grown.trans further, same.trans returned⟩

/-- One call behind the other, and one text behind the other. -/
theorem Writes.bind {rest : ByteString → SerializerCall ByteString}
    {further : ByteString → Except JsonException ByteString}
    (writes : Writes call size written)
    (restWrites :
      ∀ text longer, size ≤ longer →
        Writes (rest text) longer (further text)) :
    Writes (call >>= rest) size (written >>= further) := by
  refine writes.andThen (fun exception raised => ?_)
    fun text longer ended grown => ?_
  · rw [raised]
    rfl
  · rw [ended]
    exact restWrites text longer grown

/-- A call whose text has something in front of the one that is compared. -/
theorem Writes.behindFront {front : ByteString}
    {view other : ByteString → ByteString}
    (writes :
      Writes call size
        (do
          let text ← written
          return front ++ text))
    (same : ∀ text, view (front ++ text) = other text) :
    Writes
      (do
        let text ← call
        return view text)
      size
      (do
        let text ← written
        return other text) := by
  cases written with
  | error exception =>
      exact
        writes.andThen (fun _ raised => raised) fun _ _ ended => nomatch ended
  | ok text =>
      refine writes.andThen (fun _ raised => nomatch raised)
        fun whole longer ended _ => ?_
      cases ended
      change Writes _ longer (.ok (other text))
      rw [← same text]
      exact writes_pure _

/-- A call behind the `indent_string` of the next level. -/
theorem Writes.behindResize {newIndent : UInt32}
    (writes :
      Writes call (if size < newIndent.toNat then size * 2 else size) written) :
    Writes
      (do
        resizeIndentString newIndent
        call)
      size written := by
  cases written with
  | error exception => exact writes
  | ok text =>
      rcases writes with ⟨longer, grown, called⟩
      have begun := resizeIndentString_grows newIndent size
      exact ⟨longer, begun.trans grown, called⟩

end Calls

/--
`indent_string` has the blanks of an indentation, and its double has those of
the next level.
-/
def Reaches (indentStep indent : UInt32) (size : Nat) : Prop :=
  indent.toNat ≤ size ∧
    (indent = 0 ∧ 512 ≤ size ∨ indentStep.toNat ≤ size)

theorem Reaches.mono {indentStep indent : UInt32} {size longer : Nat}
    (reaches : Reaches indentStep indent size) (grown : size ≤ longer) :
    Reaches indentStep indent longer := by
  rcases reaches with ⟨here, first | later⟩
  · exact ⟨here.trans grown, .inl ⟨first.1, first.2.trans grown⟩⟩
  · exact ⟨here.trans grown, .inr (later.trans grown)⟩

/-- What was doubled has the blanks of the next level, and goes on. -/
theorem Reaches.resized {indentStep indent : UInt32} {size : Nat}
    (reaches : Reaches indentStep indent size)
    (short : indentStep.toNat ≤ 1024) :
    Reaches indentStep (indent + indentStep)
      (if size < (indent + indentStep).toNat then size * 2 else size) := by
  have sum : (indent + indentStep).toNat ≤ indent.toNat + indentStep.toNat := by
    rw [UInt32.toNat_add]
    exact Nat.mod_le _ _
  rcases reaches with ⟨here, ⟨rfl, begun⟩ | later⟩
  · rw [UInt32.zero_add] at sum ⊢
    split_ifs with tooShort
    · exact ⟨by omega, .inr (by omega)⟩
    · exact ⟨by omega, .inr (by omega)⟩
  · split_ifs with tooShort
    · exact ⟨by omega, .inr (by omega)⟩
    · exact ⟨by omega, .inr later⟩

/-- The blanks in front of an element. -/
def blanks (prettyPrint : Bool) (indent : UInt32) : ByteString :=
  if prettyPrint then List.replicate indent.toNat 32 else []

/-- The indentation of a text, which may have none. -/
def stepOf (prettyPrint : Bool) (indentStep : UInt32) : Option UInt32 :=
  if prettyPrint then some indentStep else none

theorem writeIndent_of_le {indent : UInt32} {size : Nat}
    (reaches : indent.toNat ≤ size) :
    writeIndent indent size = .ok (List.replicate indent.toNat 32, size) := by
  rw [writeIndent, if_pos (by omega), List.take_append_of_le_length]
  · rw [List.take_replicate, min_eq_left reaches]
  · rw [List.length_replicate]
    exact reaches

theorem writes_elementIndent {prettyPrint : Bool} {indent : UInt32}
    {size : Nat} (reaches : prettyPrint = true → indent.toNat ≤ size) :
    Writes (elementIndent prettyPrint indent) size
      (.ok (blanks prettyPrint indent)) := by
  cases prettyPrint with
  | false => exact writes_pure []
  | true => exact ⟨size, le_rfl, writeIndent_of_le (reaches rfl)⟩

/-- What follows the blanks in front of an element. -/
theorem Writes.behindBlanks {prettyPrint : Bool} {indent : UInt32} {size : Nat}
    {rest : ByteString → SerializerCall ByteString}
    {written : Except JsonException ByteString}
    (reaches : prettyPrint = true → indent.toNat ≤ size)
    (restWrites :
      ∀ longer, size ≤ longer →
        Writes (rest (blanks prettyPrint indent)) longer written) :
    Writes (elementIndent prettyPrint indent >>= rest) size written := by
  refine (writes_elementIndent reaches).andThen (fun _ raised => nomatch raised)
    fun text longer same grown => ?_
  cases same
  exact restWrites longer grown

/-- An object or an array with line breaks. -/
theorem writes_indented {indentStep indent : UInt32} {size : Nat}
    {body : SerializerCall ByteString}
    {written : Except JsonException ByteString}
    (opening closing : ByteString) (short : indentStep.toNat ≤ 1024)
    (reaches : Reaches indentStep indent size)
    (bodyWrites :
      ∀ longer, Reaches indentStep (indent + indentStep) longer →
        Writes body longer
          (do
            let text ← written
            return blanks true (indent + indentStep) ++ text)) :
    Writes
      (do
        resizeIndentString (indent + indentStep)
        let text ← body
        let blanks ← writeIndent indent
        return opening ++ [10] ++ text ++ literal "\n" ++ blanks ++ closing)
      size
      (do
        let text ← written
        return opening ++
          JsonValue.lineBreak (some indentStep) (indent + indentStep) ++ text ++
          JsonValue.lineBreak (some indentStep) indent ++ closing) := by
  refine Writes.behindResize ?_
  have reached := reaches.resized short
  have grown := resizeIndentString_grows (indent + indentStep) size
  refine (bodyWrites _ reached).andThen (fun exception raised => ?_)
    fun inner longer ended further => ?_
  · cases written with
    | error other =>
        cases raised
        rfl
    | ok text => cases raised
  · change Writes (elementIndent true indent >>= _) longer _
    refine Writes.behindBlanks (fun _ => reaches.1.trans (grown.trans further))
      fun longest _ => ?_
    cases written with
    | error exception => cases ended
    | ok text =>
        cases ended
        have same :
            opening ++ JsonValue.lineBreak (some indentStep)
                  (indent + indentStep) ++ text ++
                JsonValue.lineBreak (some indentStep) indent ++ closing =
              opening ++ [10] ++
                (blanks true (indent + indentStep) ++ text) ++ literal "\n" ++
                  blanks true indent ++ closing := by
          have newline : literal "\n" = [10] := by decide
          simp only [newline, JsonValue.lineBreak, blanks, List.append_assoc,
            List.cons_append, List.nil_append, if_true]
        change Writes _ longest (.ok _)
        rw [same]
        exact writes_pure _

/-- The end of an element, and the blanks of the next one. -/
theorem elementEnd_append (prettyPrint : Bool) (indentStep indent : UInt32)
    (others : ByteString) :
    elementEnd prettyPrint ++ (blanks prettyPrint indent ++ others) =
      literal "," ++
        (JsonValue.lineBreak (stepOf prettyPrint indentStep) indent ++
          others) := by
  cases prettyPrint <;> rfl

/-- The quotation mark behind a key, and what is between key and value. -/
theorem keyEnd_eq (prettyPrint : Bool) (indentStep : UInt32) :
    keyEnd prettyPrint =
      literal "\"" ++
        JsonValue.keySeparator (stepOf prettyPrint indentStep) := by
  cases prettyPrint <;> rfl

/-- An object or an array in one line. -/
theorem writes_compact {indent : UInt32} {size : Nat}
    {body : SerializerCall ByteString}
    {written : Except JsonException ByteString} (opening closing : ByteString)
    (bodyWrites :
      Writes body size
        (do
          let text ← written
          return blanks false indent ++ text)) :
    Writes
      (do
        let text ← body
        return opening ++ text ++ closing)
      size
      (do
        let text ← written
        return opening ++ JsonValue.lineBreak none indent ++ text ++
          JsonValue.lineBreak none indent ++ closing) := by
  refine bodyWrites.behindFront fun text => ?_
  simp only [blanks, JsonValue.lineBreak, Bool.false_eq_true, if_false,
    List.nil_append, List.append_nil]

mutual

/-- The serializer writes the text as long as its blanks reach. -/
theorem writes_dump (floats : FloatText Number) {prettyPrint : Bool}
    {indentStep indent : UInt32} {size : Nat} (value : JsonValue Number)
    (short : indentStep.toNat ≤ 1024)
    (reaches : prettyPrint = true → Reaches indentStep indent size) :
    Writes (dump floats prettyPrint indentStep indent value) size
      (value.dump floats (stepOf prettyPrint indentStep) indent) := by
  match value with
  | .null => exact writes_pure _
  | .boolean _ => exact writes_pure _
  | .numberInteger _ => exact writes_pure _
  | .numberUnsigned _ => exact writes_pure _
  | .numberFloat _ => exact writes_pure _
  | .string text => exact writes_ofExcept _
  | .array [] => exact writes_pure _
  | .array (element :: elements) =>
      rw [dump, JsonValue.dump]
      cases prettyPrint with
      | false =>
          simp only [List.isEmpty_cons, Bool.false_eq_true, if_false, stepOf,
            Option.getD_none, UInt32.add_zero]
          exact writes_compact _ _
            (writes_dumpElements floats (element :: elements) short nofun
              (List.cons_ne_nil _ _))
      | true =>
          have opening : literal "[\n" = literal "[" ++ [10] := by decide
          simp only [List.isEmpty_cons, Bool.false_eq_true, if_false, if_true,
            opening]
          exact writes_indented _ _ short (reaches rfl) fun longer reached =>
            writes_dumpElements floats (element :: elements) short
              (fun _ => reached) (List.cons_ne_nil _ _)
  | .object [] => exact writes_pure _
  | .object (member :: members) =>
      rw [dump, JsonValue.dump]
      cases prettyPrint with
      | false =>
          simp only [List.isEmpty_cons, Bool.false_eq_true, if_false, stepOf,
            Option.getD_none, UInt32.add_zero]
          exact writes_compact _ _
            (writes_dumpMembers floats (member :: members) short nofun
              (List.cons_ne_nil _ _))
      | true =>
          have opening : literal "\x7b\n" = literal "\x7b" ++ [10] := by decide
          simp only [List.isEmpty_cons, Bool.false_eq_true, if_false, if_true,
            opening]
          exact writes_indented _ _ short (reaches rfl) fun longer reached =>
            writes_dumpMembers floats (member :: members) short
              (fun _ => reached) (List.cons_ne_nil _ _)

theorem writes_dumpElements (floats : FloatText Number) {prettyPrint : Bool}
    {indentStep indent : UInt32} {size : Nat}
    (elements : List (JsonValue Number)) (short : indentStep.toNat ≤ 1024)
    (reaches : prettyPrint = true → Reaches indentStep indent size)
    (nonempty : elements ≠ []) :
    Writes (dumpElements floats prettyPrint indentStep indent elements) size
      (do
        let text ←
          JsonValue.dumpElements floats (stepOf prettyPrint indentStep) indent
            elements
        return blanks prettyPrint indent ++ text) := by
  match elements with
  | [] => exact absurd rfl nonempty
  | [element] =>
      rw [dumpElements, JsonValue.dumpElements]
      refine Writes.behindBlanks (fun pretty => (reaches pretty).1)
        fun longer grown => ?_
      have first :=
        writes_dump floats element short
          fun pretty => (reaches pretty).mono grown
      exact first.bind fun text _ _ => writes_pure _
  | element :: second :: elements =>
      rw [dumpElements, JsonValue.dumpElements_several, bind_assoc]
      · refine Writes.behindBlanks (fun pretty => (reaches pretty).1)
          fun longer grown => ?_
        have first :=
          writes_dump floats element short
            fun pretty => (reaches pretty).mono grown
        refine first.bind fun text longest further => ?_
        have others :=
          writes_dumpElements floats (second :: elements) short
            (fun pretty => (reaches pretty).mono (grown.trans further))
            (List.cons_ne_nil _ _)
        rw [bind_assoc]
        refine others.behindFront fun rest => ?_
        simp only [List.append_assoc, elementEnd_append _ indentStep]
      · exact List.cons_ne_nil _ _

theorem writes_dumpMembers (floats : FloatText Number) {prettyPrint : Bool}
    {indentStep indent : UInt32} {size : Nat}
    (members : List (ByteString × JsonValue Number))
    (short : indentStep.toNat ≤ 1024)
    (reaches : prettyPrint = true → Reaches indentStep indent size)
    (nonempty : members ≠ []) :
    Writes (dumpMembers floats prettyPrint indentStep indent members) size
      (do
        let text ←
          JsonValue.dumpMembers floats (stepOf prettyPrint indentStep) indent
            members
        return blanks prettyPrint indent ++ text) := by
  match members with
  | [] => exact absurd rfl nonempty
  | [(key, value)] =>
      rw [dumpMembers, JsonValue.dumpMembers, JsonValue.dumpString]
      simp only [bind_assoc, pure_bind]
      refine Writes.behindBlanks (fun pretty => (reaches pretty).1)
        fun longer grown => ?_
      refine (writes_ofExcept (dumpEscaped key)).bind
        fun escaped longest further => ?_
      have first :=
        writes_dump floats value short
          fun pretty => (reaches pretty).mono (grown.trans further)
      refine first.bind fun text _ _ => ?_
      simp only [List.append_assoc, keyEnd_eq _ indentStep]
      exact writes_pure _
  | (key, value) :: second :: members =>
      rw [dumpMembers, JsonValue.dumpMembers_several, JsonValue.dumpString]
      · simp only [bind_assoc, pure_bind]
        refine Writes.behindBlanks (fun pretty => (reaches pretty).1)
          fun longer grown => ?_
        refine (writes_ofExcept (dumpEscaped key)).bind
          fun escaped longest further => ?_
        have first :=
          writes_dump floats value short
            fun pretty => (reaches pretty).mono (grown.trans further)
        refine first.bind fun text longestText behind => ?_
        have others :=
          writes_dumpMembers floats (second :: members) short
            (fun pretty =>
              (reaches pretty).mono (grown.trans (further.trans behind)))
            (List.cons_ne_nil _ _)
        refine others.behindFront fun rest => ?_
        simp only [List.append_assoc, elementEnd_append _ indentStep,
          keyEnd_eq _ indentStep]
      · exact List.cons_ne_nil _ _

end

/-! ## An indentation that is too long -/

theorem writeIndent_readBehind {indent : UInt32} {size : Nat}
    (behind : size + 1 < indent.toNat)
    (rest : ByteString → SerializerCall ByteString) :
    (elementIndent true indent >>= rest) size =
      .error (.readBehind size indent.toNat) := by
  change (writeIndent indent size >>= fun after => rest after.1 after.2) = _
  rw [writeIndent, if_neg (by omega)]
  rfl

theorem dumpElements_readBehind {floats : FloatText Number}
    {indentStep indent : UInt32} {size : Nat}
    {elements : List (JsonValue Number)} (behind : size + 1 < indent.toNat)
    (nonempty : elements ≠ []) :
    dumpElements floats true indentStep indent elements size =
      .error (.readBehind size indent.toNat) := by
  match elements with
  | [] => exact absurd rfl nonempty
  | [element] =>
      rw [dumpElements]
      exact writeIndent_readBehind behind _
  | element :: second :: elements =>
      rw [dumpElements]
      · exact writeIndent_readBehind behind _
      · exact List.cons_ne_nil _ _

theorem dumpMembers_readBehind {floats : FloatText Number}
    {indentStep indent : UInt32} {size : Nat}
    {members : List (ByteString × JsonValue Number)}
    (behind : size + 1 < indent.toNat) (nonempty : members ≠ []) :
    dumpMembers floats true indentStep indent members size =
      .error (.readBehind size indent.toNat) := by
  match members with
  | [] => exact absurd rfl nonempty
  | [(key, value)] =>
      rw [dumpMembers]
      exact writeIndent_readBehind behind _
  | (key, value) :: second :: members =>
      rw [dumpMembers]
      · exact writeIndent_readBehind behind _
      · exact List.cons_ne_nil _ _

/-- A first indentation that the doubled string does not have. -/
theorem dump_readBehind {floats : FloatText Number} {indentStep : UInt32}
    {value : JsonValue Number} (long : 1025 < indentStep.toNat)
    (lines : value.HasLines) :
    dump floats true indentStep 0 value 512 =
      .error (.readBehind 1024 indentStep.toNat) := by
  have resized :
      (if 512 < ((0 : UInt32) + indentStep).toNat then 512 * 2 else 512) =
        1024 := by
    rw [UInt32.zero_add, if_pos (by omega)]
  match value, lines with
  | .array (element :: elements), lines =>
      rw [dump]
      simp only [List.isEmpty_cons, Bool.false_eq_true, if_false, if_true]
      change
        (dumpElements floats true indentStep (0 + indentStep)
            (element :: elements) _ >>= _) = _
      rw [resized, UInt32.zero_add, dumpElements_readBehind long lines]
      rfl
  | .object (member :: members), lines =>
      rw [dump]
      simp only [List.isEmpty_cons, Bool.false_eq_true, if_false, if_true]
      change
        (dumpMembers floats true indentStep (0 + indentStep)
            (member :: members) _ >>= _) = _
      rw [resized, UInt32.zero_add, dumpMembers_readBehind long lines]
      rfl

/-! ## One call -/

theorem Writes.run' {call : SerializerCall ByteString} {size : Nat}
    {written : Except JsonException ByteString}
    (writes : Writes call size written) :
    call.run' size = written.mapError .exception := by
  cases written with
  | error exception =>
      have raised : call size = .error (.exception exception) := writes
      change Prod.fst <$> call size = _
      rw [raised]
      rfl
  | ok text =>
      rcases writes with ⟨longer, -, called⟩
      change Prod.fst <$> call size = _
      rw [called]
      rfl

end Serializer

/-- `basic_json::dump`. -/
def basicJsonDump {Number : Type} [FloatArithmetic Number]
    (floats : FloatText Number) (value : JsonValue Number) (indent : Int32) :
    Except SerializerFault ByteString :=
  if 0 ≤ indent then
    (Serializer.dump floats true indent.toUInt32 0 value).run' 512
  else
    (Serializer.dump floats false 0 0 value).run' 512

/-- The indentation of a text; a negative one is none. -/
def indentation (indent : Int32) : Option UInt32 :=
  if 0 ≤ indent then some indent.toUInt32 else none

variable {Number : Type} [FloatArithmetic Number] {floats : FloatText Number}

theorem toNat_toUInt32_of_nonneg {indent : Int32} (nonneg : 0 ≤ indent) :
    (indent.toUInt32.toNat : Int) = indent.toInt := by
  rw [Int32.le_iff_toInt_le] at nonneg
  have zero : (0 : Int32).toInt = 0 := rfl
  have cases := BitVec.toInt_eq_toNat_cond indent.toBitVec
  change indent.toInt = _ at cases
  change (indent.toBitVec.toNat : Int) = _
  split_ifs at cases with small
  · exact cases.symm
  · omega

/-- Up to 1024 blanks a level, `indent_string` is long enough. -/
theorem basicJsonDump_eq (value : JsonValue Number) {indent : Int32}
    (short : indent ≤ 1024) :
    basicJsonDump floats value indent =
      (value.dump floats (indentation indent) 0).mapError .exception := by
  rw [basicJsonDump, indentation]
  split_ifs with nonneg
  · have few : indent.toUInt32.toNat ≤ 1024 := by
      have value := toNat_toUInt32_of_nonneg nonneg
      have bound : indent.toInt ≤ 1024 := Int32.le_iff_toInt_le.mp short
      omega
    have writes :
        Serializer.Writes (Serializer.dump floats true indent.toUInt32 0 value)
          512 (value.dump floats (some indent.toUInt32) 0) :=
      Serializer.writes_dump floats value few fun _ =>
        ⟨Nat.zero_le _, .inl ⟨rfl, le_rfl⟩⟩
    exact writes.run'
  · have writes :
        Serializer.Writes (Serializer.dump floats false 0 0 value) 512
          (value.dump floats none 0) :=
      Serializer.writes_dump floats value (by decide) nofun
    exact writes.run'

/-- With more blanks, the first line is read from behind `indent_string`. -/
theorem basicJsonDump_long {value : JsonValue Number} {indent : Int32}
    (long : 1025 < indent) (lines : value.HasLines) :
    basicJsonDump floats value indent =
      .error (.readBehind 1024 indent.toUInt32.toNat) := by
  have nonneg : 0 ≤ indent := by
    rw [Int32.lt_iff_toInt_lt] at long
    rw [Int32.le_iff_toInt_le]
    exact le_trans (by decide) long.le
  have many : 1025 < indent.toUInt32.toNat := by
    have above : (1025 : Int) < indent.toInt := Int32.lt_iff_toInt_lt.mp long
    have value := toNat_toUInt32_of_nonneg nonneg
    omega
  rw [basicJsonDump, if_pos nonneg]
  change
    Prod.fst <$> Serializer.dump floats true indent.toUInt32 0 value 512 = _
  rw [Serializer.dump_readBehind many lines]
  rfl

end IocpServer.Json
